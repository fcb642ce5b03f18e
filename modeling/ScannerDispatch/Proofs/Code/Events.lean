import ScannerDispatch.Proofs.Code.Switch

/-!
What a run looks at and what it evaluates.

* `Machine.events` are the events of a run in order; which statements are run is taken from the run.
* `Stays m P s`: a run of the statement `s` on a text that was read to its end reads nothing more, and
  all its events have the property `P`.  There is one lemma for each kind of statement.
* `Machine.run_strict`: a run that looks at characters of the text only is the same if a look beyond
  the end is a fault.
-/

namespace ScannerDispatch.Code

/-- What a run does that depends on the text. -/
inductive Event where
  /-- A switch looks at a character. -/
  | look (subject : Subject)
  /-- A value is returned, after so many characters have been read. -/
  | eval (current : Nat) (e : Expr)
deriving Repr, DecidableEq, Inhabited

namespace Machine

variable (m : Machine)

mutual

/-- What happens when a statement is run, in order. -/
def events (current : Nat) : Stmt → List Event
  | .empty | .label _ | .leave => []
  | .result e => [.eval current e]
  | .when cond body =>
    match m.test current cond with
    | (true, current) => events current body
    | (false, _) => []
  | .block body => bodyEvents current none body
  | .switch subject body =>
    .look subject ::
      match m.look subject with
      | .error _ => []
      | .ok c =>
        match entry? c body with
        | none => []
        | some l => bodyEvents current (some l) body

/-- What happens when statements are run in order, or from a label on. -/
def bodyEvents (current : Nat) : Option Label → List Stmt → List Event
  | _, [] => []
  | some l, s :: rest =>
    bodyEvents current (if s.label? = some l then none else some l) rest
  | none, s :: rest =>
    events current s ++
      match m.run current s with
      | .ok (.next, current) => bodyEvents current none rest
      | _ => []

end

/-! ## Runs that read nothing more -/

/-- On a text that was read to its end, the statement reads nothing more, and all events of its run
    have the property `P`. -/
structure Stays (P : Event → Prop) (s : Stmt) : Prop where
  read_eq : ∀ f now, m.run m.text.length s = .ok (f, now) → now = m.text.length
  events : ∀ e ∈ m.events m.text.length s, P e

variable {m} {P : Event → Prop}

theorem Stays.empty : m.Stays P .empty :=
  ⟨fun _ _ h => by cases h; rfl, by simp [Machine.events]⟩

theorem Stays.leave : m.Stays P .leave :=
  ⟨fun _ _ h => by cases h; rfl, by simp [Machine.events]⟩

theorem Stays.label (l : Label) : m.Stays P (.label l) :=
  ⟨fun _ _ h => by cases h; rfl, by simp [Machine.events]⟩

theorem Stays.result {e : Expr} (h : P (.eval m.text.length e)) : m.Stays P (.result e) := by
  refine ⟨?_, by simpa [Machine.events] using h⟩
  intro f now hr
  rw [run] at hr
  cases he : m.eval m.text.length e with
  | error fault => rw [he] at hr; cases hr
  | ok o => rw [he] at hr; cases hr; rfl

/-- The guarded statement is run on longer texts only. -/
theorem Stays.when {n : Nat} {s : Stmt} (h : n < m.text.length → m.Stays P s) :
    m.Stays P (.when (.longerThan n) s) := by
  by_cases hn : n < m.text.length
  · have ht : m.test m.text.length (.longerThan n) = (true, m.text.length) := by simp [test, hn]
    refine ⟨fun f now hr => (h hn).read_eq f now ?_, fun e he => (h hn).events e ?_⟩
    · rwa [run, ht] at hr
    · rwa [Machine.events, ht] at he
  · have ht : m.test m.text.length (.longerThan n) = (false, m.text.length) := by simp [test, hn]
    refine ⟨fun f now hr => ?_, fun e he => ?_⟩
    · rw [run, ht] at hr
      cases hr
      rfl
    · rw [Machine.events, ht] at he
      cases he

/-- Wherever a run enters statements that all stay, it stays. -/
theorem stays_body {body : List Stmt} (h : ∀ s ∈ body, m.Stays P s) (entry : Option Label) :
    (∀ f now, m.runBody m.text.length entry body = .ok (f, now) → now = m.text.length) ∧
      ∀ e ∈ m.bodyEvents m.text.length entry body, P e := by
  induction body generalizing entry with
  | nil =>
    refine ⟨fun f now hr => ?_, fun e he => ?_⟩
    · rw [runBody] at hr
      cases hr
      rfl
    · rw [bodyEvents] at he
      cases he
  | cons s rest ih =>
    obtain ⟨hs, hrest⟩ := List.forall_mem_cons.1 h
    cases entry with
    | some l =>
      rw [runBody, bodyEvents]
      exact ih hrest _
    | none =>
      rw [runBody, bodyEvents]
      cases hr : m.run m.text.length s with
      | error fault => exact ⟨fun f now h => (by cases h), by simpa using hs.events⟩
      | ok r =>
        obtain ⟨g, now⟩ := r
        obtain rfl := hs.read_eq g now hr
        cases g with
        | next =>
          obtain ⟨hread, hevents⟩ := ih hrest none
          exact ⟨hread, List.forall_mem_append.2 ⟨hs.events, hevents⟩⟩
        | leave => exact ⟨fun f now h => by cases h; rfl, by simpa using hs.events⟩
        | result o => exact ⟨fun f now h => by cases h; rfl, by simpa using hs.events⟩

theorem Stays.block {body : List Stmt} (h : ∀ s ∈ body, m.Stays P s) : m.Stays P (.block body) := by
  obtain ⟨hread, hevents⟩ := stays_body h none
  exact ⟨fun f now hr => hread f now (by rwa [run] at hr),
    fun e he => hevents e (by rwa [Machine.events] at he)⟩

theorem Stays.switch {subject : Subject} {body : List Stmt} (hs : P (.look subject))
    (h : ∀ s ∈ body, m.Stays P s) : m.Stays P (.switch subject body) := by
  cases hc : m.look subject with
  | error fault =>
    refine ⟨fun f now hr => ?_, fun e he => ?_⟩
    · rw [run, hc] at hr
      cases hr
    · rw [Machine.events, hc, List.mem_singleton] at he
      exact he ▸ hs
  | ok c =>
    cases hl : entry? c body with
    | none =>
      refine ⟨fun f now hr => ?_, fun e he => ?_⟩
      · rw [run, hc] at hr
        simp only [bind, Except.bind, hl] at hr
        cases hr
        rfl
      · simp only [Machine.events, hc, hl, List.mem_singleton] at he
        exact he ▸ hs
    | some l =>
      obtain ⟨hread, hevents⟩ := stays_body h (some l)
      refine ⟨fun f now hr => ?_, ?_⟩
      · rw [run, hc] at hr
        simp only [bind, Except.bind, hl] at hr
        cases hb : m.runBody m.text.length (some l) body with
        | error fault => rw [hb] at hr; cases hr
        | ok r =>
          obtain ⟨g, read⟩ := r
          obtain rfl := hread g read hb
          rw [hb] at hr
          cases g <;> cases hr <;> rfl
      · simp only [Machine.events, hc, hl]
        exact List.forall_mem_cons.2 ⟨hs, hevents⟩

theorem stays_switchBody {arms : List (Char × List Stmt)} {last : Stmt}
    (ha : ∀ arm ∈ arms, ∀ s ∈ arm.2, m.Stays P s) (hl : m.Stays P last) :
    ∀ s ∈ switchBody arms last, m.Stays P s := by
  intro s hs
  rcases List.mem_append.1 hs with hs | hs
  · obtain ⟨arm, harm, hs⟩ := List.mem_flatMap.1 hs
    rcases List.mem_cons.1 hs with rfl | hs
    · exact .label _
    · exact ha arm harm s hs
  · simp only [List.mem_cons, List.not_mem_nil, or_false] at hs
    rcases hs with rfl | rfl
    · exact .label _
    · exact hl

/-! ## Looks beyond the end -/

variable (m) in
/-- The machine for which it is a fault to look beyond the end of the text. -/
def strict : Machine :=
  { m with beyond := none }

theorem look_strict {subject : Subject} (h : ∀ n, subject = .start n → n < m.text.length) :
    m.strict.look subject = m.look subject := by
  cases subject with
  | first => rfl
  | start n => simp [look, strict, h n rfl]

mutual

/-- **A run that looks at characters of the text only is the same on the strict machine.** -/
theorem run_strict (current : Nat) : (s : Stmt) →
    (∀ n, .look (.start n) ∈ m.events current s → n < m.text.length) →
    m.strict.run current s = m.run current s
  | .empty, _ | .leave, _ | .label _, _ => by rw [run, run]
  | .result _, _ => by
    rw [run, run]
    rfl
  | .when cond body, h => by
    have ht : m.strict.test current cond = m.test current cond := by cases cond <;> rfl
    rw [run, run, ht]
    rw [events] at h
    cases hc : m.test current cond with
    | mk passed now =>
      rw [hc] at h
      cases passed with
      | true => exact run_strict now body h
      | false => rfl
  | .block body, h => by
    rw [run, run]
    exact runBody_strict current none body (by rwa [events] at h)
  | .switch subject body, h => by
    have hl : m.strict.look subject = m.look subject := by
      refine look_strict fun n hn => h n ?_
      rw [events, hn]
      exact List.mem_cons_self ..
    rw [run, run, hl]
    cases hc : m.look subject with
    | error fault => rfl
    | ok c =>
      cases he : entry? c body with
      | none => simp only [bind, Except.bind, he]
      | some l =>
        have hb : m.strict.runBody current (some l) body = m.runBody current (some l) body := by
          refine runBody_strict current (some l) body fun n hn => h n ?_
          simp only [events, hc, he]
          exact List.mem_cons_of_mem _ hn
        simp only [bind, Except.bind, he, hb]

theorem runBody_strict (current : Nat) : (entry : Option Label) → (body : List Stmt) →
    (∀ n, .look (.start n) ∈ m.bodyEvents current entry body → n < m.text.length) →
    m.strict.runBody current entry body = m.runBody current entry body
  | none, [], _ | some _, [], _ => by rw [runBody, runBody]
  | some l, s :: rest, h => by
    rw [runBody, runBody]
    exact runBody_strict current _ rest (by rwa [bodyEvents] at h)
  | none, s :: rest, h => by
    rw [bodyEvents] at h
    have hs := run_strict current s fun n hn => h n (List.mem_append_left _ hn)
    rw [runBody, runBody, hs]
    cases hr : m.run current s with
    | error fault => rfl
    | ok r =>
      obtain ⟨g, now⟩ := r
      rw [hr] at h
      cases g with
      | next => exact runBody_strict now none rest fun n hn => h n (List.mem_append_right _ hn)
      | leave => rfl
      | result o => rfl

end

end Machine

/-! ## Functions on lexemes -/

/-- What happens when the body of an identifier function is run on a lexeme. -/
def lexemeEvents (body : List Stmt) (lexeme fallback : String) : List Event :=
  Machine.bodyEvents ⟨lexeme.toList, '\x00', fallback, some '\x00'⟩ lexeme.toList.length none body

/-- A function that looks at characters of the lexeme only gives the same results if a look beyond the
    end is a fault. -/
theorem runIdentifier_strict {body : List Stmt} {lexeme fallback : String}
    (h : ∀ n, .look (.start n) ∈ lexemeEvents body lexeme fallback → n < lexeme.length) :
    runIdentifier body lexeme fallback none = runIdentifier body lexeme fallback := by
  let m : Machine := ⟨lexeme.toList, '\x00', fallback, some '\x00'⟩
  have hr : m.strict.runBody m.text.length none body = m.runBody m.text.length none body := by
    refine Machine.runBody_strict _ none body fun n hn => ?_
    rw [String.length_toList]
    exact h n hn
  unfold runIdentifier
  exact congrArg (fun r => r >>= _) hr

end ScannerDispatch.Code
