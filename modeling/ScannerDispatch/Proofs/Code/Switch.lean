import ScannerDispatch.Code.Machine
import ScannerDispatch.Proofs.Code.Reading

/-!
Switches, and how the machine runs them.

* `switchBody` is the body of a switch that has statements under each label.
* `run_switch_case`: a character with a label runs the statements under it, if these do not end
  normally.  `run_switch_default`: any other character runs the statement under the default label.
* `runIdentifier_of_result` and `runSymbol_of_result`: a function returns what its statements return.
-/

namespace ScannerDispatch.Code

/-- The body of a switch: the statements under the label of each character, and at the end those under
    the default label. -/
def switchBody (arms : List (Char × List Stmt)) (last : Stmt) : List Stmt :=
  (arms.flatMap fun arm => .label (.case arm.1) :: arm.2) ++ [.label .default, last]

theorem switchBody_cons (c : Char) (stmts : List Stmt) (arms : List (Char × List Stmt))
    (last : Stmt) :
    switchBody ((c, stmts) :: arms) last =
      .label (.case c) :: (stmts ++ switchBody arms last) := by
  simp [switchBody]

/-- What follows a statement is as proper in a switch as outside. -/
theorem Stmt.ProperAll.mono {body : List Stmt} (h : ProperAll false body) : ProperAll true body := by
  induction body with
  | nil => trivial
  | cons s body ih => exact ⟨.inl (h.1.resolve_right (by simp)), ih h.2⟩

theorem properAll_switchBody {arms : List (Char × List Stmt)} {last : Stmt}
    (ha : ∀ arm ∈ arms, Stmt.ProperAll false arm.2) (hl : last.Proper) :
    Stmt.ProperAll true (switchBody arms last) := by
  induction arms with
  | nil => exact ⟨.inr ⟨rfl, _, rfl⟩, .inl hl, trivial⟩
  | cons arm arms ih =>
    obtain ⟨h, ha⟩ := List.forall_mem_cons.1 ha
    rw [switchBody_cons]
    exact ⟨.inr ⟨rfl, _, rfl⟩, Stmt.properAll_append.2 ⟨h.mono, ih ha⟩⟩

/-- The tokens of the arms of a switch. -/
def spellArms (matcher : String) (arms : List (Char × List Stmt)) : List Token :=
  arms.flatMap fun arm =>
    [.word "case", .char arm.1, .punct .colon] ++ Stmt.spellAll matcher arm.2

theorem spellArms_cons (matcher : String) (c : Char) (stmts : List Stmt)
    (arms : List (Char × List Stmt)) : spellArms matcher ((c, stmts) :: arms) =
      [.word "case", .char c, .punct .colon] ++
        (Stmt.spellAll matcher stmts ++ spellArms matcher arms) := by
  simp [spellArms]

@[simp] theorem spellAll_switchBody (matcher : String) (arms : List (Char × List Stmt))
    (last : Stmt) : Stmt.spellAll matcher (switchBody arms last) =
      spellArms matcher arms ++ .word "default" :: .punct .colon :: last.spelling matcher := by
  induction arms with
  | nil => simp [switchBody, spellArms, Stmt.spellAll, Stmt.spelling, Label.spelling]
  | cons arm arms ih =>
    rw [switchBody_cons, spellArms_cons, Stmt.spellAll, Stmt.spellAll_append, ih]
    simp [Stmt.spelling, Label.spelling]

/-! ## Labels -/

theorem filterMap_label?_of_properAll {body : List Stmt} (h : Stmt.ProperAll false body) :
    body.filterMap Stmt.label? = [] := by
  induction body with
  | nil => rfl
  | cons s body ih =>
    have hs : s.Proper := h.1.resolve_right (by simp)
    cases s with
    | label l => simp [Stmt.Proper] at hs
    | _ => exact ih h.2

theorem filterMap_label?_switchBody {arms : List (Char × List Stmt)} {last : Stmt}
    (ha : ∀ arm ∈ arms, Stmt.ProperAll false arm.2) (hl : last.Proper) :
    (switchBody arms last).filterMap Stmt.label? =
      arms.map (fun arm => .case arm.1) ++ [.default] := by
  induction arms with
  | nil =>
    have h : [last].filterMap Stmt.label? = [] :=
      filterMap_label?_of_properAll ⟨.inl hl, trivial⟩
    change Label.default :: [last].filterMap Stmt.label? = _
    rw [h]
    rfl
  | cons arm arms ih =>
    obtain ⟨h, ha⟩ := List.forall_mem_cons.1 ha
    rw [switchBody_cons, List.filterMap_cons, List.filterMap_append,
      filterMap_label?_of_properAll h, ih ha]
    rfl

/-! ## Runs -/

/-- How a switch ends whose body ends so. -/
def Flow.outside : Flow → Flow
  | leave => next
  | f => f

namespace Machine

variable {m : Machine} {current read : Nat} {f : Flow}

theorem runBody_cons {s : Stmt} (hs : m.run current s = .ok (.next, read)) (body : List Stmt) :
    m.runBody current none (s :: body) = m.runBody read none body := by
  rw [runBody, hs]
  rfl

/-- Where a statement does not end normally, the run ends. -/
theorem runBody_cons_of_ne_next {s : Stmt} (hs : m.run current s = .ok (f, read)) (hf : f ≠ .next)
    (body : List Stmt) : m.runBody current none (s :: body) = .ok (f, read) := by
  rw [runBody, hs]
  cases f with
  | next => contradiction
  | _ => rfl

theorem runBody_append_of_ne_next {xs : List Stmt} (hx : m.runBody current none xs = .ok (f, read))
    (hf : f ≠ .next) (ys : List Stmt) : m.runBody current none (xs ++ ys) = .ok (f, read) := by
  induction xs generalizing current with
  | nil =>
    rw [runBody] at hx
    cases hx
    contradiction
  | cons x xs ih =>
    rw [List.cons_append]
    rw [runBody] at hx
    cases hr : m.run current x with
    | error e => rw [hr] at hx; cases hx
    | ok r =>
      obtain ⟨g, now⟩ := r
      rw [hr] at hx
      cases g with
      | next => rw [runBody_cons hr]; exact ih hx
      | leave => cases hx; exact runBody_cons_of_ne_next hr hf _
      | result o => cases hx; exact runBody_cons_of_ne_next hr hf _

/-- Statements before the label at which a switch is entered are passed over. -/
theorem runBody_some_append {l : Label} {xs : List Stmt} (h : l ∉ xs.filterMap Stmt.label?)
    (ys : List Stmt) : m.runBody current (some l) (xs ++ ys) = m.runBody current (some l) ys := by
  induction xs with
  | nil => rfl
  | cons x xs ih =>
    cases hx : x.label? with
    | none =>
      rw [List.filterMap_cons, hx] at h
      rw [List.cons_append, runBody, hx, if_neg (by simp), ih h]
    | some k =>
      rw [List.filterMap_cons, hx, List.mem_cons, not_or] at h
      rw [List.cons_append, runBody, hx, if_neg (by simpa using Ne.symm h.1), ih h.2]

theorem runBody_some_label (l : Label) (body : List Stmt) :
    m.runBody current (some l) (.label l :: body) = m.runBody current none body := by
  rw [runBody, if_pos (by rfl)]

section
variable {c : Char} {arms : List (Char × List Stmt)} {last : Stmt}
  (ha : ∀ arm ∈ arms, Stmt.ProperAll false arm.2)
include ha

theorem runBody_case {stmts : List Stmt} (hc : arms.lookup c = some stmts)
    (hr : m.runBody current none stmts = .ok (f, read)) (hf : f ≠ .next) :
    m.runBody current (some (.case c)) (switchBody arms last) = .ok (f, read) := by
  induction arms with
  | nil => simp at hc
  | cons arm arms ih =>
    obtain ⟨d, body⟩ := arm
    obtain ⟨h, ha⟩ := List.forall_mem_cons.1 ha
    rw [switchBody_cons]
    by_cases hd : c = d
    · subst hd
      rw [List.lookup_cons_self] at hc
      cases hc
      rw [runBody_some_label]
      exact runBody_append_of_ne_next hr hf _
    · rw [List.lookup_cons, beq_false_of_ne hd] at hc
      rw [← List.cons_append, runBody_some_append]
      · exact ih ha hc
      · rw [List.filterMap_cons, filterMap_label?_of_properAll h]
        simpa [Stmt.label?] using hd

theorem runBody_default : m.runBody current (some .default) (switchBody arms last) =
    m.runBody current none [last] := by
  rw [switchBody, runBody_some_append, runBody_some_label]
  induction arms with
  | nil => simp
  | cons arm arms ih =>
    obtain ⟨h, ha⟩ := List.forall_mem_cons.1 ha
    rw [List.flatMap_cons, List.cons_append, List.filterMap_cons, List.filterMap_append,
      filterMap_label?_of_properAll h]
    simpa [Stmt.label?] using ih ha

/-- **The statements under the label of the character are run.** -/
theorem run_switch_case (hl : last.Proper) {subject : Subject} (hs : m.look subject = .ok c)
    {stmts : List Stmt} (hc : arms.lookup c = some stmts)
    (hr : m.runBody current none stmts = .ok (f, read))
    (hf : f ≠ .next) :
    m.run current (.switch subject (switchBody arms last)) = .ok (f.outside, read) := by
  have he : entry? c (switchBody arms last) = some (.case c) := by
    unfold entry?
    rw [filterMap_label?_switchBody ha hl, if_pos]
    obtain ⟨xs, ys, rfl, -⟩ := List.lookup_eq_some_iff.1 hc
    simp
  rw [run, hs]
  simp only [bind, Except.bind, he, runBody_case ha hc hr hf]
  cases f <;> rfl

/-- A character without a label runs the statement under the default label. -/
theorem run_switch_default (hl : last.Proper) {subject : Subject} (hs : m.look subject = .ok c)
    (hc : arms.lookup c = none) (hr : m.run current last = .ok (f, read)) :
    m.run current (.switch subject (switchBody arms last)) = .ok (f.outside, read) := by
  have he : entry? c (switchBody arms last) = some .default := by
    unfold entry?
    rw [filterMap_label?_switchBody ha hl, if_neg, if_pos]
    · simp
    · simpa using fun stmts => List.lookup_eq_none_iff.1 hc (c, stmts)
  have hlast : m.runBody current none [last] = .ok (f, read) := by
    cases f with
    | next => rw [runBody_cons hr, runBody]
    | _ => exact runBody_cons_of_ne_next hr (by simp) _
  rw [run, hs]
  simp only [bind, Except.bind, he, runBody_default ha, hlast]
  cases f <;> rfl

end

end Machine

/-! ## Functions -/

section
variable {body : List Stmt} {o : Outcome} {read : Nat}

/-- A function on lexemes returns the result of its statements. -/
theorem runIdentifier_of_result {lexeme fallback : String} {beyond : Option Char}
    (h : Machine.runBody ⟨lexeme.toList, '\x00', fallback, beyond⟩ lexeme.toList.length none body =
      .ok (.result o, read)) : runIdentifier body lexeme fallback beyond = .ok o := by
  unfold runIdentifier
  simp only [h]
  rfl

/-- A function on inputs returns the result of its statements, and how far they have read. -/
theorem runSymbol_of_result {input : String} {c : Char} {cs : List Char}
    (hi : input.toList = c :: cs)
    (h : Machine.runBody ⟨c :: cs, c, "", some '\x00'⟩ 1 none body = .ok (.result o, read)) :
    runSymbol body input = .ok (o, read) := by
  unfold runSymbol
  simp only [hi, h]
  rfl

end

end ScannerDispatch.Code
