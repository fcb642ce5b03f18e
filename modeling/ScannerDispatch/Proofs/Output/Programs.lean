import ScannerDispatch.Proofs.Output.Pieces

/-!
What a program leaves on its sink, whether or not all of it fits.

The reference is a rule on single characters: each one is marked with the depth in force when it is
written, and the tabs of a line stand in front of its first character.

* `tabbed` is this rule; it looks at a character and at the one before it, and knows of no writes.
* `Program.effects` are the characters that each operation writes, and whether it succeeds, where no
  write fails.
* `Program.run_onSink`: a sink ends with as much of the reference text as it takes, and an
  operation fails if it fails by itself or if its characters do not fit.
-/

namespace ScannerDispatch

/-! ## The reference -/

/-- A character, with the depth in force when it is written. -/
structure Mark where
  depth : Nat
  char : Char
deriving Repr, DecidableEq, Inhabited

/-- The marks of a text that is written at one depth. -/
def marksOf (depth : Nat) (cs : List Char) : List Mark :=
  cs.map (⟨depth, ·⟩)

/-- Does a line begin after the character `before`, or at the start of the text? -/
def beginsAfter : Option Char → Bool
  | none => true
  | some c => c = '\n'

/-- The text of marked characters that follow the character `before`, or stand first.  A character
    that is no new-line gets its tabs if it is the first one or follows a new-line. -/
def tabbed (before : Option Char) : List Mark → List Char
  | [] => []
  | m :: ms =>
    (if m.char ≠ '\n' ∧ beginsAfter before then List.replicate m.depth '\t' else []) ++
      m.char :: tabbed (some m.char) ms

/-- The character before what follows the marks. -/
def lastOf (before : Option Char) : List Mark → Option Char
  | [] => before
  | m :: ms => lastOf (some m.char) ms

@[simp] theorem marksOf_nil (depth : Nat) : marksOf depth [] = [] := rfl

@[simp] theorem marksOf_cons (depth : Nat) (c : Char) (cs : List Char) :
    marksOf depth (c :: cs) = ⟨depth, c⟩ :: marksOf depth cs := rfl

@[simp] theorem beginsAfter_some (c : Char) : beginsAfter (some c) = decide (c = '\n') := rfl

@[simp] theorem tabbed_nil (before : Option Char) : tabbed before [] = [] := rfl

theorem tabbed_append (before : Option Char) (xs ys : List Mark) :
    tabbed before (xs ++ ys) = tabbed before xs ++ tabbed (lastOf before xs) ys := by
  induction xs generalizing before with
  | nil => rfl
  | cons m xs ih => simp [tabbed, lastOf, ih]

theorem lastOf_append (before : Option Char) (xs ys : List Mark) :
    lastOf before (xs ++ ys) = lastOf (lastOf before xs) ys := by
  induction xs generalizing before with
  | nil => rfl
  | cons m xs ih => simp [lastOf, ih]

theorem tabbed_eq_nil_iff {before : Option Char} {ms : List Mark} :
    tabbed before ms = [] ↔ ms = [] := by
  cases ms <;> simp [tabbed]

theorem indent_eq_nil_iff {depth : Nat} {fresh : Bool} {cs : List Char} :
    indent depth fresh cs = [] ↔ cs = [] := by
  cases cs with
  | nil => simp
  | cons c cs => by_cases hc : c = '\n' <;> simp [indent, hc]

/-- On the marks of one write the reference is the indentation of its text. -/
theorem tabbed_marksOf (before : Option Char) (depth : Nat) (cs : List Char) :
    tabbed before (marksOf depth cs) = indent depth (beginsAfter before) cs := by
  induction cs generalizing before with
  | nil => simp
  | cons c cs ih =>
    rw [marksOf_cons, tabbed, ih, indent]
    by_cases hc : c = '\n' <;> simp [hc]

theorem beginsAfter_lastOf (before : Option Char) (depth : Nat) (cs : List Char) :
    beginsAfter (lastOf before (marksOf depth cs)) = startsLine (beginsAfter before) cs := by
  induction cs generalizing before with
  | nil => rfl
  | cons c cs ih => rw [marksOf_cons, lastOf, ih, startsLine, beginsAfter_some]

/-! ## Effects -/

/-- What an operation writes, and whether it succeeds, where no write fails. -/
structure Effect where
  marks : List Mark
  ok : Bool
deriving Repr, DecidableEq, Inhabited

/-- The effect of operations in order.  With `stops`, the first one that fails is the last. -/
def Effect.sequence (stops : Bool) : List Effect → Effect
  | [] => ⟨[], true⟩
  | e :: rest =>
    if stops && !e.ok then e
    else let r := sequence stops rest; ⟨e.marks ++ r.marks, r.ok⟩

namespace Program

/-- The effect of each operation at a depth.  A block stops at the first failure in it. -/
def effects (depth : Nat) : Program → List Effect
  | .done => []
  | .write text next => ⟨marksOf depth text.toList, true⟩ :: next.effects depth
  | .fail next => ⟨[], false⟩ :: next.effects depth
  | .indented body next => .sequence true (body.effects (depth + 1)) :: next.effects depth

/-- The reference text of the first `n` operations. -/
def textUpTo (p : Program) (n : Nat) : List Char :=
  tabbed none (((p.effects 0).take n).flatMap Effect.marks)

/-- The reference text of a program. -/
def text (p : Program) : List Char :=
  tabbed none ((p.effects 0).flatMap Effect.marks)

end Program

/-! ## Runs -/

/-- The writer continues a text whose last character is `before`: it knows whether a line begins, or
    its sink is full, so that this makes no difference any more. -/
def Writer.Continues (w : Writer) (before : Option Char) : Prop :=
  w.sink.room = some 0 ∨ w.fresh = beginsAfter before

/-- What the operations that write these marks make of a writer that continues a text. -/
structure Performed (w : Writer) (before : Option Char) (ms : List Mark) (w' : Writer) : Prop where
  sink_eq : w'.sink = w.sink.write (tabbed before ms)
  depth_eq : w'.depth = w.depth
  continues : w'.Continues (lastOf before ms)

namespace Performed

variable {w w₁ w₂ : Writer} {before : Option Char} {ms ns : List Mark}

theorem nothing (h : w.Continues before) : Performed w before [] w :=
  ⟨by simp, rfl, h⟩

theorem trans (h₁ : Performed w before ms w₁) (h₂ : Performed w₁ (lastOf before ms) ns w₂) :
    Performed w before (ms ++ ns) w₂ where
  sink_eq := by rw [h₂.sink_eq, h₁.sink_eq, tabbed_append, Sink.write_append]
  depth_eq := h₂.depth_eq.trans h₁.depth_eq
  continues := by rw [lastOf_append]; exact h₂.continues

/-- Where the marks do not fit, more of them would change nothing. -/
theorem of_not_fits (h : Performed w before ms w₁) (hf : w.sink.fits (tabbed before ms) = false)
    (more : List Mark) : Performed w before (ms ++ more) w₁ where
  sink_eq := by rw [h.sink_eq, tabbed_append, Sink.write_append_of_not_fits hf]
  depth_eq := h.depth_eq
  continues := by
    refine .inl ?_
    rw [h.sink_eq]
    exact Sink.room_write_of_not_fits hf

end Performed

namespace Writer

variable {w : Writer} {before : Option Char}

theorem Continues.fits_eq (h : w.Continues before) (text : String) :
    w.fits 0 text = w.sink.fits (tabbed before (marksOf w.depth text.toList)) := by
  rcases h with hfull | hfresh
  · -- on a full sink only the empty text fits, with or without tabs
    rw [fits, Sink.fits_of_full hfull, Sink.fits_of_full hfull, Bool.eq_iff_iff,
      List.isEmpty_iff, List.isEmpty_iff, tabbed_eq_nil_iff, laidOut, indent_eq_nil_iff, marksOf,
      List.map_eq_nil_iff]
  · rw [tabbed_marksOf, ← hfresh]
    rfl

theorem Continues.performed_write (h : w.Continues before) (text : String) :
    Performed w before (marksOf w.depth text.toList) (w.write 0 text) := by
  rcases h with hfull | hfresh
  · have hsink : (w.write 0 text).sink = w.sink := Sink.write_of_full hfull _
    exact ⟨by rw [hsink, Sink.write_of_full hfull], rfl, .inl (by rw [hsink, hfull])⟩
  · refine ⟨?_, rfl, .inr ?_⟩
    · rw [tabbed_marksOf, ← hfresh]
      rfl
    · rw [beginsAfter_lastOf, ← hfresh]
      rfl

end Writer

namespace Program

/-- Did the operation succeed? -/
def Report.ok : Report → Bool
  | .write ok _ _ | .block ok _ _ => ok

/-- Which operations succeed on a sink, one after the other: those that succeed by themselves and
    whose characters fit. -/
def successes (k : Sink) (before : Option Char) : List Effect → List Bool
  | [] => []
  | e :: rest =>
    (e.ok && k.fits (tabbed before e.marks)) ::
      successes (k.write (tabbed before e.marks)) (lastOf before e.marks) rest

/-- The outcome of operations with these effects, for a writer that continues a text. -/
structure Follows (stops : Bool) (w : Writer) (before : Option Char) (es : List Effect)
    (o : Outcome) : Prop where
  performed : Performed w before (Effect.sequence stops es).marks o.writer
  ok_eq : stops = true → o.ok = ((Effect.sequence stops es).ok &&
    w.sink.fits (tabbed before (Effect.sequence stops es).marks))
  reports_eq : stops = false → o.reports.map Report.ok = successes w.sink before es

/-- An operation, and the others after it if it does not stop them. -/
theorem Follows.cons {stops ok : Bool} {w w₁ : Writer} {before : Option Char} {e : Effect}
    {rest : List Effect} {r : Report} {o : Outcome} (h : Performed w before e.marks w₁)
    (hok : ok = (e.ok && w.sink.fits (tabbed before e.marks))) (hr : r.ok = ok)
    (ho : Follows stops w₁ (lastOf before e.marks) rest o) :
    Follows stops w before (e :: rest) (if stops && !ok then ⟨w₁, [r], false⟩ else o.after r) := by
  have hreports : stops = false →
      (o.after r).reports.map Report.ok = successes w.sink before (e :: rest) := by
    intro hstops
    rw [successes, ← hok, ← h.sink_eq, ← ho.reports_eq hstops, ← hr]
    rfl
  by_cases hs : (stops && !e.ok) = true
  · -- the operation fails by itself, and is the last one
    obtain ⟨rfl, he⟩ : stops = true ∧ e.ok = false := by simpa using hs
    obtain rfl : ok = false := by rw [hok, he, Bool.false_and]
    have hseq : Effect.sequence true (e :: rest) = e := by simp [Effect.sequence, he]
    exact ⟨by rw [hseq]; exact h, fun _ => by rw [hseq]; exact hok, by simp⟩
  · have hseq : Effect.sequence stops (e :: rest) =
        ⟨e.marks ++ (Effect.sequence stops rest).marks, (Effect.sequence stops rest).ok⟩ := by
      rw [Effect.sequence, if_neg hs]
    by_cases hlast : (stops && !ok) = true
    · -- its characters do not fit, and it is the last one
      obtain ⟨rfl, rfl⟩ : stops = true ∧ ok = false := by simpa using hlast
      have he : e.ok = true := by simpa using hs
      have hf : w.sink.fits (tabbed before e.marks) = false := by simpa [he] using hok.symm
      refine ⟨?_, fun _ => ?_, by simp⟩
      · rw [hseq]
        exact h.of_not_fits hf _
      · rw [hseq, tabbed_append, Sink.fits_append_of_not_fits hf, Bool.and_false]
        rfl
    · rw [if_neg hlast]
      refine ⟨?_, fun hstops => ?_, hreports⟩
      · rw [hseq]
        exact h.trans ho.performed
      · have htrue : ok = true := by simpa [hstops] using hlast
        have hf : w.sink.fits (tabbed before e.marks) = true :=
          (Bool.and_eq_true_iff.1 (hok.symm.trans htrue)).2
        rw [hseq, tabbed_append, Sink.fits_append, hf, Bool.true_and, ← h.sink_eq]
        exact ho.ok_eq hstops

/-- **A run has the effects of its operations, as far as they fit.** -/
theorem follows_run (p : Program) (stops : Bool) (w : Writer) (before : Option Char)
    (h : w.Continues before) : Follows stops w before (p.effects w.depth) (p.run stops w) := by
  induction p generalizing stops w before with
  | done => exact ⟨.nothing h, fun _ => by simp [effects, Effect.sequence, run], fun _ => rfl⟩
  | write text next ih =>
    have hw := h.performed_write text
    refine Follows.cons hw ?_ rfl (ih stops (w.write 0 text) _ hw.continues)
    rw [h.fits_eq, Bool.true_and]
  | fail next ih =>
    have he : Performed w before (Effect.mk [] false).marks w := .nothing h
    have hr : (Report.write false "" w.depth).ok = false := rfl
    have hn := Follows.cons he (Bool.false_and _).symm hr (ih stops w before h)
    rwa [Bool.not_false, Bool.and_true] at hn
  | indented body next ihb ihn =>
    have hbody := ihb true (w.deeper 1) before h
    have hw : Performed w before _ { (body.run true (w.deeper 1)).writer with depth := w.depth } :=
      ⟨hbody.performed.sink_eq, rfl, hbody.performed.continues⟩
    exact Follows.cons hw (hbody.ok_eq rfl) rfl (ihn stops _ _ hw.continues)

/-! ## New sinks -/

/-- Which top-level operations succeed on a new sink. -/
def succeeded (p : Program) (room : Option Nat) : List Bool :=
  (p.run false (.onSink room)).reports.map Report.ok

theorem sequence_false (es : List Effect) :
    Effect.sequence false es = ⟨es.flatMap Effect.marks, true⟩ := by
  induction es with
  | nil => rfl
  | cons e es ih => simp [Effect.sequence, ih]

theorem follows_onSink (p : Program) (room : Option Nat) :
    Follows false (.onSink room) none (p.effects 0) (p.run false (.onSink room)) :=
  follows_run p false (.onSink room) none (.inr rfl)

theorem written_run (p : Program) (room : Option Nat) :
    (p.run false (.onSink room)).writer.written =
      String.ofList ((Writer.onSink room).sink.taken p.text) := by
  have h := (follows_onSink p room).performed.sink_eq
  rw [sequence_false] at h
  rw [Writer.written, h]
  simp [Sink.write, Writer.onSink, text]

/-- An operation succeeds if it does so by itself and fits after those before it. -/
theorem getElem?_successes (k : Sink) (before : Option Char) (es : List Effect) (i : Nat) :
    (successes k before es)[i]? = es[i]?.map fun e =>
      e.ok && (k.write (tabbed before ((es.take i).flatMap Effect.marks))).fits
        (tabbed (lastOf before ((es.take i).flatMap Effect.marks)) e.marks) := by
  induction es generalizing k before i with
  | nil => simp [successes]
  | cons e es ih =>
    cases i with
    | zero => simp [successes, lastOf]
    | succ i =>
      simp only [successes, List.getElem?_cons_succ, ih, List.take_succ_cons, List.flatMap_cons,
        tabbed_append, lastOf_append, Sink.write_append]

theorem textUpTo_succ {p : Program} {i : Nat} {e : Effect} (h : (p.effects 0)[i]? = some e) :
    p.textUpTo (i + 1) =
      p.textUpTo i ++ tabbed (lastOf none (((p.effects 0).take i).flatMap Effect.marks)) e.marks := by
  rw [textUpTo, List.take_add_one, h, List.flatMap_append, tabbed_append]
  simp [textUpTo]

/-- Without a limit every write fits. -/
theorem succeeded_none (p : Program) : p.succeeded none = (p.effects 0).map Effect.ok := by
  refine List.ext_getElem? fun i => ?_
  rw [succeeded, (follows_onSink p none).reports_eq rfl, getElem?_successes, List.getElem?_map]
  congr 1
  funext e
  exact Bool.and_true e.ok

theorem getElem?_succeeded (p : Program) (limit i : Nat) :
    (p.succeeded (some limit))[i]? = (p.succeeded none)[i]?.map fun ok =>
      ok && decide (p.textUpTo (i + 1) = p.textUpTo i ∨ (p.textUpTo (i + 1)).length ≤ limit) := by
  rw [succeeded_none, succeeded, (follows_onSink p (some limit)).reports_eq rfl, getElem?_successes,
    List.getElem?_map, Option.map_map]
  cases he : (p.effects 0)[i]? with
  | none => rfl
  | some e =>
    have hroom : (Writer.onSink (some limit)).sink.room = some limit := rfl
    simp only [Option.map_some, Function.comp_apply, Option.some.injEq]
    congr 1
    rw [Bool.eq_iff_iff, Sink.fits_write_iff hroom, decide_eq_true_iff, textUpTo_succ he]
    simp [textUpTo]

/-- **A writer lays its text out by a rule on characters, on whatever sink.**  The sink ends with the
    reference text as far as it takes it.  On a sink that takes any text, an operation fails only if
    something in it fails by itself; on any other sink it fails also if it has characters and the text
    up to its end does not fit.  The text of each write is written piece by piece. -/
theorem run_onSink (p : Program) :
    (∀ (w : Writer) (text : String),
      (w.writePieces (pieces text.toList)).2 = w.fits 0 text ∧
      (w.writePieces (pieces text.toList)).1.sink = (w.write 0 text).sink) ∧
    (p.run false (.onSink none)).writer.written = String.ofList p.text ∧
    p.succeeded none = (p.effects 0).map Effect.ok ∧
    ∀ limit,
      (p.run false (.onSink (some limit))).writer.written = String.ofList (p.text.take limit) ∧
      ∀ i, (p.succeeded (some limit))[i]? = (p.succeeded none)[i]?.map fun ok =>
        ok && decide (p.textUpTo (i + 1) = p.textUpTo i ∨ (p.textUpTo (i + 1)).length ≤ limit) := by
  refine ⟨fun w text => ?_, written_run p none, succeeded_none p, fun limit => ?_⟩
  · obtain ⟨hok, hsink, -⟩ := w.writePieces_eq text
    exact ⟨hok, hsink⟩
  · exact ⟨written_run p (some limit), getElem?_succeeded p limit⟩

/-- A line keeps the depth at which it was begun, a blank one has no tabs, and a failure ends its
    block. -/
example : text (.write "if" (.indented (.write ":\n\nx" (.fail (.write "y" .done)))
    (.write "\nelse" .done))) = "if:\n\n\tx\nelse".toList := by
  decide

end Program

end ScannerDispatch
