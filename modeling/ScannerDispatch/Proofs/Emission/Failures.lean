import ScannerDispatch.Proofs.Emission.Interruption
import ScannerDispatch.Proofs.Emission.Spelling

/-!
When an emission fails.

* `failure?` is the first failure among some steps.
* `result_emit`: on a sink that takes any text, an emission fails with its first failure, and for no
  other reason.
* `emit_of_failure?_eq_none`: without a failure, a sink takes the text of the steps as far as it fits.
-/

namespace ScannerDispatch

/-- The failure that a step is, if it is one. -/
def Step.failure? : Step → Option EmitError
  | .fail e => some e
  | _ => none

/-- The first failure among steps. -/
def failure? (steps : List Step) : Option EmitError :=
  steps.findSome? Step.failure?

section
variable (level : Nat) (text : String) (c : TokenClass) (name : String) (e : LogEvent)
  (f : EmitError) (xs ys : List Step)

@[simp] theorem failure?_nil : failure? [] = none := rfl

@[simp] theorem failure?_write : failure? (.write level text :: xs) = failure? xs := rfl

@[simp] theorem failure?_line : failure? (.line level text :: xs) = failure? xs := rfl

@[simp] theorem failure?_register : failure? (.register c name :: xs) = failure? xs := rfl

@[simp] theorem failure?_report : failure? (.report e :: xs) = failure? xs := rfl

@[simp] theorem failure?_fail : failure? (.fail f :: xs) = some f := rfl

@[simp] theorem failure?_append : failure? (xs ++ ys) = (failure? xs).or (failure? ys) :=
  List.findSome?_append

@[simp] theorem failure?_map_deeper (n : Nat) : failure? (xs.map (.deeper n)) = failure? xs := by
  rw [failure?, failure?, List.findSome?_map]
  congr 1
  funext x
  cases x <;> rfl

end

theorem failure?_map_line (level : Nat) (lines : List String) :
    failure? (lines.map (.line level)) = none := by
  induction lines with
  | nil => rfl
  | cons text lines ih => exact ih

theorem failure?_eq_none_iff {steps : List Step} :
    failure? steps = none ↔ ∀ e, Step.fail e ∉ steps := by
  rw [failure?, List.findSome?_eq_none_iff]
  constructor
  · intro h e he
    simpa [Step.failure?] using h _ he
  · intro h x hx
    cases x with
    | fail e => exact absurd hx (h e)
    | _ => rfl

/-- **On a sink that takes any text, only failing steps make an emission fail.** -/
theorem result_emit (session : Session) (h : session.writer.sink.room = none) (steps : List Step) :
    (emit steps session).2 = (failure? steps).elim (.ok ()) .error := by
  induction steps generalizing session with
  | nil => rfl
  | cons x steps ih =>
    cases x with
    | write level text =>
      have hfits : session.writer.fits level text = true := by
        rw [Writer.fits, Sink.fits, h]
      have hroom : (session.write level text).writer.sink.room = none := by
        simp [Session.write, Writer.write, Sink.write, h]
      rw [emit, if_pos hfits, ih _ hroom]
      rfl
    | register c name => exact ih (session.register c name) h
    | report e => exact ih (session.report e) h
    | fail e => rfl

/-- Without a failure among its steps, a new emission produces some code. -/
theorem exists_emitNew (stem : String) {steps : List Step} (h : failure? steps = none) :
    ∃ code, (emitNew stem steps).result = .ok code :=
  ⟨_, congrArg Logged.result (emitNew_eq stem (failure?_eq_none_iff.1 h))⟩

/-- **Without a failure among its steps, an emission writes their text**, as far as it fits. -/
theorem emit_of_failure?_eq_none {steps : List Step} (h : failure? steps = none) (s : Session) :
    let text := layout s.writer.depth s.writer.fresh steps
    (emit steps s).1.writer.written =
        s.writer.written ++ String.ofList (s.writer.sink.taken text) ∧
      (emit steps s).2 = if s.writer.sink.fits text then .ok () else .error .sinkFull := by
  obtain ⟨⟨⟨written, room⟩, depth, fresh⟩, ⟨stem, entries⟩, log⟩ := s
  obtain ⟨fresh', he⟩ := emit_unlimited (failure?_eq_none_iff.1 h) written depth fresh stem entries log
  cases room with
  | none => simp [he, Writer.written, Sink.taken, Sink.fits]
  | some limit =>
    let s : Session := ⟨⟨⟨written, some limit⟩, depth, fresh⟩, ⟨stem, entries⟩, log⟩
    obtain ⟨a, b, ha, hb, hab, hr⟩ := exists_additions_emit steps s limit
    have he : emit steps (s.withRoom none) = _ := he
    rw [he] at ha hr
    have ht : layout depth fresh steps = a.text := by
      simpa [Writer.written, s] using congrArg String.toList ha.written_eq
    simp only [ht, Sink.taken, Sink.fits, decide_eq_true_eq]
    exact ⟨hab.text_eq ▸ hb.written_eq, hr⟩

end ScannerDispatch
