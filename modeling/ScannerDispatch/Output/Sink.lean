/-!
Sinks: where text is written to, possibly with room for only so many characters.

A write that does not fit fills the sink and fails.  The result of a write is given by two functions:
`Sink.write` is the sink afterwards, and `Sink.fits` says whether the write succeeds.

* `Sink.write_append` and `Sink.fits_append`: writing a text in two parts is writing it at once.
-/

namespace ScannerDispatch

/-- A sink: the text written so far, and how many characters it still takes (`none`: any number). -/
structure Sink where
  written : String := ""
  room : Option Nat := none
deriving Repr, DecidableEq, Inhabited

namespace Sink

/-- The part of `cs` that the sink takes. -/
def taken (k : Sink) (cs : List Char) : List Char :=
  match k.room with
  | none => cs
  | some n => cs.take n

/-- Does all of `cs` fit? -/
def fits (k : Sink) (cs : List Char) : Bool :=
  match k.room with
  | none => true
  | some n => cs.length ≤ n

/-- The sink after `cs` was written to it, as far as it fits. -/
def write (k : Sink) (cs : List Char) : Sink where
  written := k.written ++ String.ofList (k.taken cs)
  room := k.room.map (· - cs.length)

@[simp] theorem write_nil (k : Sink) : k.write [] = k := by
  obtain ⟨w, _ | n⟩ := k <;> simp [write, taken]

@[simp] theorem fits_nil (k : Sink) : k.fits [] = true := by
  obtain ⟨w, _ | n⟩ := k <;> simp [fits]

theorem write_append (k : Sink) (xs ys : List Char) :
    k.write (xs ++ ys) = (k.write xs).write ys := by
  obtain ⟨w, _ | n⟩ := k
  · simp [write, taken, String.append_assoc]
  · simp [write, taken, List.take_append, String.append_assoc, Nat.sub_sub]

theorem fits_append (k : Sink) (xs ys : List Char) :
    k.fits (xs ++ ys) = (k.fits xs && (k.write xs).fits ys) := by
  obtain ⟨w, _ | n⟩ := k
  · simp [fits, write]
  · simp only [fits, write, List.length_append, Option.map_some, ← Bool.decide_and, decide_eq_decide]
    omega

end Sink

end ScannerDispatch
