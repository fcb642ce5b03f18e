import ScannerDispatch.Log
import ScannerDispatch.Output.Writer
import ScannerDispatch.Token.Registry

/-!
Emission: writing generated text while registering the constants that it refers to.

What is emitted is described by a list of `Step`s, and `emit` carries them out one by one on a
`Session`.  The first step that fails is the last one, so whatever a failed emission has done is what
a prefix of its steps does.

* `emit_append` splits an emission in two.
* `emitDeeper` carries out steps below the writer's depth, and `depth_emitDeeper` says that the depth is
  the same afterwards.  `emit_map_deeper`: the levels of steps stand for such blocks.
-/

namespace ScannerDispatch

/-- Why an emission failed. -/
inductive EmitError where
  /-- The sink took no more text. -/
  | sinkFull
  /-- A node at this depth has neither children nor a value. -/
  | deadEnd (depth : Nat)
deriving Repr, DecidableEq, Inhabited

/-- The wording of an error. -/
def EmitError.message : EmitError → String
  | sinkFull => "Formatting generated code failed."
  | deadEnd depth =>
    "Internal error: trie node at depth " ++ toString depth ++ " has no children and no value."

/-- One step of an emission. -/
inductive Step where
  /-- Writes a text, indented by so many levels more than where the emission began. -/
  | write (level : Nat) (text : String)
  /-- Registers a token. -/
  | register (c : TokenClass) (name : String)
  /-- Reports an event. -/
  | report (e : LogEvent)
  /-- Gives up. -/
  | fail (e : EmitError)
deriving Repr, DecidableEq, Inhabited

/-- What an emission works on: a writer, a registry and a log. -/
structure Session where
  writer : Writer := {}
  registry : Registry
  log : List LogEvent := []
deriving Repr, DecidableEq, Inhabited

namespace Session

/-- A session on an unlimited sink, without any constants yet. -/
def new (stem : String) : Session :=
  { registry := { stem } }

/-- Writes a text, as far as it fits. -/
def write (s : Session) (level : Nat) (text : String) : Session :=
  { s with writer := s.writer.write level text }

/-- Registers a token. -/
def register (s : Session) (c : TokenClass) (name : String) : Session :=
  { s with registry := s.registry.register c name }

/-- Reports an event. -/
def report (s : Session) (e : LogEvent) : Session :=
  { s with log := s.log ++ [e] }

end Session

/-- Carries out the steps until one fails. -/
def emit : List Step → Session → Session × Except EmitError Unit
  | [], s => (s, .ok ())
  | .write level text :: rest, s =>
    if s.writer.fits level text then emit rest (s.write level text)
    else (s.write level text, .error .sinkFull)
  | .register c name :: rest, s => emit rest (s.register c name)
  | .report e :: rest, s => emit rest (s.report e)
  | .fail e :: _, s => (s, .error e)

@[simp] theorem emit_nil (s : Session) : emit [] s = (s, .ok ()) := rfl

/-- Two lists of steps in a row: the second is carried out only if the first succeeds. -/
theorem emit_append (xs ys : List Step) (s : Session) :
    emit (xs ++ ys) s =
      match emit xs s with
      | (s', .ok ()) => emit ys s'
      | (s', .error e) => (s', .error e) := by
  induction xs generalizing s with
  | nil => rfl
  | cons x xs ih =>
    cases x with
    | write level text =>
      by_cases h : s.writer.fits level text = true
      · simp only [List.cons_append, emit, h, if_true, ih]
      · simp [emit, h]
    | register c name => simpa [emit] using ih _
    | report e => simpa [emit] using ih _
    | fail e => rfl

/-- Carries out the steps `n` levels deeper than the writer stands.  Its depth is the same before and
    afterwards. -/
def emitDeeper (n : Nat) (steps : List Step) (s : Session) : Session × Except EmitError Unit :=
  let (s', result) := emit steps { s with writer := s.writer.deeper n }
  ({ s' with writer := { s'.writer with depth := s.writer.depth } }, result)

@[simp] theorem depth_emitDeeper (n : Nat) (steps : List Step) (s : Session) :
    (emitDeeper n steps s).1.writer.depth = s.writer.depth := rfl

/-- The steps as seen from outside a block that is `n` levels deeper. -/
def Step.deeper (n : Nat) : Step → Step
  | .write level text => .write (n + level) text
  | x => x

/-- Steps that are seen from outside their block do what the block does. -/
theorem emit_map_deeper (n : Nat) (xs : List Step) (s : Session) :
    emit (xs.map (.deeper n)) s = emitDeeper n xs s := by
  induction xs generalizing s with
  | nil => rfl
  | cons x xs ih =>
    cases x with
    | write level text =>
      have hlaidOut : s.writer.laidOut (n + level) text =
          (s.writer.deeper n).laidOut level text := by
        simp [Writer.laidOut, Writer.deeper, Nat.add_assoc]
      have hfits : s.writer.fits (n + level) text = (s.writer.deeper n).fits level text :=
        congrArg s.writer.sink.fits hlaidOut
      have hwrite : (s.write (n + level) text).writer.deeper n =
          (s.writer.deeper n).write level text := by
        simp [Session.write, Writer.write, Writer.deeper, hlaidOut]
      rw [List.map_cons, Step.deeper, emit, emitDeeper, emit, hfits]
      by_cases h : (s.writer.deeper n).fits level text = true
      · rw [if_pos h, if_pos h, ih, emitDeeper, hwrite]
        rfl
      · rw [if_neg h, if_neg h]
        simp [Session.write, Writer.write, hlaidOut, Writer.deeper]
    | register c name => exact ih _
    | report e => exact ih _
    | fail e => rfl

/-- Writes a text and ends the line. -/
def Step.line (level : Nat) (text : String) : Step :=
  .write level (text ++ "\n")

end ScannerDispatch
