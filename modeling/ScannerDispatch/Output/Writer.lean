import ScannerDispatch.Output.Sink

/-!
The indenting writer: text goes to a sink, and every line that is not blank is indented by tabs.

A line gets its tabs when its first character is written, from the depth in force then; a line that
was already begun keeps its indentation.

* `indent` is the rule on characters, and `startsLine` says where it leaves off.
* `Writer.write` and `Writer.fits` apply it to a sink.
* `Program` is a sequence of writes, failures and deeper blocks, and `Program.run` executes it.
-/

namespace ScannerDispatch

/-! ## Indentation -/

/-- The characters that writing `cs` at a depth produces; `fresh` says whether a line is about to
    begin. -/
def indent (depth : Nat) : Bool → List Char → List Char
  | _, [] => []
  | fresh, c :: cs =>
    if c = '\n' then c :: indent depth true cs
    else (if fresh then List.replicate depth '\t' else []) ++ c :: indent depth false cs

/-- Is a line about to begin after `cs`? -/
def startsLine : Bool → List Char → Bool
  | fresh, [] => fresh
  | _, c :: cs => startsLine (c = '\n') cs

@[simp] theorem indent_nil (depth : Nat) (fresh : Bool) : indent depth fresh [] = [] := by
  simp [indent]

theorem indent_append (depth : Nat) (fresh : Bool) (xs ys : List Char) :
    indent depth fresh (xs ++ ys) =
      indent depth fresh xs ++ indent depth (startsLine fresh xs) ys := by
  induction xs generalizing fresh with
  | nil => simp [startsLine]
  | cons c xs ih => by_cases h : c = '\n' <;> simp [indent, startsLine, h, ih]

theorem startsLine_append (fresh : Bool) (xs ys : List Char) :
    startsLine fresh (xs ++ ys) = startsLine (startsLine fresh xs) ys := by
  induction xs generalizing fresh with
  | nil => rfl
  | cons c xs ih => simp [startsLine, ih]

/-- At depth zero nothing is added. -/
@[simp] theorem indent_zero (fresh : Bool) (cs : List Char) : indent 0 fresh cs = cs := by
  induction cs generalizing fresh with
  | nil => simp
  | cons c cs ih => by_cases h : c = '\n' <;> simp [indent, h, ih]

/-! ## Writers -/

/-- A writer: its sink, the depth, and whether a line is about to begin. -/
structure Writer where
  sink : Sink := {}
  depth : Nat := 0
  fresh : Bool := true
deriving Repr, DecidableEq, Inhabited

namespace Writer

/-- A writer on a new sink, which takes `room` characters. -/
def onSink (room : Option Nat) : Writer :=
  { sink := { room } }

/-- The text that reached the sink. -/
def written (w : Writer) : String :=
  w.sink.written

/-- The characters that writing `s` produces, `level` levels deeper than the writer stands. -/
def laidOut (w : Writer) (level : Nat) (s : String) : List Char :=
  indent (w.depth + level) w.fresh s.toList

/-- The writer after `s` was written `level` levels deeper, as far as it fits. -/
def write (w : Writer) (level : Nat) (s : String) : Writer :=
  { w with sink := w.sink.write (w.laidOut level s), fresh := startsLine w.fresh s.toList }

/-- Does `s`, written `level` levels deeper, fit? -/
def fits (w : Writer) (level : Nat) (s : String) : Bool :=
  w.sink.fits (w.laidOut level s)

/-- The part of `s`, written `level` levels deeper, that reaches the sink. -/
def taken (w : Writer) (level : Nat) (s : String) : String :=
  String.ofList (w.sink.taken (w.laidOut level s))

/-- The writer `n` levels deeper. -/
def deeper (w : Writer) (n : Nat) : Writer :=
  { w with depth := w.depth + n }

@[simp] theorem depth_write (w : Writer) (level : Nat) (s : String) :
    (w.write level s).depth = w.depth := rfl

theorem write_append (w : Writer) (level : Nat) (s t : String) :
    w.write level (s ++ t) = (w.write level s).write level t := by
  simp [write, laidOut, indent_append, startsLine_append, Sink.write_append]

theorem fits_append (w : Writer) (level : Nat) (s t : String) :
    w.fits level (s ++ t) = (w.fits level s && (w.write level s).fits level t) := by
  simp [fits, write, laidOut, indent_append, Sink.fits_append]

end Writer

/-! ## Programs -/

/-- A sequence of writing operations. -/
inductive Program where
  | done
  /-- Writes a text. -/
  | write (text : String) (next : Program)
  /-- Fails. -/
  | fail (next : Program)
  /-- Runs `body` one level deeper. -/
  | indented (body next : Program)
deriving Repr, DecidableEq, Inhabited

/-- What one operation did: whether it succeeded, and the depth after it. -/
inductive Program.Report where
  /-- A write, with the text that reached the sink, or a failure. -/
  | write (ok : Bool) (text : String) (depth : Nat)
  /-- A block, with the reports of the operations in it that ran. -/
  | block (ok : Bool) (inner : List Program.Report) (depth : Nat)
deriving Repr, Inhabited

/-- What a sequence of operations did. -/
structure Program.Outcome where
  writer : Writer
  reports : List Program.Report
  ok : Bool

/-- Puts the report of an earlier operation in front. -/
def Program.Outcome.after (r : Program.Report) (o : Program.Outcome) : Program.Outcome :=
  { o with reports := r :: o.reports }

/-- Runs operations in order.  With `stops`, as inside a block, the first failing one is the last to
    run; without, all of them run.  The depth after a block is the depth before it. -/
def Program.run (stops : Bool) : Program → Writer → Program.Outcome
  | .done, w => ⟨w, [], true⟩
  | .write text next, w =>
    let ok := w.fits 0 text
    let r := Program.Report.write ok (w.taken 0 text) w.depth
    if stops && !ok then ⟨w.write 0 text, [r], false⟩
    else (next.run stops (w.write 0 text)).after r
  | .fail next, w =>
    let r := Program.Report.write false "" w.depth
    if stops then ⟨w, [r], false⟩ else (next.run stops w).after r
  | .indented body next, w =>
    let o := body.run true (w.deeper 1)
    let r := Program.Report.block o.ok o.reports w.depth
    let w' := { o.writer with depth := w.depth }
    if stops && !o.ok then ⟨w', [r], false⟩ else (next.run stops w').after r

end ScannerDispatch
