import ScannerDispatch.Code.Reader

/-!
The machine that runs dispatch functions.

A machine looks at one text from its start.  Its only changing state is how many characters have been
read, the `current` of its functions.

* `Machine.runBody` runs statements, `Machine.run` one statement.
* `classifyIdentifier` and `classifySymbol` run a whole function on an input.
-/

namespace ScannerDispatch.Code

/-- What a dispatch function returns. -/
inductive Outcome where
  | token (name : String)
  | error (message : String)
deriving Repr, DecidableEq, Inhabited

/-- How a statement ends. -/
inductive Flow where
  /-- The next statement follows. -/
  | next
  /-- The innermost switch is left. -/
  | leave
  | result (o : Outcome)
deriving Repr, DecidableEq, Inhabited

/-- What does not change during a run. -/
structure Machine where
  /-- The characters from the start of the lexeme on. -/
  text : List Char
  /-- The character that was read before the function was called. -/
  first : Char
  /-- What a comparison that fails returns. -/
  fallback : String
  /-- What is found beyond the end of the text; with `none`, looking there is a fault. -/
  beyond : Option Char := some '\x00'
deriving Repr, DecidableEq, Inhabited

namespace Machine

variable (m : Machine)

/-- The character that a switch looks at. -/
def look : Subject → Except Fault Char
  | .first => .ok m.first
  | .start offset =>
    match m.text[offset]? <|> m.beyond with
    | some c => .ok c
    | none => .error (.readBeyondEnd offset)

/-- Tests a condition.  Returns how many characters have been read afterwards. -/
def test (current : Nat) : Cond → Bool × Nat
  | .longerThan n => (n < current, current)
  | .next c => if m.text[current]? = some c then (true, current + 1) else (false, current)

/-- Compares the characters from `start` to the current one with `rest`. -/
def compare (current start length : Nat) (rest token : String) : Except Fault Outcome :=
  if rest.length ≠ length then .error .wrongLength
  else if wordBound ≤ start + length then .error .endTooGreat
  else if current ≠ start + length then .ok (.token m.fallback)
  else if m.text.length < start then .error .startsBeyondEnd
  else .ok (.token (if m.text.drop start = rest.toList then token else m.fallback))

/-- The value of what is returned.  The kind of call is told by its arguments. -/
def eval (current : Nat) : Expr → Except Fault Outcome
  | .name token => .ok (.token token)
  | .call _ [.name _, .name token] => .ok (.token token)
  | .call _ [.name _, .text message] => .ok (.error message)
  | .call _ [.name _, .int start, .int length, .text rest, .name token] =>
    m.compare current start length rest token
  | .call _ args => .error (.callArguments args)

/-- Where a switch enters its body: at the label of the character, else at the default label. -/
def entry? (c : Char) (body : List Stmt) : Option Label :=
  let labels := body.filterMap Stmt.label?
  if .case c ∈ labels then some (.case c)
  else if .default ∈ labels then some .default
  else none

mutual

/-- Runs one statement.  Returns how it ends and how many characters have been read then. -/
def run (current : Nat) : Stmt → Except Fault (Flow × Nat)
  | .empty | .label _ => .ok (.next, current)
  | .leave => .ok (.leave, current)
  | .result e => do return (.result (← m.eval current e), current)
  | .when cond body =>
    match m.test current cond with
    | (true, current) => run current body
    | (false, current) => .ok (.next, current)
  | .block body => runBody current none body
  | .switch subject body => do
    match entry? (← m.look subject) body with
    | none => return (.next, current)
    | some l =>
      match ← runBody current (some l) body with
      | (.leave, current) => return (.next, current)
      | r => return r

/-- Runs statements in order until one does not end normally.  With `some l`, those before the first
    label `l` are passed over. -/
def runBody (current : Nat) : Option Label → List Stmt → Except Fault (Flow × Nat)
  | _, [] => .ok (.next, current)
  | some l, s :: rest =>
    runBody current (if s.label? = some l then none else some l) rest
  | none, s :: rest => do
    match ← run current s with
    | (.next, current) => runBody current none rest
    | r => return r

end

end Machine

/-- Runs the body of an identifier function on a lexeme that has been read to its end.  A comparison
    that fails returns `fallback`. -/
def runIdentifier (body : List Stmt) (lexeme fallback : String) (beyond : Option Char := some '\x00') :
    Except Fault Outcome := do
  let text := lexeme.toList
  let m : Machine := { text, first := '\x00', fallback, beyond }
  match ← m.runBody text.length none body with
  | (.result o, _) => return o
  | _ => .error (.noResult lexeme)

/-- Runs the body of a symbol function on an input whose first character has been read.  Returns how
    many characters have been read in the end. -/
def runSymbol (body : List Stmt) (input : String) : Except Fault (Outcome × Nat) := do
  match input.toList with
  | [] => .error .noInput
  | c :: cs =>
    let m : Machine := { text := c :: cs, first := c, fallback := "" }
    match ← m.runBody 1 none body with
    | (.result o, current) => return (o, current)
    | _ => .error (.noResult input)

/-- Reads an identifier function and runs it on a lexeme. -/
def classifyIdentifier (code lexeme fallback : String) : Except Fault Outcome := do
  runIdentifier (← function code) lexeme fallback

/-- Reads a symbol function and runs it on an input. -/
def classifySymbol (code input : String) : Except Fault (Outcome × Nat) := do
  runSymbol (← function code) input

end ScannerDispatch.Code
