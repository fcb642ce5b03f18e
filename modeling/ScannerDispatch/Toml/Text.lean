import ScannerDispatch.Text.Shorter

/-!
Texts, comments and blanks of a TOML document.

Every reader takes characters from the front of a list and returns the rest.

* `text` reads a text in any of its four forms: between double quotes with escapes or between single
  quotes without, on one line or, with three quotes on each side, on several.
* `trivia` leaves out blanks, line ends and comments.
-/

namespace ScannerDispatch.Toml

/-! ## Blanks and comments -/

/-- Blanks within a line. -/
def isSpace (c : Char) : Bool :=
  c = ' ' || c = '\t'

/-- A control character other than the tab; none may stand in texts or comments. -/
def isForbidden (c : Char) : Bool :=
  (c.toNat < 0x20 && c ≠ '\t') || c.toNat = 0x7F

/-- Leaves out blanks within a line. -/
def spaces (cs : List Char) : Rest cs :=
  .dropWhile isSpace cs

/-- Leaves out a line end. -/
def lineEnd? : (cs : List Char) → Option (Shorter cs)
  | '\n' :: cs => some (.tail _ cs)
  | '\r' :: '\n' :: cs => some (.cons _ (Shorter.tail _ cs).rest)
  | _ => none

/-- Leaves out the rest of a comment, up to the line end. -/
def comment (cs : List Char) : Option (Rest cs) :=
  let inLine (c : Char) : Bool := c ≠ '\n' && c ≠ '\r'
  if (cs.takeWhile inLine).any isForbidden then none else some (.dropWhile inLine cs)

/-- Leaves out blanks, line ends and comments. -/
def trivia (cs : List Char) : Option (Rest cs) :=
  match cs with
  | [] => some (.all [])
  | c :: cs =>
    if c = '#' then do
      let r := Shorter.cons c (← comment cs)
      return (r.thenRest (← trivia r.list)).rest
    else if isSpace c then do
      let r := Shorter.tail c cs
      return (r.thenRest (← trivia r.list)).rest
    else
      match lineEnd? (c :: cs) with
      | none => some (.all (c :: cs))
      | some r => do return (r.thenRest (← trivia r.list)).rest
termination_by cs.length
decreasing_by all_goals exact r.length_lt

/-! ## Escapes -/

/-- The character that an escape of one letter stands for. -/
def escaped? : Char → Option Char
  | 'b' => some '\x08'
  | 't' => some '\t'
  | 'n' => some '\n'
  | 'f' => some '\x0c'
  | 'r' => some '\r'
  | 'e' => some '\x1b'
  | '"' => some '"'
  | '\\' => some '\\'
  | _ => none

/-- How many digits the code of an escape has that begins with `c`. -/
def codeLength? : Char → Option Nat
  | 'x' => some 2
  | 'u' => some 4
  | 'U' => some 8
  | _ => none

/-- Is `c` a digit in base sixteen? -/
def isHex (c : Char) : Bool :=
  c.isDigit || ('a' ≤ c && c ≤ 'f') || ('A' ≤ c && c ≤ 'F')

/-- The number that digits in base sixteen stand for. -/
def hexValue (digits : List Char) : Nat :=
  let digit (c : Char) : Nat :=
    if c.isDigit then c.toNat - '0'.toNat else c.toLower.toNat - 'a'.toNat + 10
  digits.foldl (fun v c => 16 * v + digit c) 0

/-- Reads the code of a character, which has exactly `n` digits in base sixteen. -/
def code (n : Nat) (cs : List Char) : Option (Char × Rest cs) :=
  let digits := cs.take n
  let v := hexValue digits
  if digits.length = n && digits.all isHex && v.isValidChar then
    some (Char.ofNat v, .drop n cs)
  else none

/-- Reads an escape after its backslash. -/
def escape : (cs : List Char) → Option (Char × Shorter cs)
  | [] => none
  | c :: cs =>
    match escaped? c with
    | some x => some (x, .tail c cs)
    | none => do
      let (x, r) ← code (← codeLength? c) cs
      return (x, .cons c r)

/-! ## Texts on one line -/

/-- Reads the rest of a text on one line, the closing quote included. -/
def lineBody (quote : Char) (cs : List Char) : Option (List Char × Shorter cs) :=
  match cs with
  | [] => none
  | c :: cs =>
    let r := Shorter.tail c cs
    if c = quote then some ([], r)
    else if c = '\\' && quote = '"' then do
      let (x, r) ← r.andRead escape
      let (xs, s) ← lineBody quote r.list
      return (x :: xs, r.then s)
    else if isForbidden c then none
    else do
      let (xs, s) ← lineBody quote r.list
      return (c :: xs, r.then s)
termination_by cs.length
decreasing_by all_goals exact r.length_lt

/-! ## Texts on several lines -/

/-- Leaves out blanks and line ends. -/
def blankLines (cs : List Char) : Rest cs :=
  match cs with
  | [] => .all []
  | c :: cs =>
    if isSpace c then
      let r := Shorter.tail c cs
      (r.thenRest (blankLines r.list)).rest
    else
      match lineEnd? (c :: cs) with
      | none => .all (c :: cs)
      | some r => (r.thenRest (blankLines r.list)).rest
termination_by cs.length
decreasing_by all_goals exact r.length_lt

/-- Leaves out what a backslash at a line end hides: blanks, the line end, and all blanks and line
    ends after it. -/
def hiddenLineEnd (cs : List Char) : Option (Rest cs) := do
  let r := spaces cs
  let r := r.then (← lineEnd? r.list)
  return (r.thenRest (blankLines r.list)).rest

/-- Can `c` stand in a text on several lines before the characters `cs`?  A carriage return stands
    only before a line feed. -/
def inLines (c : Char) (cs : List Char) : Bool :=
  if c = '\r' then cs.head? = some '\n' else c = '\n' || !isForbidden c

/-- Reads the rest of a text on several lines, the closing quotes included.  Up to two more quotes
    before these belong to the text. -/
def linesBody (quote : Char) (cs : List Char) : Option (List Char × Shorter cs) :=
  match cs with
  | [] => none
  | c :: cs =>
    let r := Shorter.tail c cs
    if c = quote then
      let quotes := (cs.takeWhile (· = quote)).length + 1
      if quotes < 3 then do
        let (xs, s) ← linesBody quote r.list
        return (c :: xs, r.then s)
      else if quotes ≤ 5 then
        some (List.replicate (quotes - 3) quote, .cons c (.dropWhile (· = quote) cs))
      else none
    else if c = '\\' && quote = '"' then
      match hiddenLineEnd cs with
      | some hidden => do
        let r := Shorter.cons c hidden
        let (xs, s) ← linesBody quote r.list
        return (xs, r.then s)
      | none => do
        let (x, r) ← r.andRead escape
        let (xs, s) ← linesBody quote r.list
        return (x :: xs, r.then s)
    else if inLines c cs then do
      let (xs, s) ← linesBody quote r.list
      return (c :: xs, r.then s)
    else none
termination_by cs.length
decreasing_by all_goals exact r.length_lt

/-! ## Texts -/

/-- Is `c` a quote that a text can begin with? -/
def isQuote (c : Char) : Bool :=
  c = '"' || c = '\''

/-- Reads a text on one line after its opening quote. -/
def lineText (quote : Char) (cs : List Char) : Option (String × Shorter cs) := do
  let (xs, r) ← lineBody quote cs
  return (String.ofList xs, r)

/-- Reads a text on several lines after its opening quotes.  A line end right after these is left
    out. -/
def linesText (quote : Char) (cs : List Char) : Option (String × Shorter cs) := do
  let r := match lineEnd? cs with
    | some r => r.rest
    | none => .all cs
  let (xs, r) ← r.andRead (linesBody quote)
  return (String.ofList xs, r)

/-- Reads a text after its opening quote.  With two more quotes it is one of several lines. -/
def text (quote : Char) (cs : List Char) : Option (String × Shorter cs) :=
  if cs.take 2 = [quote, quote] then (Rest.drop 2 cs).andRead (linesText quote)
  else lineText quote cs

end ScannerDispatch.Toml
