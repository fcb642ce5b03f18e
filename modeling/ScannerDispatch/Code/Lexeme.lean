import ScannerDispatch.Code.Fault
import ScannerDispatch.Text.Blank
import ScannerDispatch.Text.Shorter

/-!
From characters to tokens.

Every reader takes characters from the front of a list and returns the rest with a proof that it is
shorter, so that reading ends.

* `Token.next` reads the token that begins with the first character.
* `tokens` reads all tokens of a code; blank characters separate them.
-/

namespace ScannerDispatch.Code

/-! ## Escapes -/

/-- Is `c` an octal digit? -/
def isOctal (c : Char) : Bool :=
  '0' ≤ c && c ≤ '7'

/-- The number that digits stand for in a given base. -/
def digitsValue (base : Nat) (digits : List Char) : Nat :=
  digits.foldl (fun n c => base * n + (c.toNat - '0'.toNat)) 0

/-- Reads one character of a literal.  After a backslash, `n`, `t` and `r` are line and tab controls,
    up to three octal digits are a code, and any other character stands for itself. -/
def unescape : (cs : List Char) → Except Fault (Char × Shorter cs)
  | [] => .error .unterminatedLiteral
  | '\\' :: [] => .error .unterminatedEscape
  | '\\' :: c :: cs =>
    if isOctal c then
      let digits := ((c :: cs).takeWhile isOctal).take 3
      .ok (Char.ofNat (digitsValue 8 digits), .cons _ (.drop digits.length (c :: cs)))
    else
      let meaning := if c = 'n' then '\n' else if c = 't' then '\t' else if c = 'r' then '\r' else c
      .ok (meaning, .cons _ (Shorter.tail c cs).rest)
  | c :: cs => .ok (c, .tail c cs)

/-- Reads the rest of the literal of a text, the closing quote included. -/
def textBody (cs : List Char) : Except Fault (List Char × Shorter cs) :=
  match cs with
  | [] => .error .unterminatedLiteral
  | '"' :: cs => .ok ([], .tail _ cs)
  | c :: cs => do
    let (x, r) ← unescape (c :: cs)
    let (xs, s) ← textBody r.list
    return (x :: xs, r.then s)
termination_by cs.length
decreasing_by exact r.length_lt

/-- Reads the rest of the literal of a character, the closing quote included. -/
def charBody (cs : List Char) : Except Fault (Char × Shorter cs) := do
  let (x, r) ← unescape cs
  match uncons? r.list with
  | some ('\'', s) => return (x, r.then s)
  | _ => .error .longCharacter

/-! ## Tokens -/

/-- Does `c` begin a word? -/
def beginsWord (c : Char) : Bool :=
  c.isAlpha || c == '_'

/-- Can `c` stand in a word? -/
def inWord (c : Char) : Bool :=
  c.isAlphanum || c == '_'

/-- The punctuation that is the one character `c`. -/
def Punct.single? : Char → Option Punct
  | '(' => some .openParen
  | ')' => some .closeParen
  | '\x7b' => some .openBrace
  | '\x7d' => some .closeBrace
  | '[' => some .openBracket
  | ']' => some .closeBracket
  | ':' => some .colon
  | ';' => some .semicolon
  | ',' => some .comma
  | '-' => some .minus
  | '>' => some .greater
  | '*' => some .star
  | _ => none

/-- Reads the punctuation that begins with `c`; an arrow is one piece. -/
def punct? : (c : Char) → (cs : List Char) → Option (Punct × Shorter (c :: cs))
  | '-', '>' :: cs => some (.arrow, .cons _ (Shorter.tail _ cs).rest)
  | c, cs => (Punct.single? c).map fun p => (p, .tail c cs)

/-- Reads the token that begins with `c`. -/
def Token.next (c : Char) (cs : List Char) : Except Fault (Token × Shorter (c :: cs)) :=
  if beginsWord c then
    .ok (.word (String.ofList (c :: cs.takeWhile inWord)), .cons c (.dropWhile inWord cs))
  else if c.isDigit then
    let n := digitsValue 10 (c :: cs.takeWhile Char.isDigit)
    if n < wordBound then .ok (.int n, .cons c (.dropWhile Char.isDigit cs))
    else .error .numberTooGreat
  else if c = '\'' then do
    let (x, r) ← charBody cs
    return (.char x, .cons c r.rest)
  else if c = '"' then do
    let (xs, r) ← textBody cs
    return (.text (String.ofList xs), .cons c r.rest)
  else
    match punct? c cs with
    | some (p, r) => .ok (.punct p, r)
    | none => .error (.unexpectedCharacter c)

/-- Reads all tokens. -/
def tokens (cs : List Char) : Except Fault (List Token) :=
  match cs with
  | [] => .ok []
  | c :: cs =>
    if Text.isBlank c then tokens cs
    else do
      let (t, r) ← Token.next c cs
      return t :: (← tokens r.list)
termination_by cs.length
decreasing_by
  · exact Nat.lt_succ_self _
  · exact r.length_lt

end ScannerDispatch.Code
