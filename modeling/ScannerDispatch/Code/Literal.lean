/-!
Literals of the generated code: characters between single quotes, texts between double quotes.

* `Literal.escape` spells one character inside a literal: with a backslash and a letter, with a
  backslash before the backslash and the enclosing quote, in octal for the other ASCII controls, and
  as itself otherwise.
* `Literal.char` and `Literal.text` are whole literals.
-/

namespace ScannerDispatch.Literal

/-- Is `c` a control character of ASCII? -/
def isControl (c : Char) : Bool :=
  c.toNat < 0x20 || c.toNat = 0x7F

/-- The octal digit of `n`, for `n` below eight. -/
def octalDigit (n : Nat) : Char :=
  Char.ofNat ('0'.toNat + n)

/-- Three octal digits for `n`, for `n` below 512. -/
def octal (n : Nat) : List Char :=
  [octalDigit (n / 64), octalDigit (n / 8 % 8), octalDigit (n % 8)]

/-- The spelling of `c` inside a literal that is enclosed by `quote`. -/
def escape (quote c : Char) : List Char :=
  if c = '\\' then ['\\', '\\']
  else if c = '\n' then ['\\', 'n']
  else if c = '\t' then ['\\', 't']
  else if c = '\r' then ['\\', 'r']
  else if c = '\x00' then ['\\', '0']
  else if c = quote then ['\\', c]
  else if isControl c then '\\' :: octal c.toNat
  else [c]

/-- The characters of the literal of one character. -/
def charSpelling (c : Char) : List Char :=
  '\'' :: escape '\'' c ++ ['\'']

/-- The characters of the literal of a text. -/
def textSpelling (cs : List Char) : List Char :=
  '"' :: cs.flatMap (escape '"') ++ ['"']

/-- The literal of one character. -/
def char (c : Char) : String :=
  String.ofList (charSpelling c)

/-- The literal of a text. -/
def text (s : String) : String :=
  String.ofList (textSpelling s.toList)

@[simp] theorem toList_char (c : Char) : (char c).toList = charSpelling c := by
  simp [char]

@[simp] theorem toList_text (s : String) : (text s).toList = textSpelling s.toList := by
  simp [text]

/-- No literal is empty inside: every character has a spelling. -/
theorem escape_ne_nil (quote c : Char) : escape quote c ≠ [] := by
  unfold escape
  repeat' split
  all_goals simp

end ScannerDispatch.Literal
