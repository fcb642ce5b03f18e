import ScannerDispatch.Text.Visible

/-!
Texts and characters quoted for a message, so that the message shows exactly what they hold.

* `quoteWithin` spells one character between quotes of a given kind: a backslash spelling for NUL,
  tab, line ends, the backslash and the quote itself, the code point for what cannot be seen, and
  the character itself otherwise.
* `quoted` and `quotedChar` put a text between double quotes, a character between single ones.
-/

namespace ScannerDispatch.Text

/-- The digits of `n` in base sixteen, in lower case. -/
def hexadecimal (n : Nat) : String :=
  String.ofList (Nat.toDigits 16 n)

/-- The spelling of `c` between two of the character `quote`. -/
def quoteWithin (quote : Char) (c : Char) : String :=
  if c = '\x00' then "\\0"
  else if c = '\t' then "\\t"
  else if c = '\n' then "\\n"
  else if c = '\r' then "\\r"
  else if c = '\\' then "\\\\"
  else if c = quote then "\\" ++ quote.toString
  else if isVisible c then c.toString
  else "\\u\x7b" ++ hexadecimal c.toNat ++ "\x7d"

/-- The text `s` between double quotes. -/
def quoted (s : String) : String :=
  "\"" ++ String.join (s.toList.map (quoteWithin '"')) ++ "\""

/-- The character `c` between single quotes. -/
def quotedChar (c : Char) : String :=
  "'" ++ quoteWithin '\'' c ++ "'"

end ScannerDispatch.Text
