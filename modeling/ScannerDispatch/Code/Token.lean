import ScannerDispatch.Text.Quoted

/-!
Tokens of the generated code: words, numbers, literals and punctuation.

* `Token.spelling` is what a word or a piece of punctuation looks like in the code.
* `Token.describe` names any token in a message.
-/

namespace ScannerDispatch.Code

/-- Punctuation of the generated code. -/
inductive Punct where
  | arrow
  | openParen
  | closeParen
  | openBrace
  | closeBrace
  | openBracket
  | closeBracket
  | colon
  | semicolon
  | comma
  | minus
  | greater
  | star
deriving Repr, DecidableEq, Inhabited

/-- The characters of a piece of punctuation. -/
def Punct.spelling : Punct → String
  | arrow => "->"
  | openParen => "("
  | closeParen => ")"
  | openBrace => "\x7b"
  | closeBrace => "\x7d"
  | openBracket => "["
  | closeBracket => "]"
  | colon => ":"
  | semicolon => ";"
  | comma => ","
  | minus => "-"
  | greater => ">"
  | star => "*"

/-- All numbers in code and all places in a text lie below this bound: a word of 64 bits holds them. -/
def wordBound : Nat :=
  1 <<< 64

/-- A token of the generated code.  Literals are given by what they stand for. -/
inductive Token where
  | word (s : String)
  | int (n : Nat)
  | char (c : Char)
  | text (s : String)
  | punct (p : Punct)
deriving Repr, DecidableEq, Inhabited

/-- A token as a message names it: its kind and what it stands for. -/
def Token.describe : Token → String
  | word s => "Word(" ++ Text.quoted s ++ ")"
  | int n => "Int(" ++ toString n ++ ")"
  | char c => "Char(" ++ Text.quotedChar c ++ ")"
  | text s => "Str(" ++ Text.quoted s ++ ")"
  | punct p => "Punct(" ++ Text.quoted p.spelling ++ ")"

end ScannerDispatch.Code
