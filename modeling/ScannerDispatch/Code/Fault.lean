import ScannerDispatch.Code.Stmt

/-!
Faults: why a piece of code is not a dispatch function, or why its run goes wrong.

* `Fault.message` is the wording of a fault; some faults have none.
-/

namespace ScannerDispatch.Code

/-- What can be wrong with code or with its run. -/
inductive Fault where
  -- In the spelling of tokens.
  | unterminatedEscape
  | unterminatedLiteral
  /-- The literal of a character holds more than one. -/
  | longCharacter
  | unexpectedCharacter (c : Char)
  /-- A number does not fit into a word. -/
  | numberTooGreat
  -- In the order of tokens.
  /-- The tokens end where more are needed. -/
  | endOfCode
  /-- Tokens follow the end of the function. -/
  | trailingTokens
  | expected (wanted : String) (found : Token)
  | expectedInteger (found : Token)
  | noStatement (found : Token)
  | caseLabel
  | noSubject (found : Token)
  | matchArgument
  | noCondition (found : Token)
  | noExpression
  | noArgument (found : Token)
  | badArgumentList (found : Token)
  -- In a run.
  /-- No dispatch function makes calls with such arguments. -/
  | callArguments (args : List Arg)
  /-- A comparison states a length that its text does not have. -/
  | wrongLength
  /-- The end of a comparison does not fit into a word. -/
  | endTooGreat
  /-- A comparison starts beyond the end of the lexeme. -/
  | startsBeyondEnd
  /-- A switch looks at a character beyond the end of the lexeme. -/
  | readBeyondEnd (offset : Nat)
  /-- There is no first character. -/
  | noInput
  | noResult (input : String)
deriving Repr, DecidableEq, Inhabited

/-- The wording of a fault, if it has one. -/
def Fault.message : Fault → Option String
  | unterminatedEscape => some "unterminated escape"
  | unterminatedLiteral => some "unterminated literal"
  | unexpectedCharacter c => some ("unexpected character " ++ Text.quotedChar c)
  | expected wanted found =>
    some ("expected " ++ Text.quoted wanted ++ ", found " ++ found.describe)
  | expectedInteger found => some ("expected integer, found " ++ found.describe)
  | noStatement found => some ("unexpected " ++ found.describe ++ " at start of statement")
  | caseLabel => some "case label must be a character"
  | noSubject found => some ("unexpected switch subject " ++ found.describe)
  | matchArgument => some "match argument must be a character"
  | noCondition found => some ("unexpected condition " ++ found.describe)
  | noExpression => some "expression must start with a name"
  | noArgument found => some ("unexpected argument " ++ found.describe)
  | badArgumentList found => some ("unexpected " ++ found.describe ++ " in argument list")
  | callArguments args => some ("unexpected call arguments " ++ Arg.describeAll args)
  | noResult input => some (Text.quoted input ++ ": function ended without returning")
  | longCharacter | numberTooGreat | endOfCode | trailingTokens | wrongLength | endTooGreat
  | startsBeyondEnd | readBeyondEnd _ | noInput => none

end ScannerDispatch.Code
