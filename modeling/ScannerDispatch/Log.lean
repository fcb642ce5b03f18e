import ScannerDispatch.Text.Plain
import ScannerDispatch.Token.Class

/-!
What a run reports on its way: log events, each with its level and its wording.

* `LogEvent.line` is the log line of an event, `LogEvent.printed` what an error stream shows of it.
-/

namespace ScannerDispatch

/-- How important an event is. -/
inductive LogLevel where
  | debug
  | info
  | warn
deriving Repr, DecidableEq, Inhabited

/-- The name of a level at the head of a log line. -/
def LogLevel.name : LogLevel → String
  | debug => "DEBUG"
  | info => "INFO"
  | warn => "WARN"

/-- Something worth reporting. -/
inductive LogEvent where
  /-- The settings table has a key without meaning. -/
  | unknownSetting (key : String)
  /-- The tries were built, from so many keywords and symbols, with so many nodes. -/
  | triesBuilt (keywords keywordNodes symbols symbolNodes : Nat)
  /-- These two-character symbols begin with a character that is no symbol itself. -/
  | noFallback (symbols : List String)
  /-- A class has so many tokens. -/
  | classSize (c : TokenClass) (count : Nat)
  /-- An output file was written. -/
  | wrote (path : String)
deriving Repr, DecidableEq, Inhabited

namespace LogEvent

/-- The level of an event. -/
def level : LogEvent → LogLevel
  | unknownSetting _ | noFallback _ => .warn
  | triesBuilt .. | classSize .. => .debug
  | wrote _ => .info

/-- The wording of an event. -/
def message : LogEvent → String
  | unknownSetting key => "ignoring unknown setting settings." ++ key
  | triesBuilt k n s m =>
    toString k ++ " keywords in " ++ toString n ++ " trie nodes, " ++
      toString s ++ " symbols in " ++ toString m ++ " trie nodes"
  | noFallback symbols =>
    ", ".intercalate symbols ++ ": no one-character symbol to fall back on"
  | classSize c count => c.name ++ ": " ++ toString count ++ " tokens"
  | wrote path => "wrote " ++ path

/-- The log line of an event: its level and its wording. -/
def line (e : LogEvent) : String :=
  e.level.name ++ " " ++ e.message

/-- The text of an event on an error stream: its log line and a line end, without the controls of a
    terminal, and with its later lines, if its wording has any, indented by four spaces. -/
def printed (e : LogEvent) : String :=
  let indented := e.line.toList.flatMap fun c => if c = '\n' then "\n    ".toList else [c]
  Text.plain (String.ofList indented ++ "\n")

/-- Is the event reported when debugging output is off? -/
def isNotice (e : LogEvent) : Bool :=
  e.level ≠ .debug

end LogEvent

end ScannerDispatch
