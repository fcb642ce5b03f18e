/-!
Token classes: the groups in which token constants are listed.

* `TokenClass.comment` is the heading of a group; `TokenClass.skip` has none, so it is registered but
  never listed.
* `TokenClass.ofSymbol` sorts a symbol by the number of its characters.
-/

namespace ScannerDispatch

/-- The classes of tokens, in the order in which they are listed. -/
inductive TokenClass where
  /-- Constants that are referred to but listed elsewhere. -/
  | skip
  | oneChar
  | twoChar
  | literal
  | keyword
  | special
deriving Repr, DecidableEq, Inhabited

namespace TokenClass

/-- All classes, in order. -/
def all : List TokenClass :=
  [skip, oneChar, twoChar, literal, keyword, special]

/-- The number of a class, counted from one. -/
def id : TokenClass → Nat
  | skip => 1
  | oneChar => 2
  | twoChar => 3
  | literal => 4
  | keyword => 5
  | special => 6

/-- The name of a class in the log. -/
def name : TokenClass → String
  | skip => "Skip"
  | oneChar => "OneChar"
  | twoChar => "TwoChar"
  | literal => "Literal"
  | keyword => "Keyword"
  | special => "Special"

/-- The class of a given name. -/
def ofName? (s : String) : Option TokenClass :=
  all.find? (·.name == s)

/-- The heading of the class in the enumeration. -/
def comment : TokenClass → Option String
  | skip => none
  | oneChar => some "Single character tokens"
  | twoChar => some "Two character tokens"
  | literal => some "Value literal tokens"
  | keyword => some "Keyword tokens"
  | special => some "Special tokens"

/-- A class is listed in the enumeration when it has a heading. -/
def isRendered (c : TokenClass) : Bool :=
  c.comment.isSome

/-- The class of a symbol with the given characters. -/
def ofSymbol (value : String) : TokenClass :=
  if value.length = 1 then oneChar else twoChar

theorem mem_all (c : TokenClass) : c ∈ all := by
  cases c <;> decide

theorem isRendered_iff {c : TokenClass} : c.isRendered = true ↔ c ≠ skip := by
  cases c <;> decide

theorem ofName?_name (c : TokenClass) : ofName? c.name = some c := by
  cases c <;> decide

end TokenClass

end ScannerDispatch
