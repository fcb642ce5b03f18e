import ScannerDispatch.Toml.DateTime

/-!
Values of a TOML document.

* `Value` keeps of every table how it came about, which decides how it may be extended.
* `Value.inRange` says that all numbers in a value can be represented.
-/

namespace ScannerDispatch.Toml

/-- How a table came about. -/
inductive Origin where
  /-- On the way to another table that a header names. -/
  | implicit
  /-- By a dotted key. -/
  | dotted
  /-- By a header of its own, or as the whole document. -/
  | header
  /-- Between braces. -/
  | braces
deriving Repr, DecidableEq, Inhabited

/-- A value. -/
inductive Value where
  | text (s : String)
  | boolean (b : Bool)
  /-- An integer, with its value if it has one. -/
  | integer (n : Option Int)
  /-- A float, of which only matters whether it lies in the range of double precision. -/
  | float (inRange : Bool)
  | dateTime (d : DateTime)
  /-- An array; `ofTables` says that its members have headers of their own. -/
  | array (ofTables : Bool) (items : List Value)
  | table (origin : Origin) (entries : List (String × Value))
deriving Repr, Inhabited

/-- An integer is in range when it has a value and 128 bits hold it, with or without a sign. -/
def integerInRange : Option Int → Bool
  | none => false
  | some (.ofNat n) => n < 1 <<< 128
  | some (.negSucc n) => n < 1 <<< 127

mutual

/-- Can all numbers in the value be represented? -/
def Value.inRange : Value → Bool
  | .integer n => integerInRange n
  | .float inRange => inRange
  | .array _ items => Value.allInRange items
  | .table _ entries => Value.entriesInRange entries
  | _ => true

/-- Can all numbers in the members of an array be represented? -/
def Value.allInRange : List Value → Bool
  | [] => true
  | v :: rest => v.inRange && Value.allInRange rest

/-- Can all numbers in the entries of a table be represented? -/
def Value.entriesInRange : List (String × Value) → Bool
  | [] => true
  | (_, v) :: rest => v.inRange && Value.entriesInRange rest

end

end ScannerDispatch.Toml
