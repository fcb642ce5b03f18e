import ScannerDispatch.Text.Uppercase
import ScannerDispatch.Token.Class

/-!
Token registries: the constants that generated code refers to, by class.

A registry keeps its constants in the order of registration, repetitions included; the names of one
class are read off that list.

* `constant` is the name of a token's constant: a stem, an underscore, the token's name in upper case.
* `Registry.register` and `Registry.merge` only append, which `names_register` and `names_merge` say
  class by class.
-/

namespace ScannerDispatch

/-- The constant of the token `name` under a common stem. -/
def constant (stem name : String) : String :=
  stem ++ "_" ++ Text.upper name

/-- Registered constants in order of registration.  New ones begin with `stem`. -/
structure Registry where
  stem : String
  entries : List (TokenClass × String) := []
deriving Repr, DecidableEq, Inhabited

namespace Registry

/-- Registers the token `name` under the class `c`. -/
def register (r : Registry) (c : TokenClass) (name : String) : Registry :=
  { r with entries := r.entries ++ [(c, constant r.stem name)] }

/-- Registers several tokens of one class, in order. -/
def registerAll (r : Registry) (c : TokenClass) (names : List String) : Registry :=
  names.foldl (·.register c ·) r

/-- The constants of a class, in order of registration. -/
def names (r : Registry) (c : TokenClass) : List String :=
  r.entries.filterMap fun e => if e.1 = c then some e.2 else none

/-- The number of constants. -/
def size (r : Registry) : Nat :=
  r.entries.length

/-- Is nothing registered? -/
def isEmpty (r : Registry) : Bool :=
  r.entries.isEmpty

/-- Appends the constants of `other`, as they are. -/
def merge (r other : Registry) : Registry :=
  { r with entries := r.entries ++ other.entries }

/-- Each class with its constants, in the order of classes. -/
def groups (r : Registry) : List (TokenClass × List String) :=
  TokenClass.all.map fun c => (c, r.names c)

@[simp] theorem stem_register (r : Registry) (c : TokenClass) (name : String) :
    (r.register c name).stem = r.stem := rfl

@[simp] theorem names_register (r : Registry) (c d : TokenClass) (name : String) :
    (r.register c name).names d = r.names d ++ if c = d then [constant r.stem name] else [] := by
  by_cases h : c = d <;> simp [register, names, h]

@[simp] theorem names_merge (r other : Registry) (c : TokenClass) :
    (r.merge other).names c = r.names c ++ other.names c := by
  simp [merge, names]

@[simp] theorem size_register (r : Registry) (c : TokenClass) (name : String) :
    (r.register c name).size = r.size + 1 := by
  simp [register, size]

@[simp] theorem size_merge (r other : Registry) : (r.merge other).size = r.size + other.size := by
  simp [merge, size]

end Registry

end ScannerDispatch
