import ScannerDispatch.Emission

/-!
The enumeration of token constants.

Every class with a heading gets a group: the heading as a comment, then the constants, four to a
line.  A blank line separates groups, and a comma follows every constant but the last of all.

* `Enumeration.rows` splits constants into lines.
* `Enumeration.steps` emits the whole enumeration.
-/

namespace ScannerDispatch.Enumeration

/-- How many constants stand on a line. -/
def perLine : Nat := 4

/-- Splits names into rows of `perLine`, the last of which may be shorter. -/
def rows (names : List String) : List (List String) :=
  if names.isEmpty then []
  else names.take perLine :: rows (names.drop perLine)
termination_by names.length
decreasing_by
  cases names with
  | nil => exact absurd rfl ‹_›
  | cons name names => simp only [List.length_drop, List.length_cons, perLine]; omega

/-- The lines of a group, with a comma after each constant; `last` says that none follows the last
    one. -/
def lines (last : Bool) : List (List String) → List String
  | [] => []
  | [row] => [", ".intercalate row ++ if last then "" else ","]
  | row :: rest => (", ".intercalate row ++ ",") :: lines last rest

/-- A heading with the constants below it. -/
structure Group where
  heading : String
  names : List String
deriving Repr, DecidableEq, Inhabited

/-- The groups of a registry, in the order of classes. -/
def groups (r : Registry) : List Group :=
  TokenClass.all.filterMap fun c => c.comment.map fun heading => ⟨heading, r.names c⟩

/-- The steps for one group.  `last` says that no constant follows in later groups. -/
def Group.steps (last : Bool) (g : Group) : List Step :=
  .line 1 ("// " ++ g.heading) :: (lines last (rows g.names)).map (.line 1)

/-- The steps for several groups, with blank lines between them. -/
def groupSteps : List Group → List Step
  | [] => []
  | [g] => g.steps true
  | g :: rest => g.steps (rest.all (·.names.isEmpty)) ++ .line 1 "" :: groupSteps rest

/-- The steps for the enumeration `type` of a registry. -/
def steps (r : Registry) (type : String) : List Step :=
  .line 0 "typedef enum \x7b" :: groupSteps (groups r) ++ [.line 0 ("\x7d " ++ type ++ ";")]

@[simp] theorem flatten_rows (names : List String) : (rows names).flatten = names := by
  fun_induction rows names with
  | case1 names h => simpa using h.symm
  | case2 names h ih => simp [ih]

end ScannerDispatch.Enumeration
