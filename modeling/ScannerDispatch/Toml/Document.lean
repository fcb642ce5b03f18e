import ScannerDispatch.Toml.Expression

/-!
From expressions to the table that a document stands for.

A table may be extended only as its origin allows, and nothing may be defined twice.

* `Table.update` changes the table that a key leads to, making tables on the way.
* `Table.setPair`, `Table.openTable` and `Table.openMember` add what one expression says.
* `parse` reads a whole document.
-/

namespace ScannerDispatch.Toml

/-- A table: how it came about, and its entries in order. -/
structure Table where
  origin : Origin
  entries : List (String × Value) := []
deriving Repr, Inhabited

namespace Table

/-- The table as a value. -/
def toValue (t : Table) : Value :=
  .table t.origin t.entries

/-- The value of a name. -/
def get? (t : Table) (name : String) : Option Value :=
  t.entries.lookup name

/-- Adds an entry at the end. -/
def push (t : Table) (name : String) (v : Value) : Table :=
  { t with entries := t.entries ++ [(name, v)] }

/-- Replaces the value of a name. -/
def replace (t : Table) (name : String) (v : Value) : Table :=
  { t with entries := t.entries.map fun e => if e.1 = name then (name, v) else e }

/-- May a key lead through a table of this origin?  A dotted key only extends tables that have no
    header of their own. -/
def passable (byDots : Bool) : Origin → Bool
  | .implicit | .dotted => true
  | .header => !byDots
  | .braces => false

/-- Changes the table that a path leads to, making tables on the way.  A path leads through the last
    member of an array of tables. -/
def update (byDots : Bool) (f : Table → Option Table) : Key → Table → Option Table
  | [], t => f t
  | name :: path, t =>
    match t.get? name with
    | none => do
      let child ← update byDots f path { origin := if byDots then .dotted else .implicit }
      return t.push name child.toValue
    | some (.table origin entries) => do
      if !passable byDots origin then none
      let child ← update byDots f path { origin, entries }
      return t.replace name child.toValue
    | some (.array true items) => do
      let some (.table origin entries) := items.getLast? | none
      let child ← update byDots f path { origin, entries }
      return t.replace name (.array true (items.dropLast ++ [child.toValue]))
    | some _ => none

/-- Adds an entry whose key had one name or, with `byDots`, several.  Tables that dotted keys made are
    extended only by dotted keys, and no others are. -/
def add (byDots : Bool) (name : String) (v : Value) (t : Table) : Option Table :=
  if (t.origin == .dotted) != byDots then none
  else if (t.get? name).isSome then none
  else some (t.push name v)

/-- Adds a pair. -/
def setPair (key : Key) (v : Value) (t : Table) : Option Table := do
  let name ← key.getLast?
  let path := key.dropLast
  update (!path.isEmpty) (add (!path.isEmpty) name v) path t

/-- Gives a table its header. -/
def openTable (key : Key) (t : Table) : Option Table := do
  let name ← key.getLast?
  let opened (parent : Table) : Option Table :=
    match parent.get? name with
    | none => some (parent.push name (.table .header []))
    | some (.table .implicit entries) => some (parent.replace name (.table .header entries))
    | some _ => none
  update false opened key.dropLast t

/-- Adds a member to an array of tables. -/
def openMember (key : Key) (t : Table) : Option Table := do
  let name ← key.getLast?
  let member : Value := .table .header []
  let opened (parent : Table) : Option Table :=
    match parent.get? name with
    | none => some (parent.push name (.array true [member]))
    | some (.array true items) => some (parent.replace name (.array true (items ++ [member])))
    | some _ => none
  update false opened key.dropLast t

end Table

/-! ## Values -/

mutual

/-- Assembles the tables of a value. -/
def Literal.assemble : Literal → Option Value
  | .scalar v => some v
  | .array items => do return .array false (← Literal.assembleAll items)
  | .braces pairs => do return (← Literal.assemblePairs pairs { origin := .braces }).toValue

/-- Assembles the tables of the members of an array. -/
def Literal.assembleAll : List Literal → Option (List Value)
  | [] => some []
  | l :: rest => do return (← l.assemble) :: (← Literal.assembleAll rest)

/-- Adds the pairs of a table between braces to `t`. -/
def Literal.assemblePairs : List (Key × Literal) → Table → Option Table
  | [], t => some t
  | (key, l) :: rest, t => do
    Literal.assemblePairs rest (← t.setPair key (← l.assemble))

end

/-! ## Documents -/

/-- Adds expressions to a document; `current` leads to the table whose header came last. -/
def assemble (current : Key) : List Expression → Table → Option Table
  | [], t => some t
  | .table key :: rest, t => do assemble key rest (← t.openTable key)
  | .member key :: rest, t => do assemble key rest (← t.openMember key)
  | .pair key l :: rest, t => do
    let v ← l.assemble
    assemble current rest (← t.update false (Table.setPair key v) current)

/-- The table that a document stands for.  A mark of the byte order in front is left out. -/
def parse (document : String) : Option Table := do
  let cs := match document.toList with
    | '\ufeff' :: cs => cs
    | cs => cs
  assemble [] (← expressions cs) { origin := .header }

end ScannerDispatch.Toml
