import ScannerDispatch.Toml.Number
import ScannerDispatch.Toml.Text

/-!
Expressions of a TOML document: headers of tables, headers of members of arrays of tables, and pairs
of a key and a value.

* `key` reads a key and `value` a value; neither nests deeper than `nesting`.
* `expressions` reads a whole document.
-/

namespace ScannerDispatch.Toml

/-- A key: the names on the way to a value. -/
abbrev Key := List String

/-- A value before its tables are assembled: tables between braces are still lists of pairs. -/
inductive Literal where
  | scalar (v : Value)
  | array (items : List Literal)
  | braces (pairs : List (Key × Literal))
deriving Repr, Inhabited

/-- An expression. -/
inductive Expression where
  /-- A table's header. -/
  | table (key : Key)
  /-- The header of one more member of an array of tables. -/
  | member (key : Key)
  | pair (key : Key) (value : Literal)
deriving Repr, Inhabited

/-! ## Keys -/

/-- Can `c` stand in a bare name? -/
def isBare (c : Char) : Bool :=
  c.isAlphanum || c = '_' || c = '-'

/-- Reads one name of a key: bare, or a text on one line. -/
def name : (cs : List Char) → Option (String × Shorter cs)
  | [] => none
  | c :: cs =>
    if isQuote c then (Shorter.tail c cs).andRead (lineText c)
    else if isBare c then
      some (String.ofList (c :: cs.takeWhile isBare), .cons c (.dropWhile isBare cs))
    else none

/-- Reads names joined by points, with blanks around them, and the blanks after the last. -/
def names (cs : List Char) : Option (Key × Shorter cs) := do
  let (first, r) ← name cs
  let r := r.thenRest (spaces r.list)
  match uncons? r.list with
  | some ('.', s) =>
    let r := r.then s
    let r := r.thenRest (spaces r.list)
    let (others, s) ← names r.list
    return (first :: others, r.then s)
  | _ => return ([first], r)
termination_by cs.length
decreasing_by exact r.length_lt

/-- How deep tables may nest by the names of one key, and arrays and tables between braces by their
    brackets. -/
def nesting : Nat := 80

/-- Reads a key and the blanks after it. -/
def key (cs : List Char) : Option (Key × Shorter cs) := do
  let (k, r) ← names cs
  if k.length ≤ nesting then return (k, r) else none

/-! ## Values -/

/-- Can `c` stand in a number, a date or a word? -/
def inScalar (c : Char) : Bool :=
  c ∉ ['=', ',', '[', ']', '\x7b', '\x7d', ' ', '\t', '#', '\r', '\n']

/-- The value of a number, a date or a word. -/
def scalar? (cs : List Char) : Option Value :=
  if cs = ['t', 'r', 'u', 'e'] then some (.boolean true)
  else if cs = ['f', 'a', 'l', 's', 'e'] then some (.boolean false)
  else
    (integer? cs).map .integer <|> (float? cs).map .float <|> (DateTime.parse? cs).map .dateTime

/-- Does a number, a date or a word go on behind the blanks here? -/
def goesOn (cs : List Char) : Bool :=
  (cs.dropWhile isSpace).head?.any fun c => inScalar c && !isQuote c

/-- The rest of a number, a date or a word.  Blanks belong to it if it goes on behind them, as a date
    may with its time. -/
def scalarRest : List Char → List Char
  | [] => []
  | c :: cs => if inScalar c || (isSpace c && goesOn cs) then c :: scalarRest cs else []

/-- Reads a number, a date or a word. -/
def scalar : (cs : List Char) → Option (Value × Shorter cs)
  | [] => none
  | c :: cs =>
    if inScalar c then do
      let others := scalarRest cs
      return (← scalar? (c :: others), .cons c (.drop others.length cs))
    else none

/-- Reads members up to a closing character, which is read too.  Commas separate them; one may also
    stand after the last.  Blanks, line ends and comments may stand between all these. -/
def members {α : Type} (close : Char) (item : (cs : List Char) → Option (α × Shorter cs))
    (cs : List Char) : Option (List α × Shorter cs) := do
  let r ← trivia cs
  let (c, s) ← uncons? r.list
  if c = close then return ([], r.then s)
  else
    let (x, r) ← r.andRead item
    let r := r.thenRest (← trivia r.list)
    let (c, r) ← r.andRead uncons?
    if c = close then return ([x], r)
    else if c = ',' then
      let (xs, s) ← members close item r.list
      return (x :: xs, r.then s)
    else none
termination_by cs.length
decreasing_by exact r.length_lt

/-- Reads an equals sign. -/
def equals (cs : List Char) : Option (Unit × Shorter cs) := do
  let (c, r) ← uncons? cs
  if c = '=' then return ((), r) else none

/-- Reads a pair between braces.  Blanks, line ends and comments may stand around its equals sign. -/
def bracesPair (value : (cs : List Char) → Option (Literal × Shorter cs)) (cs : List Char) :
    Option ((Key × Literal) × Shorter cs) := do
  let (k, r) ← key cs
  let r := r.thenRest (← trivia r.list)
  let ((), r) ← r.andRead equals
  let r := r.thenRest (← trivia r.list)
  let (v, r) ← r.andRead value
  return ((k, v), r)

/-- Reads a value in which arrays and tables between braces nest at most `depth` deep. -/
def value (depth : Nat) (cs : List Char) : Option (Literal × Shorter cs) :=
  match cs with
  | [] => none
  | c :: cs =>
    let r := Shorter.tail c cs
    if isQuote c then do
      let (s, r) ← r.andRead (text c)
      return (.scalar (.text s), r)
    else if c = '[' then
      match depth with
      | 0 => none
      | depth + 1 => do
        let (vs, r) ← r.andRead (members ']' (value depth))
        return (.array vs, r)
    else if c = '\x7b' then
      match depth with
      | 0 => none
      | depth + 1 => do
        let (ps, r) ← r.andRead (members '\x7d' (bracesPair (value depth)))
        return (.braces ps, r)
    else do
      let (v, r) ← scalar (c :: cs)
      return (.scalar v, r)
termination_by structural depth

/-! ## Lines -/

/-- Reads a header after its opening brackets; `closing` are the brackets that end it. -/
def headerKey (closing : List Char) (cs : List Char) : Option (Key × Shorter cs) := do
  let (k, r) ← (spaces cs).andRead key
  if closing.isPrefixOf r.list then return (k, r.thenRest (.drop closing.length r.list))
  else none

/-- Reads an expression. -/
def expression : (cs : List Char) → Option (Expression × Shorter cs)
  | '[' :: '[' :: cs => do
    let (k, r) ← headerKey [']', ']'] cs
    return (.member k, .cons _ (Shorter.cons _ r.rest).rest)
  | '[' :: cs => do
    let (k, r) ← headerKey [']'] cs
    return (.table k, .cons _ r.rest)
  | cs => do
    let (k, r) ← key cs
    let ((), r) ← r.andRead equals
    let r := r.thenRest (spaces r.list)
    let (v, r) ← r.andRead (value nesting)
    return (.pair k v, r)

/-- Leaves out a comment, if one begins here. -/
def comment? : (cs : List Char) → Option (Rest cs)
  | '#' :: cs => do return (Shorter.cons _ (← comment cs)).rest
  | cs => some (.all cs)

/-- Leaves out what may stand after an expression: blanks, a comment, and the line end or the end of
    the document. -/
def restOfLine (cs : List Char) : Option (Rest cs) := do
  let r := spaces cs
  let r := r.thenRest (← comment? r.list)
  if r.list.isEmpty then return r
  else return (r.then (← lineEnd? r.list)).rest

/-- Reads the expressions of a document, each on lines of its own. -/
def expressions (cs : List Char) : Option (List Expression) := do
  let r ← trivia cs
  if r.list.isEmpty then return []
  else
    let (e, r) ← r.andRead expression
    let r := r.thenRest (← restOfLine r.list)
    return e :: (← expressions r.list)
termination_by cs.length
decreasing_by exact r.length_lt

end ScannerDispatch.Toml
