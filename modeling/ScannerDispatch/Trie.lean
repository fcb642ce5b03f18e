/-!
Prefix trees of texts, each text carrying the name of its token.

The children of a node are its `Edges`, a list of labelled branches in the order in which they were
made.  The root stands for the empty text, which is never a value, so a `Trie` is just the edges
below the root.

* `Trie.insert` adds a value or replaces its token; the empty value is ignored.
* `Trie.find` follows a path; `Trie.contains` says whether it can be followed.
* `Node.only?` is the only value at or below a node, when there is exactly one.
* `Trie.size` counts nodes, the root included.
-/

namespace ScannerDispatch

/-- A value that ends at a node, with the name of its token. -/
structure Terminal where
  value : String
  token : String
deriving Repr, DecidableEq, Inhabited

/-- The branches below a node, first made first: each has the character that leads to the child, the
    value that ends there, and the branches below it. -/
inductive Edges where
  | nil
  | cons (label : Char) (terminal : Option Terminal) (below rest : Edges)
deriving Repr, DecidableEq, Inhabited

/-- A node: the value that ends at it, if any, and the branches below it. -/
structure Node where
  terminal : Option Terminal
  edges : Edges
deriving Repr, DecidableEq, Inhabited

/-- A prefix tree, given by the branches below its root. -/
structure Trie where
  edges : Edges := .nil
deriving Repr, DecidableEq, Inhabited

/-! ## Branches -/

namespace Edges

/-- The children with their labels, in order. -/
def toList : Edges → List (Char × Node)
  | nil => []
  | cons c t below rest => (c, ⟨t, below⟩) :: rest.toList

/-- How many nodes there are below. -/
def size : Edges → Nat
  | nil => 0
  | cons _ _ below rest => 1 + below.size + rest.size

/-- The child that `c` leads to. -/
def child? (c : Char) : Edges → Option Node
  | nil => none
  | cons d t below rest => if c = d then some ⟨t, below⟩ else rest.child? c

/-- One branch without forks, along which the characters lead to the terminal `x`. -/
def spine (x : Terminal) : List Char → Edges
  | [] => nil
  | c :: cs => cons c (if cs.isEmpty then some x else none) (spine x cs) nil

/-- Puts the terminal `x` at the end of a path.  Existing branches are followed; where they end, a
    new one is made after them. -/
def insert (x : Terminal) : Edges → List Char → Edges
  | es, [] => es
  | nil, c :: cs => spine x (c :: cs)
  | cons d t below rest, c :: cs =>
    if c = d then cons d (if cs.isEmpty then some x else t) (below.insert x cs) rest
    else cons d t below (rest.insert x (c :: cs))

/-- The only terminal at or below a node with the terminal `own` and these branches. -/
def only? : Option Terminal → Edges → Option Terminal
  | own, nil => own
  | none, cons _ t below nil => below.only? t
  | _, _ => none

/-- Are there no branches? -/
def isEmpty : Edges → Bool
  | nil => true
  | cons .. => false

@[simp] theorem toList_nil : nil.toList = [] := rfl

@[simp] theorem toList_cons (c : Char) (t : Option Terminal) (below rest : Edges) :
    (cons c t below rest).toList = (c, ⟨t, below⟩) :: rest.toList := rfl

@[simp] theorem insert_nil (x : Terminal) (es : Edges) : es.insert x [] = es := by
  cases es <;> rfl

theorem isEmpty_iff {es : Edges} : es.isEmpty = true ↔ es = nil := by
  cases es <;> simp [isEmpty]

theorem size_eq_zero_iff {es : Edges} : es.size = 0 ↔ es = nil := by
  cases es <;> simp [size]

/-- A child is found under its label, the first one with that label. -/
theorem child?_eq_lookup (c : Char) (es : Edges) : es.child? c = es.toList.lookup c := by
  induction es with
  | nil => rfl
  | cons d t below rest _ ih =>
    by_cases h : c = d
    · simp [child?, h]
    · simp [child?, List.lookup_cons, h, ih, beq_false_of_ne h]

end Edges

/-! ## Nodes -/

namespace Node

/-- The children with the characters that lead to them, in order. -/
def children (n : Node) : List (Char × Node) :=
  n.edges.toList

/-- A leaf has no children. -/
def isLeaf (n : Node) : Bool :=
  n.edges.isEmpty

/-- The node at the end of a path. -/
def descend : List Char → Node → Option Node
  | [], n => some n
  | c :: cs, n => (n.edges.child? c).bind (descend cs)

/-- The only value at or below the node, when there is exactly one. -/
def only? (n : Node) : Option Terminal :=
  n.edges.only? n.terminal

@[simp] theorem descend_nil (n : Node) : n.descend [] = some n := rfl

theorem descend_append (p q : List Char) (n : Node) :
    n.descend (p ++ q) = (n.descend p).bind (descend q) := by
  induction p generalizing n with
  | nil => rfl
  | cons c p ih =>
    cases h : n.edges.child? c with
    | none => simp [descend, h]
    | some m => simpa [descend, h] using ih m

end Node

/-! ## Tries -/

namespace Trie

/-- The trie without values. -/
def empty : Trie := {}

/-- The node of the empty path. -/
def root (t : Trie) : Node :=
  ⟨none, t.edges⟩

/-- Adds `value`, or replaces its token.  The empty value is ignored. -/
def insert (t : Trie) (value token : String) : Trie :=
  ⟨t.edges.insert ⟨value, token⟩ value.toList⟩

/-- Inserts values with their tokens, in order. -/
def insertAll (t : Trie) (entries : List (String × String)) : Trie :=
  entries.foldl (fun t e => t.insert e.1 e.2) t

/-- The trie of values with their tokens, inserted in order. -/
def ofList (entries : List (String × String)) : Trie :=
  empty.insertAll entries

/-- The node at the end of `path`. -/
def find (t : Trie) (path : String) : Option Node :=
  t.root.descend path.toList

/-- Can `path` be followed from the root? -/
def contains (t : Trie) (path : String) : Bool :=
  (t.find path).isSome

/-- The number of nodes, the root included. -/
def size (t : Trie) : Nat :=
  1 + t.edges.size

/-- Is the root the only node? -/
def isEmpty (t : Trie) : Bool :=
  t.size == 1

@[simp] theorem insert_empty_value (t : Trie) (token : String) : t.insert "" token = t := by
  simp [insert]

@[simp] theorem find_empty_path (t : Trie) : t.find "" = some t.root := by
  simp [find]

theorem isEmpty_iff {t : Trie} : t.isEmpty = true ↔ t = empty := by
  obtain ⟨es⟩ := t
  simp [isEmpty, size, empty, Edges.size_eq_zero_iff]

theorem insertAll_append (t : Trie) (xs ys : List (String × String)) :
    t.insertAll (xs ++ ys) = (t.insertAll xs).insertAll ys := by
  simp [insertAll]

end Trie

end ScannerDispatch
