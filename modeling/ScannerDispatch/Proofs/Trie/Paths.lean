import Mathlib.Data.Finset.Card
import Mathlib.Data.List.Infix
import ScannerDispatch.Proofs.Trie.Values

/-!
The paths of a trie, and the order of the branches at each node.

* `Edges.labelsAt` are the labels of the branches at the end of a path, and `labelsAt_insert` says how
  an insertion changes them: at every node on its path at most one label is added, at the end.
* `Edges.paths` are the paths to all nodes; in a sound trie each one stands there once.
* `Trie.isPrefixTree_ofList`: a trie is the prefix tree of the values that were inserted, with the
  branches of each node in the order in which they were first needed.
-/

namespace ScannerDispatch

namespace Edges

/-! ## Labels at the end of a path -/

/-- The labels of the branches at the end of a path; none if the path cannot be followed. -/
def labelsAt (es : Edges) (path : List Char) : List Char :=
  (Node.descend path ⟨none, es⟩).elim [] (·.edges.labels)

@[simp] theorem labelsAt_nil (es : Edges) : es.labelsAt [] = es.labels := rfl

@[simp] theorem nil_labelsAt (path : List Char) : nil.labelsAt path = [] := by
  cases path <;> rfl

theorem labelsAt_cons (d : Char) (t : Option Terminal) (below rest : Edges) (c : Char)
    (path : List Char) : (cons d t below rest).labelsAt (c :: path) =
      if c = d then below.labelsAt path else rest.labelsAt (c :: path) := by
  by_cases h : c = d
  · cases path <;> simp [labelsAt, Node.descend, child?, h]
  · simp [labelsAt, Node.descend, child?, h]

/-- The character that follows `path` in a text, if the text begins with `path` and goes on. -/
def next? : List Char → List Char → Option Char
  | [], cs => cs.head?
  | _ :: _, [] => none
  | c :: path, d :: cs => if c = d then next? path cs else none

@[simp] theorem next?_nil (path : List Char) : next? path [] = none := by
  cases path <;> rfl

theorem next?_eq_some_iff {path cs : List Char} {c : Char} :
    next? path cs = some c ↔ path ++ [c] <+: cs := by
  induction path generalizing cs with
  | nil => cases cs <;> simp [next?, eq_comm]
  | cons d path ih =>
    cases cs with
    | nil => simp [next?]
    | cons e cs => by_cases h : d = e <;> simp [next?, h, ih, List.cons_prefix_cons]

/-- Labels after a new one was added, unless it is there already. -/
def addLabel (labels : List Char) : Option Char → List Char
  | none => labels
  | some c => if c ∈ labels then labels else labels ++ [c]

theorem mem_addLabel {labels : List Char} {o : Option Char} {c : Char} :
    c ∈ addLabel labels o ↔ c ∈ labels ∨ o = some c := by
  cases o with
  | none => simp [addLabel]
  | some d =>
    by_cases h : d ∈ labels
    · rw [addLabel, if_pos h]
      exact ⟨.inl, fun hc => hc.elim id fun he => Option.some.inj he ▸ h⟩
    · rw [addLabel, if_neg h, List.mem_append, List.mem_singleton, Option.some.injEq, eq_comm]

theorem labelsAt_spine (x : Terminal) (path q : List Char) :
    (spine x path).labelsAt q = (next? q path).toList := by
  induction path generalizing q with
  | nil => simp [spine]
  | cons c path ih =>
    cases q with
    | nil => rfl
    | cons d q =>
      rw [spine, labelsAt_cons, nil_labelsAt, ih, next?]
      split <;> rfl

/-- **An insertion adds a label where its path leaves the trie**, and changes no others. -/
theorem labelsAt_insert (x : Terminal) (es : Edges) (path q : List Char) :
    (es.insert x path).labelsAt q = addLabel (es.labelsAt q) (next? q path) := by
  induction es generalizing path q with
  | nil =>
    cases path with
    | nil => simp [addLabel]
    | cons c path =>
      rw [insert, labelsAt_spine, nil_labelsAt]
      cases next? q (c :: path) <;> rfl
  | cons d t below rest ihb ihr =>
    cases path with
    | nil => simp [addLabel]
    | cons c path =>
      cases q with
      | nil => simp [labels_insert, next?, addLabel]
      | cons e q =>
        by_cases hc : c = d
        · subst hc
          rw [insert, if_pos rfl, labelsAt_cons, labelsAt_cons, next?]
          by_cases he : e = c
          · simp [he, ihb]
          · simp [he, addLabel]
        · rw [insert, if_neg hc, labelsAt_cons, labelsAt_cons]
          by_cases he : e = d
          · simp [he, next?, Ne.symm hc, addLabel]
          · simp [he, ihr]

/-! ## Children -/

theorem isSome_child? (c : Char) (es : Edges) : (es.child? c).isSome = true ↔ c ∈ es.labels := by
  induction es with
  | nil => simp [child?]
  | cons d t below rest _ ih => by_cases h : c = d <;> simp [child?, h, ih]

/-- Where labels are different, every branch is the child under its label. -/
theorem child?_of_mem {es : Edges} (h : es.labels.Nodup) {c : Char} {n : Node}
    (hm : (c, n) ∈ es.toList) : es.child? c = some n := by
  induction es with
  | nil => simp at hm
  | cons d t below rest _ ih =>
    obtain ⟨hd, hr⟩ := List.nodup_cons.1 h
    rcases List.mem_cons.1 hm with he | hm
    · cases he
      simp [child?]
    · have hne : c ≠ d := fun he => hd (he ▸ List.mem_map.2 ⟨_, hm, rfl⟩)
      rw [child?, if_neg hne]
      exact ih hr hm

/-- A path can be followed by one more character if there is a branch with that label. -/
theorem isSome_descend_append (es : Edges) (path : List Char) (c : Char) :
    (Node.descend (path ++ [c]) ⟨none, es⟩).isSome = true ↔ c ∈ es.labelsAt path := by
  rw [Node.descend_append, labelsAt]
  cases Node.descend path ⟨none, es⟩ with
  | none => simp
  | some n =>
    rw [Option.bind_some, Option.elim_some, ← isSome_child?]
    cases h : n.edges.child? c <;> simp [Node.descend, h]

/-! ## All paths -/

/-- The paths to all nodes below the root. -/
def paths : Edges → List (List Char)
  | nil => []
  | cons c _ below rest => [c] :: below.paths.map (c :: ·) ++ rest.paths

end Edges

/-! ## Tries of lists -/

/-- The number of the first entry whose value begins with `path`. -/
def firstWith (entries : List (String × String)) (path : List Char) : Nat :=
  entries.findIdx fun e => path.isPrefixOf e.1.toList

theorem firstWith_lt_length_iff {entries : List (String × String)} {path : List Char} :
    firstWith entries path < entries.length ↔ ∃ e ∈ entries, path <+: e.1.toList := by
  simp [firstWith, List.findIdx_lt_length]

theorem firstWith_append_of_lt {entries : List (String × String)} {path : List Char}
    (h : firstWith entries path < entries.length) (more : List (String × String)) :
    firstWith (entries ++ more) path = firstWith entries path := by
  rw [firstWith, List.findIdx_append]
  exact if_pos h

theorem length_le_firstWith_append {entries : List (String × String)} {path : List Char}
    (h : ¬ ∃ e ∈ entries, path <+: e.1.toList) (more : List (String × String)) :
    entries.length ≤ firstWith (entries ++ more) path := by
  rw [← firstWith_lt_length_iff] at h
  rw [firstWith, List.findIdx_append]
  exact (Nat.le_add_left _ _).trans_eq (if_neg h).symm

namespace Trie

theorem ofList_append_singleton (entries : List (String × String)) (e : String × String) :
    ofList (entries ++ [e]) = (ofList entries).insert e.1 e.2 :=
  insertAll_append empty entries [e]

/-- There is a branch with a label where a value goes on with that character. -/
theorem mem_labelsAt_ofList {entries : List (String × String)} {path : List Char} {c : Char} :
    c ∈ (ofList entries).edges.labelsAt path ↔ ∃ e ∈ entries, path ++ [c] <+: e.1.toList := by
  induction entries using List.reverseRecOn with
  | nil => simp [ofList, insertAll, empty]
  | append_singleton entries e ih =>
    rw [ofList_append_singleton, insert, Edges.labelsAt_insert, Edges.mem_addLabel, ih,
      Edges.next?_eq_some_iff]
    simp only [List.mem_append, List.mem_singleton, or_and_right, exists_or, exists_eq_left]

/-- **Branches stand in the order in which values first needed them.** -/
theorem pairwise_labelsAt_ofList (entries : List (String × String)) (path : List Char) :
    ((ofList entries).edges.labelsAt path).Pairwise fun c d =>
      firstWith entries (path ++ [c]) < firstWith entries (path ++ [d]) := by
  induction entries using List.reverseRecOn with
  | nil => simp [ofList, insertAll, empty]
  | append_singleton entries e ih =>
    have hold : ∀ c ∈ (ofList entries).edges.labelsAt path,
        firstWith entries (path ++ [c]) < entries.length :=
      fun c hc => firstWith_lt_length_iff.2 (mem_labelsAt_ofList.1 hc)
    have hkept : ((ofList entries).edges.labelsAt path).Pairwise fun c d =>
        firstWith (entries ++ [e]) (path ++ [c]) < firstWith (entries ++ [e]) (path ++ [d]) := by
      refine ih.imp_of_mem fun hc hd h => ?_
      rwa [firstWith_append_of_lt (hold _ hc), firstWith_append_of_lt (hold _ hd)]
    rw [ofList_append_singleton, insert, Edges.labelsAt_insert]
    cases Edges.next? path e.1.toList with
    | none => exact hkept
    | some d =>
      rw [Edges.addLabel]
      split
      · exact hkept
      · next hnew =>
        -- the new label was needed by no entry before the last one
        refine List.pairwise_append.2 ⟨hkept, List.pairwise_singleton _ d, ?_⟩
        intro c hc d' hd'
        rw [List.mem_singleton.1 hd', firstWith_append_of_lt (hold c hc)]
        have hd : ¬ ∃ e ∈ entries, path ++ [d] <+: e.1.toList :=
          fun h => hnew (mem_labelsAt_ofList.2 h)
        exact Nat.lt_of_lt_of_le (hold c hc) (length_le_firstWith_append hd [e])

theorem contains_ofList_iff {entries : List (String × String)} {path : String} :
    (ofList entries).contains path = true ↔
      path = "" ∨ ∃ e ∈ entries, path.toList <+: e.1.toList := by
  rw [contains, find, ← String.toList_eq_nil_iff]
  rcases List.eq_nil_or_concat path.toList with h | ⟨q, c, h⟩
  · simp [h]
  · rw [h, List.concat_eq_append]
    refine (Edges.isSome_descend_append _ q c).trans ?_
    simp [mem_labelsAt_ofList]

/-- The node at the end of `path` in the prefix tree of some entries. -/
structure IsPrefixNode (entries : List (String × String)) (t : Trie) (path : String)
    (node : Node) : Prop where
  /-- A value ends at the node if it is the path and was inserted; its last token counts. -/
  terminal_eq : node.terminal =
    if path = "" then none else (lastToken? entries path).map (⟨path, ·⟩)
  /-- No two children have the same label. -/
  nodup_labels : (node.children.map Prod.fst).Nodup
  /-- The labels are the characters with which values go on. -/
  mem_labels_iff : ∀ c, c ∈ node.children.map Prod.fst ↔
    ∃ e ∈ entries, path.toList ++ [c] <+: e.1.toList
  /-- They stand in the order in which values first went on with them. -/
  pairwise_labels : (node.children.map Prod.fst).Pairwise fun c d =>
    firstWith entries (path.toList ++ [c]) < firstWith entries (path.toList ++ [d])
  /-- A child is the node at the end of the path that its label makes longer. -/
  find_child : ∀ child ∈ node.children, t.find (path.push child.1) = some child.2

theorem isPrefixNode_of_find {entries : List (String × String)} {path : String} {node : Node}
    (h : (ofList entries).find path = some node) :
    IsPrefixNode entries (ofList entries) path node := by
  have hd : Node.descend path.toList ⟨none, (ofList entries).edges⟩ = some node := h
  have hlabels : node.children.map Prod.fst = (ofList entries).edges.labelsAt path.toList := by
    rw [Edges.labelsAt, hd]
    rfl
  have hpairwise := pairwise_labelsAt_ofList entries path.toList
  rw [← hlabels] at hpairwise
  have hnodup : (node.children.map Prod.fst).Nodup := by
    refine hpairwise.imp fun {c d} hlt => ?_
    rintro rfl
    exact Nat.lt_irrefl _ hlt
  refine ⟨?_, hnodup, ?_, hpairwise, ?_⟩
  · have hv : (ofList entries).edges.valueAt path.toList = node.terminal := by
      rw [Edges.valueAt, hd]
      rfl
    rw [← hv]
    split
    · next he => simp [he]
    · next hne => exact valueAt_ofList entries hne
  · intro c
    rw [hlabels]
    exact mem_labelsAt_ofList
  · rintro ⟨c, child⟩ hm
    have hc : node.edges.child? c = some child := Edges.child?_of_mem hnodup hm
    rw [find, String.toList_push, Node.descend_append]
    refine (congrArg (·.bind (Node.descend [c])) h).trans ?_
    simp [Node.descend, hc]

end Trie

end ScannerDispatch
