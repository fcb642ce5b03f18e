import ScannerDispatch.Proofs.Trie.Completions

/-!
The nodes at which several values are left, and the nodes at which one is left alone.

* `Node.ForksAt` says that a path leads to a node without an only value.  Below a node with an only
  value there are no such nodes.
* `Edges.forks` are these nodes with their paths, each one once (`Sound.mem_forks_iff`,
  `Sound.nodup_forks`).
* `Edges.comparisons` are the values, each with the path on which it is left alone or ends.
  `SplitsAt` says what this path is: all nodes before its end are forks.
-/

namespace ScannerDispatch

namespace Node

/-- The path can be followed to a node without an only value. -/
def ForksAt (n : Node) (q : List Char) : Prop :=
  ∃ m, n.descend q = some m ∧ m.only? = none

theorem descend_cons_edges (own : Option Terminal) (c d : Char) (t : Option Terminal)
    (below rest : Edges) (q : List Char) :
    descend (c :: q) ⟨own, .cons d t below rest⟩ =
      if c = d then descend q ⟨t, below⟩ else descend (c :: q) ⟨none, rest⟩ := by
  by_cases h : c = d <;> simp [descend, Edges.child?, h]

theorem forksAt_cons_edges {own : Option Terminal} {c d : Char} {t : Option Terminal}
    {below rest : Edges} {q : List Char} :
    ForksAt ⟨own, .cons d t below rest⟩ (c :: q) ↔
      if c = d then ForksAt ⟨t, below⟩ q else ForksAt ⟨none, rest⟩ (c :: q) := by
  unfold ForksAt
  rw [descend_cons_edges]
  split <;> rfl

/-- A node below one with an only value has the same one. -/
theorem only?_of_descend {n m : Node} {k : Terminal} {q : List Char} (hk : n.only? = some k)
    (hd : n.descend q = some m) : m.only? = some k := by
  induction q generalizing n with
  | nil =>
    cases hd
    exact hk
  | cons c q ih =>
    obtain ⟨own, es⟩ := n
    cases es with
    | nil => cases hd
    | cons d t below rest =>
      cases own with
      | some x => simp [only?, Edges.only?] at hk
      | none =>
        cases rest with
        | cons => simp [only?, Edges.only?] at hk
        | nil =>
          have hbelow : (Node.mk t below).only? = some k := hk
          rw [descend_cons_edges] at hd
          split at hd
          · exact ih hbelow hd
          · cases hd

end Node

namespace Edges

/-! ## Forks -/

/-- The nodes below the path `p` that have no only value, each with its path, from the root down. -/
def forks (p : List Char) : Edges → List (List Char × Node)
  | nil => []
  | cons c t below rest =>
    (match below.only? t with
      | some _ => []
      | none => (p ++ [c], ⟨t, below⟩) :: below.forks (p ++ [c])) ++ rest.forks p

theorem forks_cons (p : List Char) (c : Char) (t : Option Terminal) (below rest : Edges) :
    (cons c t below rest).forks p = (cons c t below nil).forks p ++ rest.forks p := by
  simp [forks]

theorem exists_label_of_mem_forks {p : List Char} {es : Edges} {f : List Char × Node}
    (h : f ∈ es.forks p) : ∃ c ∈ es.labels, ∃ q, f.1 = p ++ c :: q := by
  induction es generalizing p with
  | nil => simp [forks] at h
  | cons c t below rest ihb ihr =>
    rw [forks] at h
    rcases List.mem_append.1 h with h | h
    · cases ho : below.only? t with
      | some k => simp [ho] at h
      | none =>
        rw [ho] at h
        rcases List.mem_cons.1 h with rfl | h
        · exact ⟨c, List.mem_cons_self .., [], rfl⟩
        · obtain ⟨d, -, q, hq⟩ := ihb h
          exact ⟨c, List.mem_cons_self .., d :: q, by simp [hq]⟩
    · obtain ⟨d, hd, q, hq⟩ := ihr h
      exact ⟨d, List.mem_cons_of_mem c hd, q, hq⟩

theorem label_of_mem_forks {p q : List Char} {c : Char} {es : Edges} {n : Node}
    (h : (p ++ c :: q, n) ∈ es.forks p) : c ∈ es.labels := by
  obtain ⟨d, hd, r, hr⟩ := exists_label_of_mem_forks h
  obtain ⟨rfl, -⟩ := List.cons.inj (List.append_cancel_left hr)
  exact hd

theorem not_mem_forks_self (p : List Char) (es : Edges) (n : Node) : (p, n) ∉ es.forks p := by
  intro h
  obtain ⟨c, -, q, hq⟩ := exists_label_of_mem_forks h
  exact List.cons_ne_nil c q (List.self_eq_append_right.1 hq)

/-- **The forks are the nodes without an only value.** -/
theorem Sound.mem_forks_iff {p : List Char} {es : Edges} (hs : es.Sound p) {c : Char}
    {q : List Char} {n : Node} : (p ++ c :: q, n) ∈ es.forks p ↔
      Node.descend (c :: q) ⟨none, es⟩ = some n ∧ n.only? = none := by
  induction es generalizing p c q with
  | nil => simp [forks, Node.descend, child?]
  | cons d t below rest ihb ihr =>
    obtain ⟨-, -, hd, hb, hr⟩ := hs
    rw [forks_cons, List.mem_append, Node.descend_cons_edges]
    by_cases hc : c = d
    · subst hc
      have hrest : (p ++ c :: q, n) ∉ rest.forks p := fun hm => hd (label_of_mem_forks hm)
      rw [if_pos rfl, or_iff_left hrest, forks, forks, List.append_nil]
      cases ho : below.only? t with
      | some k =>
        have hno : ¬ (Node.descend q ⟨t, below⟩ = some n ∧ n.only? = none) := by
          rintro ⟨hn, hnone⟩
          have hk : (Node.mk t below).only? = some k := ho
          rw [Node.only?_of_descend hk hn] at hnone
          cases hnone
        simp [hno]
      | none =>
        have hp : p ++ c :: q = (p ++ [c]) ++ q := by simp
        rw [hp, List.mem_cons, Prod.mk.injEq, List.append_right_eq_self]
        cases q with
        | nil =>
          rw [List.append_nil, or_iff_left (not_mem_forks_self _ below n), Node.descend_nil,
            Option.some.injEq]
          constructor
          · rintro ⟨-, rfl⟩
            exact ⟨rfl, ho⟩
          · rintro ⟨rfl, -⟩
            exact ⟨rfl, rfl⟩
        | cons e q =>
          rw [ihb hb]
          simp [Node.descend]
    · have hself : (p ++ c :: q, n) ∉ (cons d t below nil).forks p :=
        fun hm => hc (List.mem_singleton.1 (label_of_mem_forks hm))
      rw [or_iff_right hself, if_neg hc]
      exact ihr hr

/-- In a sound trie no fork stands twice. -/
theorem Sound.nodup_forks {p : List Char} {es : Edges} (hs : es.Sound p) :
    ((es.forks p).map Prod.fst).Nodup := by
  induction es generalizing p with
  | nil => exact List.nodup_nil
  | cons c t below rest ihb ihr =>
    obtain ⟨-, -, hc, hb, hr⟩ := hs
    have hself : (((cons c t below nil).forks p).map Prod.fst).Nodup := by
      rw [forks, forks, List.append_nil]
      cases below.only? t with
      | some k => exact List.nodup_nil
      | none =>
        refine List.nodup_cons.2 ⟨fun hm => ?_, ihb hb⟩
        obtain ⟨⟨q, n⟩, hm, rfl⟩ := List.mem_map.1 hm
        exact not_mem_forks_self _ below n hm
    rw [forks_cons, List.map_append]
    refine hself.append (ihr hr) ?_
    -- paths through this branch go on with its label, the others do not
    intro q hq hrest
    obtain ⟨⟨q, n⟩, hm, rfl⟩ := List.mem_map.1 hq
    obtain ⟨⟨q', m⟩, hm', rfl⟩ := List.mem_map.1 hrest
    obtain ⟨d, hd, r, rfl⟩ := exists_label_of_mem_forks hm
    obtain rfl : d = c := List.mem_singleton.1 hd
    exact hc (label_of_mem_forks hm')

/-! ## Comparisons -/

/-- The values, each with the path on which it is left alone or, if it never is, with its own path. -/
def comparisons (p : List Char) : Edges → List (List Char × Terminal)
  | nil => []
  | cons c t below rest =>
    (match below.only? t with
      | some k => [(p ++ [c], k)]
      | none => below.comparisons (p ++ [c]) ++ t.toList.map (p ++ [c], ·)) ++ rest.comparisons p

/-- There is one comparison for each value. -/
theorem map_snd_comparisons (p : List Char) (es : Edges) :
    (es.comparisons p).map Prod.snd = es.terminals := by
  induction es generalizing p with
  | nil => rfl
  | cons c t below rest ihb ihr =>
    rw [comparisons, List.map_append, ihr, terminals]
    congr 1
    cases ho : below.only? t with
    | some k => exact (terminals_of_only? ho).symm
    | none =>
      rw [List.map_append, ihb, List.map_map]
      cases t <;> rfl

/-- The path leads to the node of the value, or to one at which it is the only value, and no node
    before has an only value. -/
structure SplitsAt (es : Edges) (q : List Char) (x : Terminal) : Prop where
  node : ∃ n, Node.descend q ⟨none, es⟩ = some n ∧ (n.only? = some x ∨ n.terminal = some x)
  forks : ∀ r c r', q = r ++ c :: r' → r ≠ [] → Node.ForksAt ⟨none, es⟩ r

/-- A value is compared where it is left alone. -/
theorem splitsAt_singleton {c : Char} {t : Option Terminal} {below rest : Edges} {x : Terminal}
    (h : below.only? t = some x ∨ t = some x) : (cons c t below rest).SplitsAt [c] x where
  node := ⟨⟨t, below⟩, by simp [Node.descend, child?], h⟩
  forks r d r' he hr := by
    have hlen := congrArg List.length he
    have hpos := List.length_pos_iff.2 hr
    simp only [List.length_append, List.length_cons, List.length_nil] at hlen
    omega

/-- Below a fork, a value is compared where it is compared among the values there. -/
theorem SplitsAt.cons {c : Char} {t : Option Terminal} {below rest : Edges} {q : List Char}
    {x : Terminal} (h : below.SplitsAt q x) (hq : q ≠ []) (hn : below.only? t = none) :
    (Edges.cons c t below rest).SplitsAt (c :: q) x := by
  have hown (r : List Char) (hr : r ≠ []) :
      Node.descend r ⟨t, below⟩ = Node.descend r ⟨none, below⟩ := by
    cases r with
    | nil => contradiction
    | cons => rfl
  obtain ⟨⟨n, hd, hx⟩, hforks⟩ := h
  refine ⟨⟨n, ?_, hx⟩, fun r d r' he hr => ?_⟩
  · rw [Node.descend_cons_edges, if_pos rfl, hown q hq, hd]
  · cases r with
    | nil => contradiction
    | cons e r =>
      obtain ⟨rfl, htail⟩ := List.cons.inj he
      rw [Node.forksAt_cons_edges, if_pos rfl]
      by_cases hr : r = []
      · exact hr ▸ ⟨⟨t, below⟩, rfl, hn⟩
      · obtain ⟨m, hm, hnone⟩ := hforks r d r' htail hr
        exact ⟨m, (hown r hr).trans hm, hnone⟩

/-- A value of a later branch is compared where it is compared among the later branches. -/
theorem SplitsAt.cons_rest {c d : Char} {t : Option Terminal} {below rest : Edges} {q : List Char}
    {x : Terminal} (h : rest.SplitsAt (d :: q) x) (hd : d ≠ c) :
    (Edges.cons c t below rest).SplitsAt (d :: q) x := by
  obtain ⟨⟨n, hn, hx⟩, hforks⟩ := h
  refine ⟨⟨n, ?_, hx⟩, fun r e r' he hr => ?_⟩
  · rwa [Node.descend_cons_edges, if_neg hd]
  · have h := hforks r e r' he hr
    cases r with
    | nil => contradiction
    | cons f r =>
      obtain ⟨rfl, -⟩ := List.cons.inj he
      rwa [Node.forksAt_cons_edges, if_neg hd]

/-- **Every value is compared at the first node at which it is left alone**, or at its own node. -/
theorem Sound.splitsAt_of_mem_comparisons {p : List Char} {es : Edges} (hs : es.Sound p)
    {q : List Char} {x : Terminal} (h : (q, x) ∈ es.comparisons p) :
    ∃ c ∈ es.labels, ∃ r, q = p ++ c :: r ∧ es.SplitsAt (c :: r) x := by
  induction es generalizing p with
  | nil => simp [comparisons] at h
  | cons c t below rest ihb ihr =>
    obtain ⟨-, -, hc, hb, hr⟩ := hs
    have hlabel : c ∈ (cons c t below rest).labels := List.mem_cons_self ..
    rw [comparisons] at h
    rcases List.mem_append.1 h with h | h
    · cases ho : below.only? t with
      | some k =>
        rw [ho] at h
        obtain ⟨rfl, rfl⟩ := Prod.mk.inj (List.mem_singleton.1 h)
        exact ⟨c, hlabel, [], rfl, splitsAt_singleton (.inl ho)⟩
      | none =>
        rw [ho] at h
        rcases List.mem_append.1 h with h | h
        · obtain ⟨d, -, r, rfl, hsplit⟩ := ihb hb h
          exact ⟨c, hlabel, d :: r, by simp, hsplit.cons (by simp) ho⟩
        · obtain ⟨y, hy, he⟩ := List.mem_map.1 h
          obtain ⟨rfl, rfl⟩ := Prod.mk.inj he
          exact ⟨c, hlabel, [], rfl, splitsAt_singleton (.inr (by simpa using hy))⟩
    · obtain ⟨d, hd, r, rfl, hsplit⟩ := ihr hr h
      have hne : d ≠ c := fun he => hc (he ▸ hd)
      exact ⟨d, List.mem_cons_of_mem c hd, r, rfl, hsplit.cons_rest hne⟩

end Edges

/-! ## Tries of lists -/

namespace Trie

variable {entries : List (String × String)}

theorem find_ofList (q : List Char) : (ofList entries).find (String.ofList q) =
    Node.descend q ⟨none, (ofList entries).edges⟩ := by
  rw [find, String.toList_ofList]
  rfl

/-- A path leads to a fork if it has two completions. -/
theorem forksAt_ofList_iff {q : List Char} (hq : q ≠ []) :
    Node.ForksAt ⟨none, (ofList entries).edges⟩ q ↔ ∃ v w, v ≠ w ∧
      Completes entries (String.ofList q) v ∧ Completes entries (String.ofList q) w := by
  have hpath : String.ofList q ≠ "" := by simpa using hq
  constructor
  · rintro ⟨n, hn, hnone⟩
    rw [← find_ofList] at hn
    obtain ⟨value, hvalue⟩ := exists_completes_of_find hn hpath
    exact (not_completes_of_only? hn hnone).resolve_left fun hno => hno value hvalue
  · rintro ⟨v, w, hne, hv, hw⟩
    obtain ⟨n, hn⟩ := hv.exists_node
    refine ⟨n, ?_, (only?_eq_none_iff hn).2 (.inr ⟨v, w, hne, hv, hw⟩)⟩
    rwa [← find_ofList]

theorem mem_forks_ofList_iff {q : List Char} {n : Node} :
    (q, n) ∈ (ofList entries).edges.forks [] ↔
      q ≠ [] ∧ (ofList entries).find (String.ofList q) = some n ∧ n.only? = none := by
  cases q with
  | nil => simpa using Edges.not_mem_forks_self [] (ofList entries).edges n
  | cons c q =>
    rw [find_ofList, ← (sound_ofList entries).mem_forks_iff, List.nil_append]
    simp

/-- A value of a trie is compared after a beginning that no other value has, or after all its
    characters. -/
theorem completes_of_splitsAt {q : List Char} {x : Terminal}
    (h : (ofList entries).edges.SplitsAt q x) : q <+: x.value.toList ∧
      ((∀ value, Completes entries (String.ofList q) value → value = x.value) ∨
        q = x.value.toList) := by
  obtain ⟨n, hn, hx⟩ := h.node
  rw [← find_ofList] at hn
  rcases hx with hx | hx
  · have honly := (completes_iff_of_only? hn hx).1
    have hself := (honly x.value).2 rfl
    refine ⟨?_, .inl fun value hv => (honly value).1 hv⟩
    simpa using hself.2.1
  · have hvalue := (sound_of_find hn).2 x hx
    rw [String.toList_ofList] at hvalue
    exact ⟨hvalue ▸ List.prefix_rfl, .inr hvalue.symm⟩

end Trie

end ScannerDispatch
