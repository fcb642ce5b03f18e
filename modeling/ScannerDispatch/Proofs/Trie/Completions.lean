import ScannerDispatch.Proofs.Trie.Paths

/-!
The values that begin with a path.

* `Edges.Sound.two_values`: a node at which no only value is found has no value at or below it, or it
  has two.  Only one chain of nodes is looked at, so this rests on the invariant that every branch ends
  in a value.
* `valueFrom_of_find`: the values at and below a node of a trie are those of the trie that begin with
  the path to the node.
* `Trie.only?_of_find`: the only value that is found at a node is the only completion of its path.
-/

namespace ScannerDispatch

namespace Edges

/-! ## Values below a node -/

theorem valueFrom_eq_descend (own : Option Terminal) (es : Edges) (q : List Char) :
    valueFrom own es q = (Node.descend q ⟨own, es⟩).bind Node.terminal := by
  cases q <;> rfl

/-- A branch ends in a value. -/
theorem Sound.exists_value {p : List Char} {c : Char} {t : Option Terminal} {below rest : Edges}
    (h : Sound p (cons c t below rest)) : ∃ q, valueFrom t below q ≠ none := by
  induction below generalizing p c t rest with
  | nil => exact ⟨[], h.2.1 rfl⟩
  | cons d u below rest' ihb _ =>
    obtain ⟨q, hq⟩ := ihb h.2.2.2.1
    refine ⟨d :: q, ?_⟩
    rwa [valueFrom, if_neg (by simp), valueAt_cons, if_pos rfl]

/-- The values of a branch are those with its label in front. -/
theorem valueFrom_cons_self (own : Option Terminal) (c : Char) (t : Option Terminal)
    (below rest : Edges) (q : List Char) :
    valueFrom own (cons c t below rest) (c :: q) = valueFrom t below q := by
  rw [valueFrom, if_neg (by simp), valueAt_cons, if_pos rfl]

/-- Where no only value is found there is no value at all, or there are two. -/
theorem Sound.two_values {own : Option Terminal} {es : Edges} {p : List Char} (hs : Sound p es)
    (hn : es.only? own = none) : (own = none ∧ es = nil) ∨
      ∃ q r, q ≠ r ∧ valueFrom own es q ≠ none ∧ valueFrom own es r ≠ none := by
  induction es generalizing own p with
  | nil => exact .inl ⟨hn, rfl⟩
  | cons c t below rest ihb _ =>
    refine .inr ?_
    obtain ⟨q, hq⟩ := hs.exists_value
    rw [← valueFrom_cons_self own c t below rest] at hq
    cases own with
    | some x => exact ⟨[], c :: q, by simp, by simp [valueFrom], hq⟩
    | none =>
      cases rest with
      | cons d u below' rest' =>
        -- two branches, each with a value of its own
        have hne : c ≠ d := fun he => hs.2.2.1 (he ▸ List.mem_cons_self ..)
        obtain ⟨r, hr⟩ := Sound.exists_value hs.2.2.2.2
        refine ⟨c :: q, d :: r, by simp [hne], hq, ?_⟩
        rw [valueFrom, if_neg (by simp), valueAt_cons, if_neg (Ne.symm hne), valueAt_cons, if_pos rfl]
        exact hr
      | nil =>
        have hbelow : below.only? t = none := hn
        rcases ihb hs.2.2.2.1 hbelow with ⟨rfl, rfl⟩ | ⟨q, r, hne, hq, hr⟩
        · exact absurd rfl (hs.2.1 rfl)
        · refine ⟨c :: q, c :: r, by simp [hne], ?_, ?_⟩
          · rwa [valueFrom_cons_self]
          · rwa [valueFrom_cons_self]

/-! ## Nodes of a trie -/

theorem mem_toList_of_child? {es : Edges} {c : Char} {n : Node} (h : es.child? c = some n) :
    (c, n) ∈ es.toList := by
  rw [child?_eq_lookup] at h
  obtain ⟨xs, ys, he, -⟩ := List.lookup_eq_some_iff.1 h
  rw [he]
  exact List.mem_append_right xs (List.mem_cons_self ..)

/-- What is below a node is sound for its path, and its own value is the path. -/
theorem Sound.of_descend {own : Option Terminal} {es : Edges} {p path : List Char} {node : Node}
    (hs : Sound p es) (ho : ∀ x ∈ own, x.value.toList = p)
    (hd : Node.descend path ⟨own, es⟩ = some node) :
    Sound (p ++ path) node.edges ∧ ∀ x ∈ node.terminal, x.value.toList = p ++ path := by
  induction path generalizing own es p with
  | nil =>
    cases hd
    rw [List.append_nil]
    exact ⟨hs, ho⟩
  | cons c path ih =>
    obtain ⟨child, hc, hd⟩ := Option.bind_eq_some_iff.1 hd
    obtain ⟨⟨hown, -, -, hbelow, -⟩, -⟩ := hs.of_mem_toList (mem_toList_of_child? hc)
    have h := ih hbelow hown hd
    rwa [List.append_assoc] at h

end Edges

namespace Trie

variable {entries : List (String × String)} {path : String} {node : Node}

/-- A completion of a path is a value that begins with it.  The empty value is never one. -/
def Completes (entries : List (String × String)) (path value : String) : Prop :=
  value ≠ "" ∧ path.toList <+: value.toList ∧ ∃ e ∈ entries, e.1 = value

/-- The values at and below a node are the values that begin with its path. -/
theorem valueFrom_of_find (h : (ofList entries).find path = some node) (q : List Char) :
    node.edges.valueFrom node.terminal q = (ofList entries).edges.valueAt (path.toList ++ q) := by
  rw [Edges.valueFrom_eq_descend, Edges.valueAt, Node.descend_append]
  exact congrArg (fun n => (n.bind (Node.descend q)).bind Node.terminal) h.symm

theorem completes_iff {value : String} : Completes entries path value ↔
    ∃ q, value.toList = path.toList ++ q ∧
      (ofList entries).edges.valueAt (path.toList ++ q) ≠ none := by
  have hvalue (hne : value ≠ "") :
      (ofList entries).edges.valueAt value.toList ≠ none ↔ ∃ e ∈ entries, e.1 = value := by
    rw [valueAt_ofList entries hne, Ne, Option.map_eq_none_iff, lastToken?_eq_none_iff]
    simp
  constructor
  · rintro ⟨hne, ⟨q, hq⟩, he⟩
    refine ⟨q, hq.symm, ?_⟩
    rw [hq]
    exact (hvalue hne).2 he
  · rintro ⟨q, hq, hv⟩
    rw [← hq] at hv
    have hne : value ≠ "" := by
      rintro rfl
      exact hv rfl
    exact ⟨hne, ⟨q, hq.symm⟩, (hvalue hne).1 hv⟩

theorem completes_ofList_iff (h : (ofList entries).find path = some node) (q : List Char) :
    Completes entries path (String.ofList (path.toList ++ q)) ↔
      node.edges.valueFrom node.terminal q ≠ none := by
  rw [valueFrom_of_find h, completes_iff, String.toList_ofList]
  simp

/-- The completions of a path end at its node or below. -/
theorem Completes.exists_rest (h : (ofList entries).find path = some node) {value : String}
    (hv : Completes entries path value) : ∃ q, value = String.ofList (path.toList ++ q) ∧
      node.edges.valueFrom node.terminal q ≠ none := by
  obtain ⟨q, hq⟩ := hv.2.1
  have he : value = String.ofList (path.toList ++ q) := by rw [hq, String.ofList_toList]
  exact ⟨q, he, (completes_ofList_iff h q).1 (he ▸ hv)⟩

/-- A path with a completion leads to a node. -/
theorem Completes.exists_node {value : String} (hv : Completes entries path value) :
    ∃ node, (ofList entries).find path = some node := by
  obtain ⟨-, hp, e, he, rfl⟩ := hv
  exact Option.isSome_iff_exists.1 (contains_ofList_iff.2 (.inr ⟨e, he, hp⟩))

/-- A path to a node, other than the root, has a completion. -/
theorem exists_completes_of_find (h : (ofList entries).find path = some node) (hne : path ≠ "") :
    ∃ value, Completes entries path value := by
  have hcontains : (ofList entries).contains path = true := by
    rw [contains, h]
    rfl
  obtain ⟨e, he, hp⟩ := (contains_ofList_iff.1 hcontains).resolve_left hne
  refine ⟨e.1, fun hempty => ?_, hp, e, he, rfl⟩
  rw [hempty] at hp
  exact hne (String.toList_eq_nil_iff.1 (List.prefix_nil.1 hp))

theorem sound_of_find (h : (ofList entries).find path = some node) :
    node.edges.Sound path.toList ∧ ∀ x ∈ node.terminal, x.value.toList = path.toList :=
  (sound_ofList entries).of_descend (fun x hx => by simp at hx) h

/-! ## The only completion -/

/-- The only value that is found at a node is the only completion, with the token given last. -/
theorem completes_iff_of_only? (h : (ofList entries).find path = some node) {x : Terminal}
    (hx : node.only? = some x) : (∀ value, Completes entries path value ↔ value = x.value) ∧
      lastToken? entries x.value = some x.token := by
  obtain ⟨hs, ho⟩ := sound_of_find h
  obtain ⟨⟨q, hq⟩, hv⟩ := Edges.valueFrom_of_only? hx ho hs
  have he : x.value = String.ofList (path.toList ++ q) := by rw [hq, String.ofList_toList]
  rw [← hq, List.drop_left] at hv
  have hself : Completes entries path x.value := by
    rw [he, completes_ofList_iff h, hv, if_pos rfl]
    simp
  refine ⟨fun value => ⟨fun hc => ?_, fun hc => hc ▸ hself⟩, ?_⟩
  · obtain ⟨r, hr, hne⟩ := hc.exists_rest h
    rw [hv] at hne
    have hrq : r = q := by simpa using hne
    rw [hr, he, hrq]
  · have ht := valueAt_ofList entries hself.1
    rw [← hq, ← valueFrom_of_find h, hv, if_pos rfl] at ht
    obtain ⟨token, htoken, hx⟩ := Option.map_eq_some_iff.1 ht.symm
    rw [htoken, ← hx]

/-- Where no only value is found, there is no completion, or there are two. -/
theorem not_completes_of_only? (h : (ofList entries).find path = some node)
    (hn : node.only? = none) : (∀ value, ¬ Completes entries path value) ∨
      ∃ v w, v ≠ w ∧ Completes entries path v ∧ Completes entries path w := by
  rcases (sound_of_find h).1.two_values hn with ⟨ht, he⟩ | ⟨q, r, hne, hq, hr⟩
  · refine .inl fun value hv => ?_
    obtain ⟨q, -, hq⟩ := hv.exists_rest h
    rw [ht, he] at hq
    cases q <;> simp [Edges.valueFrom] at hq
  · refine .inr ⟨_, _, ?_, (completes_ofList_iff h q).2 hq, (completes_ofList_iff h r).2 hr⟩
    rw [Ne, String.ofList_inj, List.append_cancel_left_eq]
    exact hne

/-- A single completion is neither none nor two. -/
theorem not_none_or_two {v : String} (hv : ∀ value, Completes entries path value ↔ value = v) :
    ¬ ((∀ value, ¬ Completes entries path value) ∨
      ∃ v w, v ≠ w ∧ Completes entries path v ∧ Completes entries path w) := by
  rintro (hnone | ⟨u, w, hne, hu, hw⟩)
  · exact hnone v ((hv v).2 rfl)
  · exact hne (((hv u).1 hu).trans ((hv w).1 hw).symm)

theorem only?_eq_none_iff (h : (ofList entries).find path = some node) :
    node.only? = none ↔ (∀ value, ¬ Completes entries path value) ∨
      ∃ v w, v ≠ w ∧ Completes entries path v ∧ Completes entries path w := by
  refine ⟨not_completes_of_only? h, fun hcases => ?_⟩
  cases hn : node.only? with
  | none => rfl
  | some y => exact absurd hcases (not_none_or_two (completes_iff_of_only? h hn).1)

/-- **The only value at or below a node is the only completion of its path.**  It is found, with the
    token that was given to it last, if and only if there is exactly one completion; nothing is found
    if and only if there is none, or there are two. -/
theorem only?_of_find (entries : List (String × String)) {path : String} {node : Node}
    (h : (ofList entries).find path = some node) :
    (∀ x, node.only? = some x ↔ (∀ value, Completes entries path value ↔ value = x.value) ∧
      lastToken? entries x.value = some x.token) ∧
    (node.only? = none ↔ (∀ value, ¬ Completes entries path value) ∨
      ∃ v w, v ≠ w ∧ Completes entries path v ∧ Completes entries path w) := by
  refine ⟨fun x => ⟨completes_iff_of_only? h, ?_⟩, only?_eq_none_iff h⟩
  rintro ⟨hx, ht⟩
  cases hn : node.only? with
  | none => exact absurd (not_completes_of_only? h hn) (not_none_or_two hx)
  | some y =>
    obtain ⟨hy, hty⟩ := completes_iff_of_only? h hn
    obtain ⟨xv, xt⟩ := x
    obtain ⟨yv, yt⟩ := y
    obtain rfl : xv = yv := (hy xv).1 ((hx xv).2 rfl)
    obtain rfl : yt = xt := Option.some.inj (hty.symm.trans ht)
    rfl

theorem only?_of_find_sample :
    let entries := [("if", "IF"), ("iffy", "FIRST"), ("", "NOTHING"), ("iffy", "LAST")]
    (∃ node, (ofList entries).find "iff" = some node ∧ node.only? = some ⟨"iffy", "LAST"⟩ ∧
      ∀ value, Completes entries "iff" value ↔ value = "iffy") ∧
    ∃ node, (ofList entries).find "if" = some node ∧ node.only? = none ∧
      ∃ v w, v ≠ w ∧ Completes entries "if" v ∧ Completes entries "if" w := by
  intro entries
  have hfound (path : String) (x : Option Terminal)
      (h : ((ofList entries).find path).map Node.only? = some x) :
      ∃ node, (ofList entries).find path = some node ∧ node.only? = x :=
    Option.map_eq_some_iff.1 h
  obtain ⟨n, hn, hx⟩ := hfound "iff" (some ⟨"iffy", "LAST"⟩) (by decide +kernel)
  obtain ⟨m, hm, hnone⟩ := hfound "if" none (by decide +kernel)
  refine ⟨⟨n, hn, hx, (((only?_of_find entries hn).1 _).1 hx).1⟩, m, hm, hnone, ?_⟩
  have hself : Completes entries "if" "if" :=
    ⟨by decide, List.prefix_rfl, _, List.mem_cons_self .., rfl⟩
  exact ((only?_of_find entries hm).2.1 hnone).resolve_left fun h => h "if" hself

end Trie

end ScannerDispatch
