import ScannerDispatch.Trie

/-!
The values of a trie, and what every insertion keeps true of its branches.

* `Edges.valueAt` is the value at the end of a path; `valueAt_insert` says how an insertion changes
  it, and `Trie.valueAt_ofList` that the last insertion of a value counts.
* `Edges.terminals` are all values in the order in which they are left.
* `Edges.Sound` is the invariant: a value stands at the end of its own characters, branches of one
  node have different labels, and every branch ends in a value.
* `valueFrom_of_only?`: the only value at or below a node, if it is found, is all there is.
-/

namespace ScannerDispatch

namespace Edges

/-! ## Values along paths -/

/-- The value at the end of a path. -/
def valueAt (es : Edges) (path : List Char) : Option Terminal :=
  (Node.descend path ⟨none, es⟩).bind Node.terminal

/-- The value at the end of a path below a node with the value `own`. -/
def valueFrom (own : Option Terminal) (es : Edges) (path : List Char) : Option Terminal :=
  if path = [] then own else es.valueAt path

@[simp] theorem valueAt_nil (es : Edges) : es.valueAt [] = none := rfl

@[simp] theorem nil_valueAt (path : List Char) : nil.valueAt path = none := by
  cases path <;> rfl

theorem valueAt_cons (d : Char) (t : Option Terminal) (below rest : Edges) (c : Char)
    (path : List Char) : (cons d t below rest).valueAt (c :: path) =
      if c = d then valueFrom t below path else rest.valueAt (c :: path) := by
  by_cases h : c = d
  · cases path <;> simp [valueAt, valueFrom, Node.descend, child?, h]
  · simp [valueAt, Node.descend, child?, h]

theorem valueAt_cons_path (es : Edges) (c : Char) (path : List Char) :
    es.valueAt (c :: path) = (es.child? c).bind fun n => valueFrom n.terminal n.edges path := by
  cases path with
  | nil => cases h : es.child? c <;> simp [valueAt, valueFrom, Node.descend, h]
  | cons d path => cases h : es.child? c <;> simp [valueAt, valueFrom, Node.descend, h]

theorem valueAt_spine (x : Terminal) {path : List Char} (h : path ≠ []) (q : List Char) :
    (spine x path).valueAt q = if q = path then some x else none := by
  induction path generalizing q with
  | nil => contradiction
  | cons c path ih =>
    cases q with
    | nil => simp
    | cons d q =>
      rw [spine, valueAt_cons, nil_valueAt]
      by_cases hd : d = c
      · cases path with
        | nil => cases q <;> simp [hd, valueFrom, spine]
        | cons e path => cases q <;> simp [hd, valueFrom, ih]
      · simp [hd]

/-- **An insertion changes the value at the end of its path and no other one.** -/
theorem valueAt_insert (x : Terminal) (es : Edges) {path : List Char} (h : path ≠ [])
    (q : List Char) : (es.insert x path).valueAt q = if q = path then some x else es.valueAt q := by
  induction es generalizing path q with
  | nil =>
    cases path with
    | nil => contradiction
    | cons c path => simp [insert, valueAt_spine x h]
  | cons d t below rest ihb ihr =>
    cases path with
    | nil => contradiction
    | cons c path =>
      cases q with
      | nil => simp
      | cons e q =>
        by_cases hc : c = d
        · subst hc
          rw [insert, if_pos rfl, valueAt_cons, valueAt_cons]
          by_cases he : e = c
          · cases path with
            | nil => cases q <;> simp [he, valueFrom]
            | cons f path => cases q <;> simp [he, valueFrom, ihb]
          · simp [he]
        · rw [insert, if_neg hc, valueAt_cons, valueAt_cons, ihr h]
          by_cases he : e = d
          · subst he; simp [Ne.symm hc]
          · simp [he]

/-! ## The invariant -/

/-- The labels of the branches, in order. -/
def labels (es : Edges) : List Char :=
  es.toList.map Prod.fst

@[simp] theorem labels_nil : nil.labels = [] := rfl

@[simp] theorem labels_cons (c : Char) (t : Option Terminal) (below rest : Edges) :
    (cons c t below rest).labels = c :: rest.labels := rfl

/-- Branches below the path `p`: values stand at the end of their characters, every branch ends in a
    value, and no label stands twice. -/
def Sound (p : List Char) : Edges → Prop
  | nil => True
  | cons c t below rest =>
    (∀ x ∈ t, x.value.toList = p ++ [c]) ∧ (below = nil → t ≠ none) ∧ c ∉ rest.labels ∧
      Sound (p ++ [c]) below ∧ Sound p rest

theorem insert_ne_nil (x : Terminal) (es : Edges) {path : List Char} (h : path ≠ []) :
    es.insert x path ≠ nil := by
  cases path with
  | nil => contradiction
  | cons c path => cases es <;> simp only [insert, spine] <;> split <;> simp

theorem labels_insert (x : Terminal) (es : Edges) (c : Char) (path : List Char) :
    (es.insert x (c :: path)).labels = if c ∈ es.labels then es.labels else es.labels ++ [c] := by
  induction es with
  | nil => simp [insert, spine]
  | cons d t below rest _ ih =>
    by_cases h : c = d
    · simp [insert, h]
    · by_cases hm : c ∈ rest.labels <;> simp_all [insert]

theorem sound_spine {x : Terminal} {p path : List Char} (hx : x.value.toList = p ++ path) :
    Sound p (spine x path) := by
  induction path generalizing p with
  | nil => trivial
  | cons c path ih =>
    refine ⟨?_, ?_, by simp, ih (by simpa using hx), trivial⟩
    · cases path <;> simp [hx]
    · cases path <;> simp [spine]

/-- Every insertion keeps the invariant. -/
theorem Sound.insert {x : Terminal} {es : Edges} {p path : List Char} (h : Sound p es)
    (hx : x.value.toList = p ++ path) : Sound p (es.insert x path) := by
  induction es generalizing p path with
  | nil =>
    cases path with
    | nil => simpa using h
    | cons c path => exact sound_spine hx
  | cons d t below rest ihb ihr =>
    cases path with
    | nil => simpa using h
    | cons c path =>
      obtain ⟨ht, hl, hd, hb, hr⟩ := h
      by_cases hc : c = d
      · subst hc
        rw [Edges.insert, if_pos rfl]
        refine ⟨?_, ?_, hd, ihb hb (by simpa using hx), hr⟩
        · cases path with
          | nil => simp [hx]
          | cons e path => simpa using ht
        · cases path with
          | nil => simp
          | cons e path => exact fun he => absurd he (insert_ne_nil x below (by simp))
      · rw [Edges.insert, if_neg hc]
        refine ⟨ht, hl, ?_, hb, ihr hr hx⟩
        rw [labels_insert]
        split
        · exact hd
        · simp [hd, Ne.symm hc]

/-! ## All values -/

/-- All values, those below a node before its own. -/
def terminals : Edges → List Terminal
  | nil => []
  | cons _ t below rest => below.terminals ++ t.toList ++ rest.terminals

theorem mem_terminals_spine {x y : Terminal} {path : List Char}
    (h : y ∈ (spine x path).terminals) : y = x := by
  induction path with
  | nil => simp [spine, terminals] at h
  | cons c path ih =>
    cases path with
    | nil => simpa [spine, terminals] using h
    | cons d path => exact ih (by simpa [spine, terminals] using h)

theorem mem_terminals_insert {x y : Terminal} {es : Edges} {path : List Char}
    (h : y ∈ (es.insert x path).terminals) : y = x ∨ y ∈ es.terminals := by
  induction es generalizing path with
  | nil =>
    cases path with
    | nil => simp [terminals] at h
    | cons c path => exact .inl (mem_terminals_spine h)
  | cons d t below rest ihb ihr =>
    cases path with
    | nil => exact .inr (by simpa using h)
    | cons c path =>
      by_cases hc : c = d
      · rw [Edges.insert, if_pos hc] at h
        simp only [terminals, List.mem_append] at h ⊢
        rcases h with (h | h) | h
        · rcases ihb h with h | h
          · exact .inl h
          · exact .inr (.inl (.inl h))
        · by_cases hp : path = []
          · simp [hp] at h; exact .inl h
          · exact .inr (.inl (.inr (by simpa [hp] using h)))
        · exact .inr (.inr h)
      · rw [Edges.insert, if_neg hc] at h
        simp only [terminals, List.mem_append] at h ⊢
        rcases h with h | h
        · exact .inr (.inl h)
        · rcases ihr h with h | h
          · exact .inl h
          · exact .inr (.inr h)

/-- Every branch is sound for itself, and its values are values of the whole. -/
theorem Sound.of_mem_toList {p : List Char} {es : Edges} (h : Sound p es) {c : Char} {node : Node}
    (hm : (c, node) ∈ es.toList) : Sound p (cons c node.terminal node.edges nil) ∧
      ∀ x ∈ node.edges.terminals ++ node.terminal.toList, x ∈ es.terminals := by
  induction es with
  | nil => simp at hm
  | cons d t below rest _ ih =>
    obtain ⟨ht, hl, -, hb, hr⟩ := h
    rcases List.mem_cons.1 hm with he | hm
    · cases he
      exact ⟨⟨ht, hl, by simp, hb, trivial⟩, fun x hx => List.mem_append_left _ hx⟩
    · obtain ⟨hs, hx⟩ := ih hr hm
      exact ⟨hs, fun x h => List.mem_append_right _ (hx x h)⟩

/-- Every value goes on with a label after the characters that lead to its branch. -/
theorem Sound.exists_label_of_mem_terminals {p : List Char} {es : Edges} (h : Sound p es)
    {x : Terminal} (hx : x ∈ es.terminals) :
    ∃ c ∈ es.labels, ∃ q, x.value.toList = p ++ c :: q := by
  induction es generalizing p with
  | nil => simp [terminals] at hx
  | cons c t below rest ihb ihr =>
    obtain ⟨ht, -, -, hb, hr⟩ := h
    rw [terminals, List.append_assoc] at hx
    rcases List.mem_append.1 hx with hx | hx
    · obtain ⟨d, -, q, hq⟩ := ihb hb hx
      exact ⟨c, List.mem_cons_self .., d :: q, by simp [hq]⟩
    · rcases List.mem_append.1 hx with hx | hx
      · exact ⟨c, List.mem_cons_self .., [], ht x (by simpa using hx)⟩
      · obtain ⟨d, hd, q, hq⟩ := ihr hr hx
        exact ⟨d, List.mem_cons_of_mem c hd, q, hq⟩

/-- No value stands twice. -/
theorem Sound.nodup_terminals {p : List Char} {es : Edges} (h : Sound p es) :
    (es.terminals.map Terminal.value).Nodup := by
  induction es generalizing p with
  | nil => exact List.nodup_nil
  | cons c t below rest ihb ihr =>
    obtain ⟨ht, hl, hc, hb, hr⟩ := h
    have hown : (t.toList.map Terminal.value).Nodup := by cases t <;> simp
    rw [terminals, List.map_append, List.map_append]
    refine List.nodup_append.2 ⟨List.nodup_append.2 ⟨ihb hb, hown, ?_⟩, ihr hr, ?_⟩
    · -- the values below go on after the own value
      rintro _ hv _ hw rfl
      obtain ⟨x, hx, rfl⟩ := List.mem_map.1 hv
      obtain ⟨y, hy, he⟩ := List.mem_map.1 hw
      obtain ⟨d, -, q, hq⟩ := hb.exists_label_of_mem_terminals hx
      rw [← he, ht y (by simpa using hy)] at hq
      exact List.cons_ne_nil d q (List.self_eq_append_right.1 hq)
    · -- the values of later branches go on with other labels
      rintro _ hv _ hw rfl
      rw [← List.map_append] at hv
      obtain ⟨x, hx, rfl⟩ := List.mem_map.1 hv
      obtain ⟨y, hy, he⟩ := List.mem_map.1 hw
      have hself : x ∈ (cons c t below nil).terminals := List.mem_append_left _ hx
      have hs : Sound p (cons c t below nil) := ⟨ht, hl, by simp, hb, trivial⟩
      obtain ⟨d, hd, q, hq⟩ := hs.exists_label_of_mem_terminals hself
      obtain ⟨e, hd', r, hr⟩ := hr.exists_label_of_mem_terminals hy
      rw [he, hq] at hr
      obtain ⟨rfl, -⟩ := List.cons.inj (List.append_cancel_left hr)
      obtain rfl : d = c := List.mem_singleton.1 hd
      exact hc hd'

/-- The value at the end of a path is one of all values. -/
theorem mem_terminals_of_valueAt {es : Edges} {path : List Char} {x : Terminal}
    (h : es.valueAt path = some x) : x ∈ es.terminals := by
  induction es generalizing path with
  | nil => simp at h
  | cons c t below rest ihb ihr =>
    cases path with
    | nil => simp at h
    | cons d path =>
      rw [valueAt_cons] at h
      rw [terminals, List.mem_append, List.mem_append]
      split at h
      · rw [valueFrom] at h
        split at h
        · exact .inl (.inr (by simp [h]))
        · exact .inl (.inl (ihb h))
      · exact .inr (ihr h)

/-- Some value begins with the characters that lead to a node. -/
theorem Sound.exists_terminal {p : List Char} {c : Char} {t : Option Terminal}
    {below rest : Edges} (h : Sound p (cons c t below rest)) :
    ∃ x ∈ below.terminals ++ t.toList, p ++ [c] <+: x.value.toList := by
  induction below generalizing p c t rest with
  | nil =>
    obtain ⟨x, hx⟩ := Option.ne_none_iff_exists'.1 (h.2.1 rfl)
    exact ⟨x, by simp [hx], by simp [h.1 x hx]⟩
  | cons d u below rest' ihb _ =>
    obtain ⟨-, -, -, hb, -⟩ := h
    obtain ⟨x, hx, hp⟩ := ihb hb
    refine ⟨x, ?_, (List.prefix_append _ [d]).trans hp⟩
    simp only [terminals, List.mem_append] at hx ⊢
    exact .inl (.inl hx)

/-- Where all values are short, the paths to the branches are. -/
theorem Sound.length_lt {p : List Char} {c : Char} {t : Option Terminal} {below rest : Edges}
    {n : Nat} (h : Sound p (cons c t below rest))
    (hl : ∀ x ∈ below.terminals ++ t.toList, x.value.length < n) : p.length + 1 < n := by
  obtain ⟨x, hx, hp⟩ := h.exists_terminal
  have hle := hp.length_le
  rw [String.length_toList, List.length_append, List.length_singleton] at hle
  exact Nat.lt_of_le_of_lt hle (hl x hx)

/-! ## The only value -/

theorem terminals_of_only? {own : Option Terminal} {es : Edges} {k : Terminal}
    (h : es.only? own = some k) : es.terminals ++ own.toList = [k] := by
  induction es generalizing own with
  | nil => simp [only?] at h; simp [terminals, h]
  | cons c t below rest ihb _ =>
    cases own with
    | some x => simp [only?] at h
    | none =>
      cases rest with
      | nil => simpa [terminals] using ihb h
      | cons => simp [only?] at h

theorem mem_terminals_of_only? {own : Option Terminal} {es : Edges} {k : Terminal}
    (h : es.only? own = some k) : k ∈ es.terminals ++ own.toList := by
  rw [terminals_of_only? h]
  exact List.mem_singleton_self k

/-- **The only value at or below a node stands at the end of its own characters**, and nowhere else is
    there a value. -/
theorem valueFrom_of_only? {own : Option Terminal} {es : Edges} {p : List Char} {k : Terminal}
    (h : es.only? own = some k) (ho : ∀ x ∈ own, x.value.toList = p) (hs : Sound p es) :
    p <+: k.value.toList ∧
      ∀ q, valueFrom own es q = if q = k.value.toList.drop p.length then some k else none := by
  induction es generalizing own p with
  | nil =>
    have hk : own = some k := h
    have hv := ho k hk
    refine ⟨⟨[], by simp [hv]⟩, ?_⟩
    intro q
    cases q <;> simp [valueFrom, hk, hv]
  | cons c t below rest ihb _ =>
    cases own with
    | some x => simp [only?] at h
    | none =>
      cases rest with
      | cons => simp [only?] at h
      | nil =>
        obtain ⟨ht, -, -, hb, -⟩ := hs
        obtain ⟨⟨tail, hp⟩, hq⟩ := ihb h ht hb
        have hd : k.value.toList.drop p.length = c :: k.value.toList.drop (p ++ [c]).length := by
          simp [← hp]
        refine ⟨⟨c :: tail, by simp [← hp]⟩, ?_⟩
        intro q
        rw [hd]
        cases q with
        | nil => simp [valueFrom]
        | cons d q =>
          rw [valueFrom, if_neg (by simp), valueAt_cons, nil_valueAt, hq q]
          by_cases he : d = c <;> simp [he]

/-- Without a single value, a node with sound branches has children. -/
theorem Sound.ne_nil_of_only?_eq_none {p : List Char} {c : Char} {t : Option Terminal}
    {below rest : Edges} (h : Sound p (cons c t below rest)) (hn : below.only? t = none) :
    below ≠ nil := by
  rintro rfl
  exact h.2.1 rfl hn

end Edges

/-! ## Tries of lists -/

/-- The token that was given last to a value. -/
def lastToken? (entries : List (String × String)) (value : String) : Option String :=
  (entries.filter (·.1 = value)).getLast?.map Prod.snd

theorem lastToken?_cons (e : String × String) (entries : List (String × String)) (value : String) :
    lastToken? (e :: entries) value =
      (lastToken? entries value).or (if e.1 = value then some e.2 else none) := by
  by_cases h : e.1 = value
  · simp only [lastToken?, List.filter_cons, h, decide_true, if_true, List.getLast?_cons]
    cases (entries.filter (·.1 = value)).getLast? <;> rfl
  · simp [lastToken?, h]

theorem lastToken?_eq_none_iff {entries : List (String × String)} {value : String} :
    lastToken? entries value = none ↔ ∀ e ∈ entries, e.1 ≠ value := by
  simp [lastToken?]

theorem lastToken?_map_self (keywords : List String) (value : String) :
    lastToken? (keywords.map fun k => (k, k)) value =
      if value ∈ keywords then some value else none := by
  induction keywords with
  | nil => rfl
  | cons k keywords ih =>
    rw [List.map_cons, lastToken?_cons, ih]
    by_cases hk : k = value
    · subst hk; by_cases hm : k ∈ keywords <;> simp [hm]
    · by_cases hm : value ∈ keywords <;> simp [hk, hm, Ne.symm hk]

namespace Trie

theorem valueAt_insertAll (t : Trie) (entries : List (String × String)) (value : String)
    (h : value ≠ "") : (t.insertAll entries).edges.valueAt value.toList =
      ((lastToken? entries value).map (⟨value, ·⟩)).or (t.edges.valueAt value.toList) := by
  induction entries generalizing t with
  | nil => simp [insertAll, lastToken?]
  | cons e entries ih =>
    rw [show t.insertAll (e :: entries) = (t.insert e.1 e.2).insertAll entries from rfl, ih,
      lastToken?_cons]
    cases lastToken? entries value with
    | some token => simp
    | none =>
      by_cases he : e.1 = ""
      · simp [he, Ne.symm h]
      · rw [insert, Edges.valueAt_insert _ _ (by simpa using he)]
        simp only [String.toList_inj]
        by_cases hv : value = e.1
        · simp [hv]
        · simp [hv, Ne.symm hv]

/-- **The last insertion of a value counts**, and there are no other values. -/
theorem valueAt_ofList (entries : List (String × String)) {value : String} (h : value ≠ "") :
    (ofList entries).edges.valueAt value.toList =
      (lastToken? entries value).map (⟨value, ·⟩) := by
  rw [ofList, valueAt_insertAll _ _ _ h]
  simp [empty]

theorem sound_ofList (entries : List (String × String)) : (ofList entries).edges.Sound [] := by
  suffices h : ∀ t : Trie, t.edges.Sound [] → (t.insertAll entries).edges.Sound [] from
    h empty trivial
  induction entries with
  | nil => exact fun t h => h
  | cons e entries ih => exact fun t h => ih _ (h.insert rfl)

/-- Every value of a trie was inserted with its token. -/
theorem mem_of_mem_terminals {entries : List (String × String)} {x : Terminal}
    (h : x ∈ (ofList entries).edges.terminals) : (x.value, x.token) ∈ entries := by
  suffices h : ∀ t : Trie, x ∈ (t.insertAll entries).edges.terminals →
      (x.value, x.token) ∈ entries ∨ x ∈ t.edges.terminals by
    rcases h empty ‹_› with h | h
    · exact h
    · simp [empty, Edges.terminals] at h
  clear h
  induction entries with
  | nil => exact fun t h => .inr h
  | cons e entries ih =>
    intro t h
    rcases ih (t.insert e.1 e.2) h with h | h
    · exact .inl (List.mem_cons_of_mem e h)
    · rcases Edges.mem_terminals_insert h with h | h
      · exact .inl (by simp [h])
      · exact .inr h

end Trie

end ScannerDispatch
