import ScannerDispatch.Proofs.Trie.Paths

/-!
The order of the values of a trie.

* `Precedes rank u v`: the text `u` goes on where `v` ends, or the two part and `u` takes the way of
  lower rank.  No two texts precede one another (`Precedes.asymm`).
* `Edges.Sound.pairwise_terminals`: where branches stand in order of rank, values stand in the order
  of `Precedes`.
* `Trie.mem_terminals_ofList_iff` and `Trie.pairwise_terminals_ofList`: the values of a trie of entries
  are those of the entries, each with its last token, and a way has the rank of the first entry that
  takes it.
-/

namespace ScannerDispatch

/-! ## Precedence -/

/-- The text `u` comes before `v` where ways have the given ranks. -/
inductive Precedes (rank : List Char → Nat) (u v : List Char) : Prop where
  /-- `u` is longer than `v`, which it begins with. -/
  | longer (hp : v <+: u) (hne : v ≠ u)
  /-- The texts part after `p`, and the way of `u` has the lower rank. -/
  | parted (p : List Char) (a b : Char) (hu : p ++ [a] <+: u) (hv : p ++ [b] <+: v)
    (hlt : rank (p ++ [a]) < rank (p ++ [b]))

section
variable {rank : List Char → Nat} {u v : List Char}

theorem eq_of_branches {p cs : List Char} {a b : Char} (ha : p ++ [a] <+: cs)
    (hb : p ++ [b] <+: cs) : a = b := by
  have hlen : (p ++ [a]).length = (p ++ [b]).length := by simp
  have heq := (List.prefix_of_prefix_length_le ha hb hlen.le).eq_of_length hlen
  simpa using List.append_cancel_left heq

/-- Two texts part only once. -/
theorem eq_of_parted {p q : List Char} {a b c d : Char} (hab : a ≠ b) (hcd : c ≠ d)
    (ha : p ++ [a] <+: u) (hb : p ++ [b] <+: v) (hc : q ++ [c] <+: u) (hd : q ++ [d] <+: v) :
    p = q ∧ a = c ∧ b = d := by
  -- a text that parts later still goes the same way at the earlier parting
  have hle : ∀ {p q : List Char} {a b c d : Char}, a ≠ b → p ++ [a] <+: u → p ++ [b] <+: v →
      q ++ [c] <+: u → q ++ [d] <+: v → q.length ≤ p.length := by
    intro p q a b c d hab ha hb hc hd
    by_contra hlt
    have hlen : ∀ x : Char, (p ++ [x]).length ≤ q.length := fun x => by simp; omega
    have hpa := List.prefix_of_prefix_length_le ha ((List.prefix_append q [c]).trans hc) (hlen a)
    have hpb := List.prefix_of_prefix_length_le hb ((List.prefix_append q [d]).trans hd) (hlen b)
    exact hab (eq_of_branches hpa hpb)
  have hlen : p.length = q.length :=
    Nat.le_antisymm (hle hcd hc hd ha hb) (hle hab ha hb hc hd)
  have hpq : p = q := (List.prefix_of_prefix_length_le ((List.prefix_append p [a]).trans ha)
    ((List.prefix_append q [c]).trans hc) hlen.le).eq_of_length hlen
  subst hpq
  exact ⟨rfl, eq_of_branches ha hc, eq_of_branches hb hd⟩

namespace Precedes

/-- Where texts part, neither begins with the other. -/
theorem not_prefix_of_parted {p : List Char} {a b : Char} (hab : a ≠ b) (hu : p ++ [a] <+: u)
    (hv : p ++ [b] <+: v) : ¬ u <+: v :=
  fun h => hab (eq_of_branches (hu.trans h) hv)

/-- No two texts come before one another. -/
theorem asymm (h : Precedes rank u v) : ¬ Precedes rank v u := by
  have hne : ∀ {p : List Char} {a b : Char}, rank (p ++ [a]) < rank (p ++ [b]) → a ≠ b := by
    rintro p a b hlt rfl
    exact Nat.lt_irrefl _ hlt
  intro h'
  cases h with
  | longer hp hpne =>
    cases h' with
    | longer hp' _ => exact hpne (hp.eq_of_length_le hp'.length_le)
    | parted p a b hv hu hlt => exact not_prefix_of_parted (hne hlt) hv hu hp
  | parted p a b hu hv hlt =>
    cases h' with
    | longer hp' _ => exact not_prefix_of_parted (hne hlt) hu hv hp'
    | parted q c d hv' hu' hlt' =>
      obtain ⟨rfl, rfl, rfl⟩ := eq_of_parted (hne hlt) (hne hlt').symm hu hv hu' hv'
      exact Nat.lt_asymm hlt hlt'

/-- Texts of the same length part somewhere. -/
theorem exists_take (h : Precedes rank u v) (hlen : u.length = v.length) :
    ∃ n < u.length, u.take n = v.take n ∧ rank (u.take (n + 1)) < rank (v.take (n + 1)) := by
  cases h with
  | longer hp hne => exact absurd (hp.eq_of_length hlen.symm) hne
  | parted p a b hu hv hlt =>
    have htake {c : Char} {w : List Char} (hw : p ++ [c] <+: w) :
        w.take p.length = p ∧ w.take (p.length + 1) = p ++ [c] := by
      refine ⟨(List.prefix_iff_eq_take.1 ((List.prefix_append p [c]).trans hw)).symm, ?_⟩
      simpa using (List.prefix_iff_eq_take.1 hw).symm
    have hle : p.length + 1 ≤ u.length := by simpa using hu.length_le
    refine ⟨p.length, hle, ?_, ?_⟩
    · rw [(htake hu).1, (htake hv).1]
    · rwa [(htake hu).2, (htake hv).2]

end Precedes

end

/-- In a list that is ordered one way only, one member stands before another if it comes before it. -/
theorem idxOf_lt_idxOf_iff {α : Type} [DecidableEq α] {before : α → α → Prop} {l : List α}
    (hl : l.Pairwise before) (hasymm : ∀ {x y}, before x y → ¬ before y x) {x y : α} (hx : x ∈ l)
    (hy : y ∈ l) : l.idxOf x < l.idxOf y ↔ before x y := by
  have hlt : ∀ {x y}, x ∈ l → y ∈ l → l.idxOf x < l.idxOf y → before x y := by
    intro x y hx hy h
    have hb := List.pairwise_iff_getElem.1 hl _ _ (List.idxOf_lt_length_of_mem hx)
      (List.idxOf_lt_length_of_mem hy) h
    rwa [List.getElem_idxOf, List.getElem_idxOf] at hb
  refine ⟨hlt hx hy, fun hb => ?_⟩
  rcases Nat.lt_trichotomy (l.idxOf x) (l.idxOf y) with h | h | h
  · exact h
  · obtain rfl := (List.idxOf_inj hx).1 h
    exact absurd hb (hasymm hb)
  · exact absurd (hlt hy hx h) (hasymm hb)

/-! ## Branches in order of rank -/

namespace Edges

theorem labelsAt_eq_nil {es : Edges} {c : Char} (h : c ∉ es.labels) (path : List Char) :
    es.labelsAt (c :: path) = [] := by
  have hc : es.child? c = none := by
    rw [← Option.not_isSome_iff_eq_none]
    exact fun hsome => h ((isSome_child? c es).1 hsome)
  rw [labelsAt, Node.descend]
  simp [hc]

/-- The branches at every node below the path `p` stand in order of rank. -/
def Ranked (rank : List Char → Nat) (p : List Char) (es : Edges) : Prop :=
  ∀ path, (es.labelsAt path).Pairwise fun c d => rank (p ++ path ++ [c]) < rank (p ++ path ++ [d])

theorem Ranked.below {rank : List Char → Nat} {p : List Char} {c : Char} {t : Option Terminal}
    {below rest : Edges} (h : (cons c t below rest).Ranked rank p) :
    below.Ranked rank (p ++ [c]) := by
  intro path
  have hpath := h (c :: path)
  rw [labelsAt_cons, if_pos rfl] at hpath
  simpa using hpath

theorem Ranked.rest {rank : List Char → Nat} {p : List Char} {c : Char} {t : Option Terminal}
    {below rest : Edges} (h : (cons c t below rest).Ranked rank p) (hc : c ∉ rest.labels) :
    rest.Ranked rank p := by
  intro path
  cases path with
  | nil => exact (List.pairwise_cons.1 (h [])).2
  | cons d path =>
    by_cases hd : d = c
    · rw [hd, labelsAt_eq_nil hc]
      exact List.Pairwise.nil
    · have hpath := h (d :: path)
      rwa [labelsAt_cons, if_neg hd] at hpath

/-- **Where branches stand in order of rank, values precede those that stand after them.** -/
theorem Sound.pairwise_terminals {rank : List Char → Nat} {p : List Char} {es : Edges}
    (hs : es.Sound p) (hr : es.Ranked rank p) :
    es.terminals.Pairwise fun x y => Precedes rank x.value.toList y.value.toList := by
  induction es generalizing p with
  | nil => exact List.Pairwise.nil
  | cons c t below rest ihb ihr =>
    have hself : Sound p (cons c t below nil) := ⟨hs.1, hs.2.1, by simp, hs.2.2.2.1, trivial⟩
    obtain ⟨ht, -, hc, hb, hrest⟩ := hs
    rw [terminals]
    refine List.pairwise_append.2 ⟨List.pairwise_append.2 ⟨ihb hb hr.below, ?_, ?_⟩,
      ihr hrest (hr.rest hc), ?_⟩
    · cases t <;> simp
    · -- a value below goes on after the own one
      intro x hx y hy
      obtain ⟨d, -, q, hq⟩ := hb.exists_label_of_mem_terminals hx
      have hy := ht y (by simpa using hy)
      refine .longer ⟨d :: q, by rw [hq, hy]⟩ fun he => ?_
      rw [hq, hy] at he
      exact List.cons_ne_nil d q (List.self_eq_append_right.1 he)
    · -- a value of a later branch parts from those of this one after `p`
      intro x hx y hy
      have hx : x ∈ (cons c t below nil).terminals := by simpa [terminals] using hx
      obtain ⟨d, hd, q, hq⟩ := hself.exists_label_of_mem_terminals hx
      obtain ⟨e, he, q', hq'⟩ := hrest.exists_label_of_mem_terminals hy
      obtain rfl : d = c := List.mem_singleton.1 hd
      have hlt := (List.pairwise_cons.1 (hr [])).1 e he
      rw [List.append_nil] at hlt
      exact .parted p d e ⟨q, by simp [hq]⟩ ⟨q', by simp [hq']⟩ hlt

end Edges

/-! ## Tries of lists -/

namespace Trie

variable {entries : List (String × String)}

/-- The values of a trie are the values that were inserted, each with its last token. -/
theorem mem_terminals_ofList_iff {x : Terminal} : x ∈ (ofList entries).edges.terminals ↔
    x.value ≠ "" ∧ lastToken? entries x.value = some x.token := by
  have hs : (ofList entries).edges.Sound [] := sound_ofList entries
  have hmem : ∀ {y : Terminal}, y.value ≠ "" → lastToken? entries y.value = some y.token →
      y ∈ (ofList entries).edges.terminals := by
    intro y hne hy
    have hv : (ofList entries).edges.valueAt y.value.toList = some y := by
      rw [valueAt_ofList entries hne, hy]
      rfl
    exact Edges.mem_terminals_of_valueAt hv
  refine ⟨fun hx => ?_, fun h => hmem h.1 h.2⟩
  obtain ⟨c, -, q, hq⟩ := hs.exists_label_of_mem_terminals hx
  have hne : x.value ≠ "" := by
    intro he
    rw [he] at hq
    exact List.cons_ne_nil c q hq.symm
  refine ⟨hne, ?_⟩
  -- no other value with these characters is in the trie
  cases ht : lastToken? entries x.value with
  | none => exact absurd rfl (lastToken?_eq_none_iff.1 ht _ (mem_of_mem_terminals hx))
  | some token =>
    have hy : Terminal.mk x.value token ∈ (ofList entries).edges.terminals := hmem hne ht
    have heq := List.inj_on_of_nodup_map hs.nodup_terminals hx hy rfl
    rw [heq]

/-- **The values of a trie stand in the order in which values first went their ways**, those that go on
    before those that end. -/
theorem pairwise_terminals_ofList (entries : List (String × String)) :
    (ofList entries).edges.terminals.Pairwise fun x y =>
      Precedes (firstWith entries) x.value.toList y.value.toList :=
  (sound_ofList entries).pairwise_terminals (pairwise_labelsAt_ofList entries)

end Trie

end ScannerDispatch
