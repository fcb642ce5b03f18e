import Mathlib.Data.List.Dedup
import ScannerDispatch.Proofs.Trie.Forks

/-!
Keywords, the beginnings that they share, and their trie.

* `Shared` are the beginnings of several keywords; `splitPoint` is the number of characters after which
  a keyword is left alone.
* `exists_mem_forks_iff`: the forks of the trie are at the shared beginnings.
* `splitPoint_of_mem_comparisons` and `perm_comparisons`: every keyword is compared once, and this is at
  its split point.
-/

namespace ScannerDispatch

section
variable (keywords : List String)

/-- Several keywords begin with these characters. -/
def Shared (path : List Char) : Prop :=
  ∃ u ∈ keywords, ∃ v ∈ keywords, u ≠ v ∧ path <+: u.toList ∧ path <+: v.toList

/-- No other keyword shares the first `n` characters of `k`. -/
def Alone (k : String) (n : Nat) : Prop :=
  ∀ other ∈ keywords, k.toList.take n <+: other.toList → other = k

instance (k : String) (n : Nat) : Decidable (Alone keywords k n) :=
  inferInstanceAs (Decidable (∀ other ∈ keywords, k.toList.take n <+: other.toList → other = k))

/-- The least number of first characters, at least one, that no other keyword shares with `k`; all
    characters of `k` if other keywords share them. -/
def splitPoint (k : String) : Nat :=
  ((List.range' 1 k.length).find? fun n => Alone keywords k n).getD k.length

/-- The number of the first keyword that begins with these characters. -/
def firstBeginning (path : List Char) : Nat :=
  keywords.findIdx fun k => path.isPrefixOf k.toList

/-- The trie of keywords, each of which is the name of its token. -/
def Trie.ofKeywords : Trie :=
  .ofList (keywords.map fun k => (k, k))

end

/-! ## The trie -/

section
variable {keywords : List String}

theorem splitPoint_eq {k : String} {n : Nat} (hpos : 1 ≤ n) (hle : n ≤ k.length)
    (hbefore : ∀ m, 1 ≤ m → m < n → ¬ Alone keywords k m)
    (hn : Alone keywords k n ∨ n = k.length) : splitPoint keywords k = n := by
  rw [splitPoint]
  by_cases halone : Alone keywords k n
  · have hfind : (List.range' 1 k.length).find? (fun n => Alone keywords k n) = some n := by
      rw [List.find?_range'_eq_some, List.mem_range'_1]
      refine ⟨by simpa using halone, ⟨hpos, by omega⟩, fun m hm hlt => ?_⟩
      simpa using hbefore m hm hlt
    rw [hfind, Option.getD_some]
  · have hlast : n = k.length := hn.resolve_left halone
    have hfind : (List.range' 1 k.length).find? (fun n => Alone keywords k n) = none := by
      rw [List.find?_range'_eq_none]
      intro m hm hlt
      rcases Nat.lt_or_eq_of_le (show m ≤ n by omega) with h | rfl
      · simpa using hbefore m hm h
      · simpa using halone
    rw [hfind, Option.getD_none, hlast]

theorem sound_ofKeywords (keywords : List String) : (Trie.ofKeywords keywords).edges.Sound [] :=
  Trie.sound_ofList _

theorem firstWith_map_self (path : List Char) :
    firstWith (keywords.map fun k => (k, k)) path = firstBeginning keywords path := by
  rw [firstWith, List.findIdx_map]
  rfl

theorem completes_map_self (hne : "" ∉ keywords) {path value : String} :
    Trie.Completes (keywords.map fun k => (k, k)) path value ↔
      value ∈ keywords ∧ path.toList <+: value.toList := by
  have hmem : (∃ e ∈ keywords.map fun k => (k, k), e.1 = value) ↔ value ∈ keywords := by simp
  rw [Trie.Completes, hmem]
  constructor
  · rintro ⟨-, hp, hv⟩
    exact ⟨hv, hp⟩
  · rintro ⟨hv, hp⟩
    exact ⟨fun h => hne (h ▸ hv), hp, hv⟩

theorem forksAt_ofKeywords_iff (hne : "" ∉ keywords) {q : List Char} (hq : q ≠ []) :
    Node.ForksAt ⟨none, (Trie.ofKeywords keywords).edges⟩ q ↔ Shared keywords q := by
  rw [Trie.ofKeywords, Trie.forksAt_ofList_iff hq]
  simp only [completes_map_self hne, String.toList_ofList]
  constructor
  · rintro ⟨u, v, huv, ⟨hu, hpu⟩, hv, hpv⟩
    exact ⟨u, hu, v, hv, huv, hpu, hpv⟩
  · rintro ⟨u, hu, v, hv, huv, hpu, hpv⟩
    exact ⟨u, v, huv, ⟨hu, hpu⟩, hv, hpv⟩

/-- The forks are at the shared beginnings. -/
theorem exists_mem_forks_iff (hne : "" ∉ keywords) {q : List Char} :
    (∃ n, (q, n) ∈ (Trie.ofKeywords keywords).edges.forks []) ↔ q ≠ [] ∧ Shared keywords q := by
  simp only [Trie.ofKeywords, Trie.mem_forks_ofList_iff, Trie.find_ofList, exists_and_left]
  exact and_congr_right fun hq => forksAt_ofKeywords_iff hne hq

/-- The values of the trie are the keywords, under their own names. -/
theorem mem_terminals_ofKeywords {x : Terminal}
    (h : x ∈ (Trie.ofKeywords keywords).edges.terminals) :
    x.value ∈ keywords ∧ x.token = x.value := by
  obtain ⟨k, hk, he⟩ := List.mem_map.1 (Trie.mem_of_mem_terminals h)
  obtain ⟨hvalue, htoken⟩ := Prod.mk.inj he
  exact ⟨hvalue ▸ hk, htoken.symm.trans hvalue⟩

/-- **Every keyword is compared at its split point.** -/
theorem splitPoint_of_mem_comparisons (hne : "" ∉ keywords) {q : List Char} {x : Terminal}
    (h : (q, x) ∈ (Trie.ofKeywords keywords).edges.comparisons []) :
    q <+: x.value.toList ∧ splitPoint keywords x.value = q.length := by
  obtain ⟨c, -, r, hq, hsplit⟩ := (sound_ofKeywords keywords).splitsAt_of_mem_comparisons h
  rw [List.nil_append] at hq
  rw [← hq] at hsplit
  obtain ⟨hp, hlast⟩ := Trie.completes_of_splitsAt hsplit
  have htake : x.value.toList.take q.length = q := (List.prefix_iff_eq_take.1 hp).symm
  have hle : q.length ≤ x.value.length := by
    rw [← String.length_toList]
    exact hp.length_le
  refine ⟨hp, splitPoint_eq (by simp [hq]) hle ?_ ?_⟩
  · -- a shorter beginning leads to a fork
    intro m hpos hlt halone
    have hm : x.value.toList.take m = q.take m := by
      rw [← htake, List.take_take, Nat.min_eq_left (by omega)]
    have hne' : q.take m ≠ [] := by
      rw [Ne, List.take_eq_nil_iff]
      rintro (rfl | rfl)
      · omega
      · simp at hlt
    have hfork : Node.ForksAt ⟨none, (Trie.ofKeywords keywords).edges⟩ (q.take m) := by
      refine hsplit.forks (q.take m) q[m] (q.drop (m + 1)) ?_ hne'
      rw [List.getElem_cons_drop, List.take_append_drop]
    obtain ⟨u, hu, v, hv, huv, hpu, hpv⟩ := (forksAt_ofKeywords_iff hne hne').1 hfork
    rw [← hm] at hpu hpv
    exact huv ((halone u hu hpu).trans (halone v hv hpv).symm)
  · rcases hlast with honly | hall
    · refine .inl fun other ho hpre => honly other ?_
      rw [htake] at hpre
      exact (completes_map_self hne).2 ⟨ho, by rwa [String.toList_ofList]⟩
    · exact .inr (by rw [hall, String.length_toList])

/-- Every keyword is compared once. -/
theorem perm_comparisons (hne : "" ∉ keywords) :
    (((Trie.ofKeywords keywords).edges.comparisons []).map fun c => c.2.value).Perm
      keywords.dedup := by
  have hvalues : ((Trie.ofKeywords keywords).edges.comparisons []).map (fun c => c.2.value) =
      (Trie.ofKeywords keywords).edges.terminals.map Terminal.value := by
    rw [← Edges.map_snd_comparisons [], List.map_map]
    rfl
  rw [hvalues]
  have hnodup := (sound_ofKeywords keywords).nodup_terminals
  refine (List.perm_ext_iff_of_nodup hnodup (List.nodup_dedup _)).2 fun k => ?_
  rw [List.mem_dedup, List.mem_map]
  constructor
  · rintro ⟨x, hx, rfl⟩
    exact (mem_terminals_ofKeywords hx).1
  · intro hk
    have hvalue : (Trie.ofKeywords keywords).edges.valueAt k.toList = some ⟨k, k⟩ := by
      have hempty : k ≠ "" := fun h => hne (h ▸ hk)
      rw [Trie.ofKeywords, Trie.valueAt_ofList _ hempty, lastToken?_map_self, if_pos hk]
      rfl
    exact ⟨_, Edges.mem_terminals_of_valueAt hvalue, rfl⟩

end

end ScannerDispatch
