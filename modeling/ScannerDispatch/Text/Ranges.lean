/-!
Tables of code points, as the Unicode standard gives them: closed ranges in ascending order.

* `RangeTable.has` looks a code point up and stops at the first range beyond it.
* `RangeTable.Ascending` is the order the tables are written in; under it, `RangeTable.has_iff` says
  that `has` is membership in one of the ranges.
-/

namespace ScannerDispatch.Text

/-- Closed ranges of code points. -/
abbrev RangeTable := List (Nat × Nat)

namespace RangeTable

/-- Is the code point `n` in one of the ranges?  The search ends at the first range that starts
    beyond `n`. -/
def has : RangeTable → Nat → Bool
  | [], _ => false
  | (lo, hi) :: rest, n => if n < lo then false else if n ≤ hi then true else has rest n

/-- The ranges ascend: each one starts after those before it. -/
def Ascending : RangeTable → Prop
  | [] => True
  | (lo, _) :: rest => (∀ r ∈ rest, lo < r.1) ∧ Ascending rest

theorem has_iff {t : RangeTable} (ht : t.Ascending) {n : Nat} :
    t.has n = true ↔ ∃ r ∈ t, r.1 ≤ n ∧ n ≤ r.2 := by
  induction t with
  | nil => simp [has]
  | cons r rest ih =>
    obtain ⟨lo, hi⟩ := r
    obtain ⟨hlo, hrest⟩ := ht
    have ih := ih hrest
    unfold has
    split
    · next h =>
      simp only [Bool.false_eq_true, List.mem_cons, false_iff, not_exists, not_and]
      rintro r (rfl | hr) hle
      · exact absurd hle (Nat.not_le.2 h)
      · have := hlo r hr; omega
    · split
      · next h h' => simp only [List.mem_cons, true_iff]; exact ⟨_, Or.inl rfl, Nat.le_of_not_lt h, h'⟩
      · next h h' =>
        rw [ih]
        constructor
        · rintro ⟨r, hr, hb⟩; exact ⟨r, List.mem_cons_of_mem _ hr, hb⟩
        · rintro ⟨r, hr, hb⟩
          rcases List.mem_cons.1 hr with rfl | hr
          · exact absurd hb.2 h'
          · exact ⟨r, hr, hb⟩

end RangeTable

end ScannerDispatch.Text
