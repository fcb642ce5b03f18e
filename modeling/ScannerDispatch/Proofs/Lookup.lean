/-!
Lookups in lists of pairs from which the pairs of one key were taken.
-/

namespace ScannerDispatch

variable {α β : Type} [BEq α] [LawfulBEq α] [DecidableEq α]

/-- The other keys are not affected. -/
theorem lookup_filter_ne (entries : List (α × β)) {l k : α} (h : k ≠ l) :
    (entries.filter (·.1 ≠ l)).lookup k = entries.lookup k := by
  induction entries with
  | nil => rfl
  | cons e entries ih =>
    obtain ⟨i, e⟩ := e
    by_cases hi : i = l
    · rw [List.filter_cons_of_neg (by simpa using hi), List.lookup_cons,
        beq_false_of_ne (hi ▸ h), ih]
    · rw [List.filter_cons_of_pos (by simpa using hi), List.lookup_cons, List.lookup_cons, ih]

theorem lookup_filter_self (entries : List (α × β)) (l : α) :
    (entries.filter (·.1 ≠ l)).lookup l = none := by
  rw [List.lookup_eq_none_iff]
  intro e he
  have hne : e.1 ≠ l := by simpa using (List.mem_filter.1 he).2
  simpa using Ne.symm hne

end ScannerDispatch
