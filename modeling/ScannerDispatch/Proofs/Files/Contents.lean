import ScannerDispatch.Files.Tree
import ScannerDispatch.Proofs.Lookup

/-!
The contents of files, and what the operations on a tree of files do to them.

* `FileTree.file?` are the contents of the file at a location.
* `file?_of_write`: a write that succeeds changes one file and no other one.
* `file?_of_makeDirectory`: a new directory takes the place of no file.
-/

namespace ScannerDispatch.FileTree

/-- The contents of the file at a location, if there is a file. -/
def file? (t : FileTree) (l : Location) : Option ByteArray :=
  match t.get? l with
  | some (.file contents) => some contents
  | _ => none

/-- What is put at a location is found there, and nothing else changes. -/
theorem get?_set (t : FileTree) {l : Location} (hl : l ≠ []) (e : FileEntry) (k : Location) :
    (t.set l e).get? k = if k = l then some e else t.get? k := by
  by_cases hk : k = l
  · subst hk
    have hempty : ¬ k.isEmpty = true := by simpa using hl
    rw [if_pos rfl, get?, if_neg hempty, set, List.lookup_append, lookup_filter_self]
    simp
  · rw [if_neg hk, get?, get?, set, List.lookup_append, lookup_filter_ne _ hk]
    simp [List.lookup_cons, beq_false_of_ne hk]

variable {t t' : FileTree} {here : Location} {path : String} {contents : ByteArray}

theorem last_of_resolveLast {l : Location} {last : Option String}
    (h : t.resolveLast here path = .ok (l, last)) : last = (Path.names path).getLast? := by
  simp only [resolveLast, bind, Except.bind] at h
  cases hw : t.walk (start here path) (Path.names path).dropLast with
  | error e =>
    rw [hw] at h
    cases h
  | ok l' =>
    simp only [hw] at h
    split at h <;> cases h
    rfl

/-- A write puts its contents at one location, which has the last name of the path. -/
theorem exists_of_write (h : t.write here path contents = .ok t') :
    ∃ l, l ≠ [] ∧ l.getLast? = (Path.names path).getLast? ∧ t' = t.set l (.file contents) := by
  unfold write at h
  cases hr : t.resolveLast here path with
  | error e => rw [hr] at h; cases h
  | ok r =>
    obtain ⟨l, last⟩ := r
    have hlast := last_of_resolveLast hr
    rw [hr] at h
    simp only [bind, Except.bind] at h
    split at h
    · cases h
    · cases h
    · cases h
    · next name _ _ =>
      split at h
      · cases h
      · cases h
        exact ⟨l ++ [name], by simp, by rw [← hlast, List.getLast?_concat], rfl⟩

/-- A directory is made where there was nothing. -/
theorem exists_of_makeDirectory (h : t.makeDirectory here path = .ok t') :
    ∃ l, l ≠ [] ∧ t.get? l = none ∧ t' = t.set l .directory := by
  unfold makeDirectory at h
  cases hr : t.resolveLast here path with
  | error e => rw [hr] at h; cases h
  | ok r =>
    obtain ⟨l, last⟩ := r
    rw [hr] at h
    simp only [bind, Except.bind] at h
    split at h
    · cases h
    · cases h
    · cases h
    · next name _ _ =>
      split at h
      · cases h
      · next hfree =>
        cases h
        exact ⟨l ++ [name], by simp, by simpa using hfree, rfl⟩

/-- **A write changes the file at one location and no other one.** -/
theorem file?_of_write (h : t.write here path contents = .ok t') :
    ∃ l, l.getLast? = (Path.names path).getLast? ∧
      ∀ k, t'.file? k = if k = l then some contents else t.file? k := by
  obtain ⟨l, hl, hlast, rfl⟩ := exists_of_write h
  refine ⟨l, hlast, fun k => ?_⟩
  rw [file?, get?_set t hl]
  by_cases hk : k = l
  · simp [hk]
  · simp [hk, file?]

/-- A new directory changes no file. -/
theorem file?_of_makeDirectory (h : t.makeDirectory here path = .ok t') (k : Location) :
    t'.file? k = t.file? k := by
  obtain ⟨l, hl, hnone, rfl⟩ := exists_of_makeDirectory h
  rw [file?, get?_set t hl]
  by_cases hk : k = l
  · simp [hk, file?, hnone]
  · simp [hk, file?]

end ScannerDispatch.FileTree
