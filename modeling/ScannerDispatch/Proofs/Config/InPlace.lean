import ScannerDispatch.Proofs.Config.Outcomes
import ScannerDispatch.Proofs.Lookup

/-!
Settings taken out of their table.

A table is completed with the usual values of the settings that it lacks, and then the settings are
removed from it one by one.  That the names left over keep their order is what `keys_remove` says.

* `Settings.removeAll_eq`: removing settings finds the values that they have in the table at first, up to
  the first one that has none.
* `Settings.removeAll_completed`: in this way the same settings are found as by looking them up, and the
  names left over are those without meaning.
-/

namespace ScannerDispatch

namespace StringTable

/-- Gives `key` the text `value` unless it is there already. -/
def setMissing (t : StringTable) (key value : String) : StringTable :=
  if key ∈ t.keys then t else t.set key value

/-- Takes `key` out of the table. -/
def remove (t : StringTable) (key : String) : StringTable where
  entries := t.entries.filter (·.1 ≠ key)
  nodup := (List.filter_sublist.map Prod.fst).nodup t.nodup

variable (t : StringTable)

theorem get?_eq_none_iff {t : StringTable} {key : String} : t.get? key = none ↔ key ∉ t.keys := by
  rw [get?, List.lookup_eq_none_iff, keys, List.mem_map]
  constructor
  · rintro h ⟨e, he, rfl⟩
    simpa using h e he
  · intro h e he
    have hne : key ≠ e.1 := fun heq => h ⟨e, he, heq.symm⟩
    simpa using hne

theorem setIn_of_notMem {key : String} {l : List (String × String)} (h : key ∉ l.map Prod.fst)
    (value : String) : setIn key value l = l ++ [(key, value)] := by
  induction l with
  | nil => rfl
  | cons e l ih =>
    rw [List.map_cons, List.mem_cons, not_or] at h
    rw [setIn, if_neg (Ne.symm h.1), ih h.2, List.cons_append]

theorem get?_setMissing (key value k : String) :
    (t.setMissing key value).get? k = (t.get? k).or (if k = key then some value else none) := by
  rw [setMissing]
  split
  · next h =>
    by_cases hk : k = key
    · subst hk
      have hsome : t.get? k ≠ none := fun hnone => get?_eq_none_iff.1 hnone h
      obtain ⟨v, hv⟩ := Option.ne_none_iff_exists'.1 hsome
      simp [hv]
    · simp [hk]
  · next h =>
    have hentries : (t.set key value).entries = t.entries ++ [(key, value)] := setIn_of_notMem h value
    rw [get?, get?, hentries, List.lookup_append, List.lookup_cons]
    by_cases hk : k = key
    · simp [hk]
    · simp [hk, beq_false_of_ne hk]

theorem get?_remove_ne {key k : String} (h : k ≠ key) : (t.remove key).get? k = t.get? k :=
  lookup_filter_ne t.entries h

/-- The names that are left keep their order. -/
theorem keys_remove (key : String) : (t.remove key).keys = t.keys.filter (· ≠ key) := by
  rw [keys, keys, remove, List.filter_map]
  rfl

end StringTable

namespace Settings

/-- The settings that may be left out, with their usual values. -/
def usual : List (String × String) :=
  SettingKey.all.filterMap fun k => k.default?.map (k.name, ·)

/-- The table with usual values for the settings that it lacks. -/
def completed (t : StringTable) : StringTable :=
  usual.foldl (fun t e => t.setMissing e.1 e.2) t

/-- Takes settings out of a table, one after the other.  The error is the first one that is missing. -/
def removeAll : List SettingKey → StringTable → Except SettingKey (List String × StringTable)
  | [], t => .ok ([], t)
  | k :: ks, t =>
    match t.get? k.name with
    | none => .error k
    | some value => (removeAll ks (t.remove k.name)).map fun x => (value :: x.1, x.2)

theorem get?_foldl_setMissing (entries : List (String × String)) (t : StringTable) (key : String) :
    (entries.foldl (fun t e => t.setMissing e.1 e.2) t).get? key =
      (t.get? key).or (entries.lookup key) := by
  induction entries generalizing t with
  | nil => simp
  | cons e entries ih =>
    rw [List.foldl_cons, ih, StringTable.get?_setMissing, Option.or_assoc, List.lookup_cons]
    by_cases hk : key = e.1
    · simp [hk]
    · simp [hk, beq_false_of_ne hk]

/-- A completed table has the usual values where the table itself has none. -/
theorem get?_completed (t : StringTable) (k : SettingKey) :
    (completed t).get? k.name = value? t k := by
  have husual : usual.lookup k.name = k.default? := by cases k <;> rfl
  rw [completed, get?_foldl_setMissing, husual, value?]

theorem unknownKeys_foldl_setMissing {entries : List (String × String)}
    (h : ∀ e ∈ entries, SettingKey.isKnown e.1 = true) (t : StringTable) :
    unknownKeys (entries.foldl (fun t e => t.setMissing e.1 e.2) t) = unknownKeys t := by
  induction entries generalizing t with
  | nil => rfl
  | cons e entries ih =>
    obtain ⟨he, hentries⟩ := List.forall_mem_cons.1 h
    rw [List.foldl_cons, ih hentries, StringTable.setMissing]
    split
    · rfl
    · next hkey => simp [unknownKeys, StringTable.keys_set, hkey, he]

theorem unknownKeys_completed (t : StringTable) : unknownKeys (completed t) = unknownKeys t :=
  unknownKeys_foldl_setMissing (by decide) t

/-- Removing settings finds the values that they have at first, up to the first one that has none; the
    other names are left over. -/
theorem removeAll_eq {value : SettingKey → Option String} {ks : List SettingKey} {t : StringTable}
    (hnodup : (ks.map SettingKey.name).Nodup) (hvalue : ∀ k ∈ ks, t.get? k.name = value k) :
    (removeAll ks t).map (fun x => (x.1, x.2.keys)) =
      (ks.find? fun k => (value k).isNone).elim
        (.ok (ks.map fun k => (value k).getD "", t.keys.filter (· ∉ ks.map SettingKey.name)))
        .error := by
  induction ks generalizing t with
  | nil =>
    have hall : t.keys.filter (· ∉ [].map SettingKey.name) = t.keys :=
      List.filter_eq_self.2 (by simp)
    rw [List.find?_nil, Option.elim_none, hall]
    rfl
  | cons k ks ih =>
    obtain ⟨hk, hks⟩ := List.forall_mem_cons.1 hvalue
    rw [List.map_cons, List.nodup_cons] at hnodup
    -- the other settings still have their values when `k` is gone
    have hrest : ∀ k' ∈ ks, (t.remove k.name).get? k'.name = value k' := by
      intro k' hk'
      have hne : k'.name ≠ k.name := fun heq => hnodup.1 (heq ▸ List.mem_map_of_mem hk')
      rw [StringTable.get?_remove_ne t hne, hks k' hk']
    rw [removeAll, hk, List.find?_cons]
    cases hv : value k with
    | none => rfl
    | some v =>
      have hcons : ∀ x : Except SettingKey (List String × StringTable),
          (x.map fun x => (v :: x.1, x.2)).map (fun x => (x.1, x.2.keys)) =
            (x.map fun x => (x.1, x.2.keys)).map fun x => (v :: x.1, x.2) := by
        intro x
        cases x <;> rfl
      simp only [hcons, ih hnodup.2 hrest, StringTable.keys_remove, List.filter_filter]
      cases ks.find? fun k => (value k).isNone with
      | some missing => rfl
      | none =>
        have hfilter : (t.keys.filter fun key => key ∉ ks.map SettingKey.name && key ≠ k.name) =
            t.keys.filter (· ∉ (k :: ks).map SettingKey.name) := by
          congr 1
          funext key
          simp [Bool.and_comm]
        rw [hfilter]
        simp [Except.map, hv]

/-- **Settings that are taken out of their table are those that stand in it**, and what is left over has
    no meaning. -/
theorem removeAll_completed (t : StringTable) :
    (removeAll SettingKey.all (completed t)).map (fun x => (x.1, x.2.keys)) =
      (ofTable t).map fun s => (SettingKey.all.map s.get, unknownKeys t) := by
  have hnodup : (SettingKey.all.map SettingKey.name).Nodup := by decide
  rw [removeAll_eq hnodup fun k _ => get?_completed t k, ofTable_eq, ← unknownKeys_eq,
    unknownKeys_completed]
  cases SettingKey.all.find? fun k => (value? t k).isNone with
  | some missing => rfl
  | none => simp [Except.map]

end Settings

end ScannerDispatch
