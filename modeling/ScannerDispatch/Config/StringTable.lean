/-!
Tables from names to texts, in the order in which the names were first given.

* `StringTable.set` keeps the place of a name that is already there and replaces its text.
* `StringTable.ofPairs` reads a list of pairs in this way; `keys_set` gives the order of the names.
-/

namespace ScannerDispatch

/-- A table of texts by name.  No name stands in it twice. -/
structure StringTable where
  entries : List (String × String) := []
  nodup : (entries.map Prod.fst).Nodup := by simp
deriving DecidableEq

namespace StringTable

/-- The table without entries. -/
def empty : StringTable := {}

instance : Inhabited StringTable := ⟨empty⟩

instance : Repr StringTable := ⟨fun t => reprPrec t.entries⟩

/-- The names, in order. -/
def keys (t : StringTable) : List String :=
  t.entries.map Prod.fst

/-- The texts, in order. -/
def values (t : StringTable) : List String :=
  t.entries.map Prod.snd

/-- The number of entries. -/
def size (t : StringTable) : Nat :=
  t.entries.length

/-- The text of a name. -/
def get? (t : StringTable) (key : String) : Option String :=
  t.entries.lookup key

/-- Replaces the text of `key` in a list of entries, or adds an entry at the end. -/
def setIn (key value : String) : List (String × String) → List (String × String)
  | [] => [(key, value)]
  | (k, v) :: rest => if k = key then (k, value) :: rest else (k, v) :: setIn key value rest

theorem map_fst_setIn (key value : String) (l : List (String × String)) :
    (setIn key value l).map Prod.fst =
      if key ∈ l.map Prod.fst then l.map Prod.fst else l.map Prod.fst ++ [key] := by
  induction l with
  | nil => simp [setIn]
  | cons e rest ih =>
    obtain ⟨k, v⟩ := e
    by_cases h : k = key
    · simp [setIn, h]
    · have h' : ¬key = k := fun e => h e.symm
      by_cases hm : key ∈ rest.map Prod.fst
      · simp only [hm, if_true] at ih; simp [setIn, h, ih]; simp_all
      · simp only [hm, if_false] at ih; simp [setIn, h, ih]; simp_all

/-- Gives `key` the text `value`: in place if the name is there, else at the end. -/
def set (t : StringTable) (key value : String) : StringTable where
  entries := setIn key value t.entries
  nodup := by
    rw [map_fst_setIn]
    split
    · exact t.nodup
    · next h => exact List.nodup_append.2 ⟨t.nodup, by simp, by simpa using fun a b hb e => h (by simp; exact ⟨b, e ▸ hb⟩)⟩

/-- The table of a list of pairs: a repeated name keeps its first place and its last text. -/
def ofPairs (pairs : List (String × String)) : StringTable :=
  pairs.foldl (fun t e => t.set e.1 e.2) empty

theorem keys_set (t : StringTable) (key value : String) :
    (t.set key value).keys = if key ∈ t.keys then t.keys else t.keys ++ [key] :=
  map_fst_setIn key value t.entries

end StringTable

end ScannerDispatch
