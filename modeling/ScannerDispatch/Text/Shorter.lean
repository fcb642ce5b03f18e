/-!
What is left of a list when something was taken from its front.  Readers return the rest of their
input in these types, so that reading by repetition visibly ends.

* `Rest xs` is a list at most as long as `xs`, and `Shorter xs` a shorter one.
* `Shorter.andRead` lets a reader go on where another one stopped.
* `Reads` says what a reader found and what it left; `Reads.bind` follows readers one after the other.
-/

namespace ScannerDispatch

/-- What may be left of `xs` after nothing or something was taken from its front. -/
structure Rest {α : Type} (xs : List α) where
  list : List α
  length_le : list.length ≤ xs.length

/-- What may be left of `xs` after something was taken from its front. -/
structure Shorter {α : Type} (xs : List α) where
  list : List α
  length_lt : list.length < xs.length

variable {α β : Type} {xs : List α}

/-! ## Taking from the front -/

/-- Nothing is taken. -/
def Rest.all (xs : List α) : Rest xs :=
  ⟨xs, Nat.le_refl _⟩

/-- The first `n` members are taken. -/
def Rest.drop (n : Nat) (xs : List α) : Rest xs :=
  ⟨xs.drop n, (List.drop_suffix n xs).length_le⟩

/-- The longest front whose members all satisfy `p` is taken. -/
def Rest.dropWhile (p : α → Bool) (xs : List α) : Rest xs :=
  ⟨xs.dropWhile p, (List.dropWhile_suffix p).length_le⟩

/-- A first member is taken, and then what was taken from the tail. -/
def Shorter.cons (x : α) (r : Rest xs) : Shorter (x :: xs) :=
  ⟨r.list, Nat.lt_succ_of_le r.length_le⟩

/-- The first member is taken. -/
def Shorter.tail (x : α) (xs : List α) : Shorter (x :: xs) :=
  .cons x (.all xs)

/-- The first member, and what is left after it. -/
def uncons? : (xs : List α) → Option (α × Shorter xs)
  | [] => none
  | x :: xs => some (x, .tail x xs)

/-! ## Going on -/

/-- What is left is at most all. -/
def Shorter.rest (r : Shorter xs) : Rest xs :=
  ⟨r.list, Nat.le_of_lt r.length_lt⟩

/-- More may be taken. -/
def Rest.thenRest (r : Rest xs) (s : Rest r.list) : Rest xs :=
  ⟨s.list, Nat.le_trans s.length_le r.length_le⟩

/-- More is taken. -/
def Rest.then (r : Rest xs) (s : Shorter r.list) : Shorter xs :=
  ⟨s.list, Nat.lt_of_lt_of_le s.length_lt r.length_le⟩

/-- More may be taken. -/
def Shorter.thenRest (r : Shorter xs) (s : Rest r.list) : Shorter xs :=
  ⟨s.list, Nat.lt_of_le_of_lt s.length_le r.length_lt⟩

/-- More is taken. -/
def Shorter.then (r : Shorter xs) (s : Shorter r.list) : Shorter xs :=
  r.thenRest s.rest

/-- Reads on from where something was left. -/
def Rest.andRead {m : Type → Type} [Functor m] (r : Rest xs)
    (read : (ys : List α) → m (β × Shorter ys)) : m (β × Shorter xs) :=
  (fun p => (p.1, r.then p.2)) <$> read r.list

/-- Reads on from where something was left. -/
def Shorter.andRead {m : Type → Type} [Functor m] (r : Shorter xs)
    (read : (ys : List α) → m (β × Shorter ys)) : m (β × Shorter xs) :=
  (fun p => (p.1, r.then p.2)) <$> read r.list

@[simp] theorem Rest.list_then (r : Rest xs) (s : Shorter r.list) : (r.then s).list = s.list := rfl

@[simp] theorem Shorter.list_then (r : Shorter xs) (s : Shorter r.list) :
    (r.then s).list = s.list := rfl

@[simp] theorem Shorter.list_tail (x : α) (xs : List α) : (tail x xs).list = xs := rfl

/-! ## What a reader finds -/

variable {ε γ : Type}

/-- The result of a reader is `b`, and `ys` is left. -/
def Reads (x : Except ε (β × Shorter xs)) (b : β) (ys : List α) : Prop :=
  ∃ h, x = .ok (b, ⟨ys, h⟩)

variable {x : Except ε (β × Shorter xs)} {b : β} {ys zs : List α} {c : γ}

theorem Reads.ok {r : Shorter xs} (h : r.list = ys) : Reads (ε := ε) (.ok (b, r)) b ys := by
  subst h; exact ⟨_, rfl⟩

theorem Reads.bind {us : List α} {k : β × Shorter xs → Except ε (γ × Shorter us)}
    (hx : Reads x b ys) (hk : ∀ h, Reads (k (b, ⟨ys, h⟩)) c zs) : Reads (x >>= k) c zs := by
  obtain ⟨h, rfl⟩ := hx
  exact hk h

theorem Reads.ite_pos {p : Prop} [Decidable p] {y : Except ε (β × Shorter xs)} (hp : p)
    (h : Reads x b ys) : Reads (if p then x else y) b ys := by
  rwa [if_pos hp]

theorem Reads.ite_neg {p : Prop} [Decidable p] {y : Except ε (β × Shorter xs)} (hp : ¬ p)
    (h : Reads x b ys) : Reads (if p then y else x) b ys := by
  rwa [if_neg hp]

theorem Reads.andRead {r : Shorter xs} {read : (ys : List α) → Except ε (γ × Shorter ys)}
    (h : Reads (read r.list) c zs) : Reads (r.andRead read) c zs := by
  obtain ⟨h, e⟩ := h
  exact ⟨_, by rw [Shorter.andRead, e]; rfl⟩

end ScannerDispatch
