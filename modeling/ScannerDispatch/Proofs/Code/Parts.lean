import ScannerDispatch.Proofs.Code.Switch

/-!
The switches, conditions and calls in statements, with the places where they stand.

* A `Place` is given by the labels of the cases around it and by the innermost condition.
* `Stmt.partsAll` are all parts of statements in a row; `switches`, `conditions` and `calls` are those
  of a function.
* `partsAll_switchBody`: the parts in a switch are those of its arms, each under its own label.
-/

namespace ScannerDispatch.Code

/-- Where a statement stands: the labels of the cases that it stands under, the outermost switch first,
    and the innermost condition around it. -/
structure Place where
  path : List Char := []
  cond : Option Cond := none
deriving Repr, DecidableEq, Inhabited

/-- A switch, the place where it stands, and the labels of its cases. -/
structure SwitchAt where
  place : Place
  subject : Subject
  cases : List Char
deriving Repr, DecidableEq, Inhabited

/-- A call and the labels of the cases that it stands under. -/
structure CallAt where
  path : List Char
  function : String
  args : List Arg
deriving Repr, DecidableEq, Inhabited

/-- A part of a function. -/
inductive Part where
  | switch (s : SwitchAt)
  /-- A condition, and the labels of the cases that it stands under. -/
  | condition (path : List Char) (cond : Cond)
  | call (c : CallAt)
deriving Repr, DecidableEq, Inhabited

/-- The place under a label of a switch. -/
def Place.under (outer : Place) (c : Char) : Place :=
  { outer with path := outer.path ++ [c] }

/-- The place after a statement at `here`, in the body of a switch at `outer`. -/
def Place.after (outer here : Place) : Stmt → Place
  | .label (.case c) => outer.under c
  | .label .default => outer
  | _ => here

/-- The character of the label of a case. -/
def Label.case? : Label → Option Char
  | case c => some c
  | default => none

/-- The labels of the cases of a switch with this body. -/
def caseLabels (body : List Stmt) : List Char :=
  (body.filterMap Stmt.label?).filterMap Label.case?

mutual

/-- The parts of a statement that stands at a place. -/
def Stmt.parts (here : Place) : Stmt → List Part
  | .empty | .leave | .label _ | .result (.name _) => []
  | .result (.call f args) => [.call ⟨here.path, f, args⟩]
  | .when cond body => .condition here.path cond :: body.parts { here with cond := some cond }
  | .block body => partsAll here here body
  | .switch subject body => .switch ⟨here, subject, caseLabels body⟩ :: partsAll here here body

/-- The parts of statements in a row, the first of which stands at `here`, in the body of a switch at
    `outer`. -/
def Stmt.partsAll (outer here : Place) : List Stmt → List Part
  | [] => []
  | s :: body => s.parts here ++ partsAll outer (outer.after here s) body

end

def Part.switch? : Part → Option SwitchAt
  | switch s => some s
  | _ => none

def Part.condition? : Part → Option (List Char × Cond)
  | condition path cond => some (path, cond)
  | _ => none

def Part.call? : Part → Option CallAt
  | call c => some c
  | _ => none

/-- The switches of a function. -/
def switches (body : List Stmt) : List SwitchAt :=
  (Stmt.partsAll {} {} body).filterMap Part.switch?

/-- The conditions of a function, with the labels of the cases that they stand under. -/
def conditions (body : List Stmt) : List (List Char × Cond) :=
  (Stmt.partsAll {} {} body).filterMap Part.condition?

/-- The calls of a function. -/
def calls (body : List Stmt) : List CallAt :=
  (Stmt.partsAll {} {} body).filterMap Part.call?

/-! ## Switches -/

theorem caseLabels_switchBody {arms : List (Char × List Stmt)} {last : Stmt}
    (ha : ∀ arm ∈ arms, Stmt.ProperAll false arm.2) (hl : last.Proper) :
    caseLabels (switchBody arms last) = arms.map Prod.fst := by
  rw [caseLabels, filterMap_label?_switchBody ha hl, List.filterMap_append, List.filterMap_map]
  simp only [List.filterMap_cons, List.filterMap_nil, Label.case?, List.append_nil]
  exact congrFun List.filterMap_eq_map arms

/-- Only a label changes the place. -/
theorem Place.after_of_proper {s : Stmt} (h : s.Proper) (outer here : Place) :
    outer.after here s = here := by
  cases s with
  | label l => simp [Stmt.Proper] at h
  | _ => rfl

namespace Stmt

theorem partsAll_singleton (outer here : Place) (s : Stmt) :
    partsAll outer here [s] = s.parts here :=
  List.append_nil _

/-- Statements without labels all stand at the same place, whatever switch they are in. -/
theorem partsAll_append {xs : List Stmt} (h : ProperAll false xs) (outer here : Place)
    (ys : List Stmt) :
    partsAll outer here (xs ++ ys) = partsAll here here xs ++ partsAll outer here ys := by
  induction xs with
  | nil => rfl
  | cons s xs ih =>
    have hs : s.Proper := h.1.resolve_right (by simp)
    rw [List.cons_append, partsAll, partsAll, Place.after_of_proper hs, Place.after_of_proper hs,
      ih h.2, List.append_assoc]

/-- The parts of the arms of a switch at a place. -/
def partsOfArms (outer : Place) (arms : List (Char × List Stmt)) : List Part :=
  arms.flatMap fun arm => partsAll (outer.under arm.1) (outer.under arm.1) arm.2

theorem partsOfArms_cons (outer : Place) (arm : Char × List Stmt) (arms : List (Char × List Stmt)) :
    partsOfArms outer (arm :: arms) =
      partsAll (outer.under arm.1) (outer.under arm.1) arm.2 ++ partsOfArms outer arms :=
  List.flatMap_cons

/-- **The parts in a switch are those of its arms, each under its label.** -/
theorem partsAll_switchBody {arms : List (Char × List Stmt)}
    (ha : ∀ arm ∈ arms, ProperAll false arm.2) (last : Stmt) (outer here : Place) :
    partsAll outer here (switchBody arms last) = partsOfArms outer arms ++ last.parts outer := by
  induction arms generalizing here with
  | nil => simp [switchBody, partsOfArms, partsAll, parts, Place.after]
  | cons arm arms ih =>
    obtain ⟨h, ha⟩ := List.forall_mem_cons.1 ha
    rw [switchBody_cons, partsAll, parts, List.nil_append, Place.after, partsAll_append h, ih ha,
      partsOfArms_cons, List.append_assoc]

end Stmt

end ScannerDispatch.Code
