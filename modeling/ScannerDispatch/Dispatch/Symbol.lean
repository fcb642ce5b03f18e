import ScannerDispatch.Code.Literal
import ScannerDispatch.Config.Settings
import ScannerDispatch.Emission
import ScannerDispatch.Trie

/-!
Symbol dispatch: the function that classifies punctuation.

The function switches on the first character, which has been read already.  Where that character
begins symbols of two characters, the possible second characters are tried before the symbol of one
character is settled for, so that the longest symbol wins.

* `SymbolDispatch.branchSteps` emits the switch for the children of a node, and
  `SymbolDispatch.caseSteps` what stands under a case label.
* `SymbolDispatch.steps` emits the whole function.
-/

namespace ScannerDispatch.SymbolDispatch

variable (s : Settings)

/-- The call that makes the token of a symbol. -/
def makeToken (symbol : Terminal) : String :=
  s.makeTokenFunctionName ++ "(scanner, " ++ constant s.tokenPrefix symbol.token ++ ")"

/-- Registers a symbol and writes a line that returns its token; `lead` stands before the return. -/
def returnSymbol (level : Nat) (lead : String) (symbol : Terminal) : List Step :=
  [.register (.ofSymbol symbol.value) symbol.token,
    .line level (lead ++ "return " ++ makeToken s symbol ++ ";")]

/-- The test for each possible next character.  A node at `depth` must have a value. -/
def nextSteps (level depth : Nat) : List (Char × Node) → List Step
  | [] => []
  | (c, next) :: rest =>
    match next.terminal with
    | none => [.fail (.deadEnd depth)]
    | some symbol =>
      returnSymbol s level
          ("if (" ++ s.matchFunctionName ++ "(scanner, " ++ Literal.char c ++ ")) ") symbol ++
        nextSteps level depth rest

/-- What is returned when no next character matches. -/
def fallbackSteps (level : Nat) (node : Node) : List Step :=
  match node.terminal with
  | some symbol => returnSymbol s level "" symbol
  | none =>
    [.report (.noFallback (node.children.filterMap fun child => child.2.terminal.map (·.value))),
      .line level "break;"]

/-- What stands under the case label of a node at `depth`. -/
def caseBody (level depth : Nat) (node : Node) : List Step :=
  if node.isLeaf then
    match node.terminal with
    | none => [.fail (.deadEnd depth)]
    | some symbol => returnSymbol s level " " symbol
  else
    .line level " \x7b" ::
      nextSteps s (level + 1) (depth + 1) node.children ++
      fallbackSteps s (level + 1) node ++
      [.line level "\x7d"]

/-- What stands under the case label of a node at `depth`, at the level of the emission. -/
def caseSteps (depth : Nat) (node : Node) : List Step :=
  caseBody s 0 depth node

/-- The switch for the children of a node at `depth`. -/
def branchSteps (depth : Nat) (node : Node) : List Step :=
  .line 0 "switch (c) \x7b" ::
    (node.children.flatMap fun child =>
      .write 0 ("case " ++ Literal.char child.1 ++ ":") :: caseBody s 0 (depth + 1) child.2) ++
    [.line 0 "default: break;", .line 0 "\x7d"]

/-- The head of the function under a given name. -/
def signature (name : String) : String :=
  s.tokenType ++ " " ++ name ++ "(" ++ s.scannerType ++ "* scanner, char c)"

/-- The function that classifies the symbols of a trie. -/
def steps (symbols : Trie) : List Step :=
  .line 0 (signature s s.symbolFunctionName ++ " \x7b") ::
    (branchSteps s 0 symbols.root).map (.deeper 1) ++
    [.line 1 "",
      .line 1 ("return " ++ s.errorTokenFunctionName ++ "(scanner, " ++
        Literal.text s.errorMessage ++ ");"),
      .line 0 "\x7d"]

end ScannerDispatch.SymbolDispatch
