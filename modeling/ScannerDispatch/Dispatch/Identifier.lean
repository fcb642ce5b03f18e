import ScannerDispatch.Code.Literal
import ScannerDispatch.Config.Settings
import ScannerDispatch.Emission
import ScannerDispatch.Trie

/-!
Identifier dispatch: the function that tells keywords from other identifiers.

The function switches on the characters of the lexeme, one level of the trie after the other, as long
as several keywords are possible.  Where only one is left, the rest of the lexeme is compared with
the rest of that keyword in one call.  A switch on a later character is guarded by a test that the
lexeme is long enough.

* `IdentifierDispatch.branchSteps` emits the switch for the children of a node, and
  `IdentifierDispatch.caseSteps` what stands under a case label.
* `IdentifierDispatch.steps` emits the whole function.
-/

namespace ScannerDispatch.IdentifierDispatch

variable (s : Settings)

/-- The call that compares the lexeme from `start` on with the rest of a keyword. -/
def checkKeyword (start : Nat) (keyword : Terminal) : String :=
  let rest := keyword.value.toList.drop start
  s.checkKeywordFunctionName ++ "(scanner, " ++ toString start ++ ", " ++ toString rest.length ++
    ", " ++ String.ofList (Literal.textSpelling rest) ++ ", " ++
    constant s.tokenPrefix keyword.token ++ ")"

/-- Registers a keyword and returns the result of comparing with it; `lead` stands before the
    statement. -/
def returnKeyword (level : Nat) (lead : String) (start : Nat) (keyword : Terminal) : List Step :=
  [.register .keyword keyword.token,
    .line level (lead ++ "return " ++ checkKeyword s start keyword ++ ";")]

/-- The steps of a switch on the character at `depth`, around the steps of its cases. -/
def switchSteps (level depth : Nat) (cases : List Step) : List Step :=
  .line level ("switch (scanner->start[" ++ toString depth ++ "]) \x7b") :: cases ++
    [.line level "default: ;", .line level "\x7d"]

/-- What stands under the case label of a node from which several keywords can still be reached.
    `cases` are the steps for the cases of its children, one level deeper. -/
def openBody (level consumed : Nat) (terminal : Option Terminal) (cases : List Step) : List Step :=
  .line level "" ::
    .line level ("if (scanner->current - scanner->start > " ++ toString consumed ++ ") \x7b") ::
    switchSteps (level + 1) consumed cases ++
    .line level "\x7d" ::
    match terminal with
    | some keyword => returnKeyword s level "" consumed keyword
    | none => [.line level "break;"]

/-- The steps for the cases of a switch on the character at `depth`.  A child that leaves only one
    keyword is compared at once; any other is opened by a switch of its own. -/
def caseList (level depth : Nat) : Edges → List Step
  | .nil => []
  | .cons c terminal below rest =>
    .write level ("case " ++ Literal.char c ++ ":") ::
      (match below.only? terminal with
        | some keyword => returnKeyword s (level + 1) " " (depth + 1) keyword
        | none =>
          if below.isEmpty then [.fail (.deadEnd (depth + 1))]
          else
            openBody s (level + 1) (depth + 1) terminal
              (caseList (level + 2) (depth + 1) below)) ++
      caseList level depth rest

/-- The switch for the children of a node that is reached after `depth` characters. -/
def branchSteps (depth : Nat) (node : Node) : List Step :=
  switchSteps 0 depth (caseList s 0 depth node.edges)

/-- What stands under the case label of a node whose own character is the one at `depth`. -/
def caseSteps (depth : Nat) (node : Node) : List Step :=
  match node.only? with
  | some keyword => returnKeyword s 0 " " (depth + 1) keyword
  | none =>
    if node.isLeaf then [.fail (.deadEnd (depth + 1))]
    else openBody s 0 (depth + 1) node.terminal (caseList s 1 (depth + 1) node.edges)

/-- The head of the function, as it is declared and defined. -/
def signature : String :=
  s.tokenEnumType ++ " " ++ s.identFunctionName ++ "(" ++ s.scannerType ++ "* scanner)"

/-- The function that tells the keywords of a trie from other identifiers. -/
def steps (keywords : Trie) : List Step :=
  .register .skip s.identTokenName ::
    .line 0 (signature s ++ " \x7b") ::
    (branchSteps s 0 keywords.root).map (.deeper 1) ++
    [.line 1 ("return " ++ constant s.tokenPrefix s.identTokenName ++ ";"), .line 0 "\x7d"]

end ScannerDispatch.IdentifierDispatch
