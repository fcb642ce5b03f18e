import ScannerDispatch.Proofs.Code.Switch
import ScannerDispatch.Proofs.Emission.Spelling
import ScannerDispatch.Proofs.Trie.Values

/-!
The statements of the symbol function.

* `SymbolDispatch.body` are the statements that the function consists of.
* `Nameable` nodes have values where values are needed, with constants that are words.  In a trie of
  symbols of one or two characters all children of the root are of this kind.
* `function_of_emitNew`: then the emission succeeds, and the emitted code is read as `body`.
-/

namespace ScannerDispatch

open Code

namespace SymbolDispatch

variable (s : Settings)

/-! ## Statements -/

/-- Returns the token of a symbol. -/
def returnStmt (symbol : Terminal) : Stmt :=
  .result (.call s.makeTokenFunctionName
    [.name "scanner", .name (constant s.tokenPrefix symbol.token)])

/-- The tests for the possible next characters. -/
def nextStmts (children : List (Char × Node)) : List Stmt :=
  children.filterMap fun child =>
    child.2.terminal.map fun symbol => .when (.next child.1) (returnStmt s symbol)

/-- What stands after these tests. -/
def closing : Option Terminal → Stmt
  | some symbol => returnStmt s symbol
  | none => .leave

/-- What stands under the case label of a node. -/
def arm (node : Node) : List Stmt :=
  if node.isLeaf then node.terminal.toList.map (returnStmt s)
  else [.block (nextStmts s node.children ++ [closing s node.terminal])]

/-- The arms of the switch on the first character. -/
def arms (children : List (Char × Node)) : List (Char × List Stmt) :=
  children.map fun child => (child.1, arm s child.2)

/-- The message of the function, as it is read from the code. -/
def message : String :=
  String.ofList (reread s.errorMessage.toList)

/-- The statements of the function for the symbols of a trie. -/
def body (symbols : Trie) : List Stmt :=
  [.switch .first (switchBody (arms s symbols.root.children) .leave),
    .result (.call s.errorTokenFunctionName [.name "scanner", .text (message s)])]

theorem proper_returnStmt (symbol : Terminal) : (returnStmt s symbol).Proper := by
  simp [returnStmt, Stmt.Proper, Expr.Proper]

theorem proper_nextStmts (children : List (Char × Node)) :
    Stmt.ProperAll false (nextStmts s children) := by
  induction children with
  | nil => trivial
  | cons child children ih =>
    obtain ⟨c, t, below⟩ := child
    cases t with
    | none => exact ih
    | some x => exact ⟨.inl (proper_returnStmt s x), ih⟩

theorem proper_arms (children : List (Char × Node)) :
    ∀ arm ∈ arms s children, Stmt.ProperAll false arm.2 := by
  intro a ha
  obtain ⟨⟨c, t, below⟩, -, rfl⟩ := List.mem_map.1 ha
  rw [arm]
  split
  · cases t with
    | none => trivial
    | some x => exact ⟨.inl (proper_returnStmt s x), trivial⟩
  · refine ⟨.inl (Stmt.properAll_append.2 ⟨proper_nextStmts s _, .inl ?_, trivial⟩), trivial⟩
    cases t with
    | none => trivial
    | some x => exact proper_returnStmt s x

theorem proper_body (symbols : Trie) : Stmt.ProperAll false (body s symbols) := by
  refine ⟨.inl (properAll_switchBody (proper_arms s _) trivial), .inl ?_, trivial⟩
  simp [Stmt.Proper, Expr.Proper]

/-! ## Lines -/

/-- The names in the function are words.  The function that tests for the next character is not named
    like the scanner. -/
structure Names : Prop where
  tokenType : isWord s.tokenType = true
  symbolFunctionName : isWord s.symbolFunctionName = true
  scannerType : isWord s.scannerType = true
  makeTokenFunctionName : isWord s.makeTokenFunctionName = true
  errorTokenFunctionName : isWord s.errorTokenFunctionName = true
  matchFunctionName : isWord s.matchFunctionName = true
  matchFunctionName_ne : s.matchFunctionName ≠ "scanner"

/-- A node without children has a value, and so has every child.  The constants of these values are
    words. -/
structure Nameable (node : Node) : Prop where
  leaf : node.isLeaf = true → node.terminal ≠ none
  isWord_own : ∀ x ∈ node.terminal, isWord (constant s.tokenPrefix x.token) = true
  next : ∀ child ∈ node.children, ∃ x, child.2.terminal = some x ∧
    isWord (constant s.tokenPrefix x.token) = true

variable {s}

/-- A node without children has a value, and so has every child, but nothing is below the children. -/
structure Shallow (node : Node) : Prop where
  leaf : node.isLeaf = true → node.terminal ≠ none
  next : ∀ child ∈ node.children, child.2.terminal ≠ none ∧ child.2.edges = .nil

/-- In a trie of symbols of one or two characters, all children of the root are shallow. -/
theorem shallow_of_sound {es : Edges} (hs : es.Sound [])
    (hl : ∀ x ∈ es.terminals, x.value.length ≤ 2) : ∀ child ∈ es.toList, Shallow child.2 := by
  rintro ⟨c, node⟩ hm
  obtain ⟨⟨-, hleaf, -, hbelow, -⟩, hx⟩ := hs.of_mem_toList hm
  refine ⟨fun h => hleaf (Edges.isEmpty_iff.1 h), ?_⟩
  rintro ⟨d, next⟩ hm
  obtain ⟨⟨-, hleaf, -, hbelow, -⟩, hy⟩ := hbelow.of_mem_toList hm
  -- a third level would need a value of three characters
  have hnil : next.edges = .nil := by
    cases he : next.edges with
    | nil => rfl
    | cons e t below rest =>
      rw [he] at hbelow hy
      have hlt : ∀ x ∈ below.terminals ++ t.toList, x.value.length < 3 := by
        intro x hm
        refine Nat.lt_succ_of_le (hl x (hx x (List.mem_append_left _ (hy x ?_))))
        exact List.mem_append_left _ (List.mem_append_left _ hm)
      exact absurd (hbelow.length_lt hlt) (by simp)
  exact ⟨hleaf hnil, hnil⟩

/-- In a trie of symbols of one or two characters, all children of the root can be named. -/
theorem nameable_of_sound {es : Edges} (hs : es.Sound [])
    (hl : ∀ x ∈ es.terminals, x.value.length ≤ 2)
    (hw : ∀ x ∈ es.terminals, isWord (constant s.tokenPrefix x.token) = true) :
    ∀ child ∈ es.toList, Nameable s child.2 := by
  rintro ⟨c, node⟩ hm
  have hshallow := shallow_of_sound hs hl _ hm
  obtain ⟨⟨-, -, -, hbelow, -⟩, hx⟩ := hs.of_mem_toList hm
  refine ⟨hshallow.leaf, fun x h => hw x (hx x (by simp_all)), ?_⟩
  rintro ⟨d, next⟩ hm
  obtain ⟨-, hy⟩ := hbelow.of_mem_toList hm
  obtain ⟨x, ht⟩ := Option.ne_none_iff_exists'.1 (hshallow.next _ hm).1
  have hown : x ∈ next.edges.terminals ++ next.terminal.toList :=
    List.mem_append_right _ (Option.mem_toList.2 ht)
  exact ⟨x, ht, hw x (hx x (List.mem_append_left _ (hy x hown)))⟩

theorem spells_signature (hn : Names s) : Spells (signature s s.symbolFunctionName ++ " \x7b")
    [.word s.tokenType, .word s.symbolFunctionName, .punct .openParen, .word s.scannerType,
      .punct .star, .word "scanner", .punct .comma, .word "char", .word "c", .punct .closeParen,
      .punct .openBrace] := by
  refine spells_of_row [.word s.tokenType, .space, .word s.symbolFunctionName, .punct .openParen,
    .word s.scannerType, .punct .star, .space, .word "scanner", .punct .comma, .space, .word "char",
    .space, .word "c", .punct .closeParen, .space, .punct .openBrace] ?_ ?_
  · simp [signature]
  · simp +decide [hn.tokenType, hn.symbolFunctionName, hn.scannerType]

theorem spells_switch : Spells "switch (c) \x7b"
    [.word "switch", .punct .openParen, .word "c", .punct .closeParen, .punct .openBrace] :=
  spells_of_row [.word "switch", .space, .punct .openParen, .word "c", .punct .closeParen, .space,
    .punct .openBrace] (by simp) (by simp +decide)

theorem spells_default : Spells "default: break;"
    [.word "default", .punct .colon, .word "break", .punct .semicolon] :=
  spells_of_row [.word "default", .punct .colon, .space, .word "break", .punct .semicolon]
    (by simp) (by simp +decide)

theorem spells_openBlock : Spells " \x7b" [.punct .openBrace] :=
  spells_of_row [.space, .punct .openBrace] (by simp) (by simp)

theorem spells_returnSymbol (hn : Names s) {x : Terminal}
    (hx : isWord (constant s.tokenPrefix x.token) = true) :
    Spells ("return " ++ makeToken s x ++ ";") ((returnStmt s x).spelling s.matchFunctionName) := by
  refine spells_of_row [.word "return", .space, .word s.makeTokenFunctionName, .punct .openParen,
    .word "scanner", .punct .comma, .space, .word (constant s.tokenPrefix x.token),
    .punct .closeParen, .punct .semicolon] ?_ ?_
  · simp [makeToken]
  · simp +decide [hn.makeTokenFunctionName, hx]

theorem spells_next (hn : Names s) (c : Char) :
    Spells ("if (" ++ s.matchFunctionName ++ "(scanner, " ++ Literal.char c ++ ")) ")
      ([.word "if", .punct .openParen] ++ (Cond.next c).spelling s.matchFunctionName ++
        [.punct .closeParen]) := by
  refine spells_of_row [.word "if", .space, .punct .openParen, .word s.matchFunctionName,
    .punct .openParen, .word "scanner", .punct .comma, .space, .char c, .punct .closeParen,
    .punct .closeParen, .space] ?_ ?_
  · simp
  · simp +decide [hn.matchFunctionName]

/-- The message may be read back as another text. -/
theorem spells_returnError (hn : Names s) :
    Spells ("return " ++ s.errorTokenFunctionName ++ "(scanner, " ++ Literal.text s.errorMessage ++
        ");")
      ((Stmt.result (.call s.errorTokenFunctionName
        [.name "scanner", .text (message s)])).spelling s.matchFunctionName) := by
  refine spells_of_row [.word "return", .space, .word s.errorTokenFunctionName, .punct .openParen,
    .word "scanner", .punct .comma, .space, .text s.errorMessage, .punct .closeParen,
    .punct .semicolon] ?_ ?_
  · simp
  · simp +decide [hn.errorTokenFunctionName]

/-! ## Steps -/

theorem spelled_returnSymbol (hn : Names s) {x : Terminal}
    (hx : isWord (constant s.tokenPrefix x.token) = true) {lead : String} {ts : List Token}
    (hl : Spells lead ts) (level : Nat) : Spelled (returnSymbol s level lead x)
      (ts ++ (returnStmt s x).spelling s.matchFunctionName) := by
  have h := Spelled.line level (hl.append (spells_returnSymbol hn hx)) .nil
  rw [List.append_nil] at h
  refine .register _ _ ?_
  rw [String.append_assoc, String.append_assoc]
  rwa [String.append_assoc] at h

theorem spelled_nextSteps (hn : Names s) {children : List (Char × Node)}
    (h : ∀ child ∈ children, ∃ x, child.2.terminal = some x ∧
      isWord (constant s.tokenPrefix x.token) = true) (level depth : Nat) :
    Spelled (nextSteps s level depth children)
      (Stmt.spellAll s.matchFunctionName (nextStmts s children)) := by
  induction children with
  | nil => exact .nil
  | cons child children ih =>
    obtain ⟨⟨x, hx, hw⟩, h⟩ := List.forall_mem_cons.1 h
    have hs := (spelled_returnSymbol hn hw (spells_next hn child.1) level).append (ih h)
    rw [nextSteps, hx]
    simpa [nextStmts, hx, Stmt.spellAll, Stmt.spelling] using hs

theorem spelled_fallbackSteps (hn : Names s) {node : Node}
    (h : ∀ x ∈ node.terminal, isWord (constant s.tokenPrefix x.token) = true) (level : Nat) :
    Spelled (fallbackSteps s level node)
      ((closing s node.terminal).spelling s.matchFunctionName) := by
  rw [fallbackSteps]
  cases ht : node.terminal with
  | some x => exact spelled_returnSymbol hn (h x ht) spells_empty level
  | none => exact .report _ (.line level spells_break .nil)

theorem spelled_caseBody (hn : Names s) {node : Node} (h : Nameable s node) (level depth : Nat) :
    Spelled (caseBody s level depth node)
      (Stmt.spellAll s.matchFunctionName (arm s node)) := by
  rw [caseBody, arm]
  split
  · next hleaf =>
    obtain ⟨x, hx⟩ := Option.ne_none_iff_exists'.1 (h.leaf hleaf)
    rw [hx]
    simpa [Stmt.spellAll] using spelled_returnSymbol hn (h.isWord_own x hx) spells_space level
  · have hs := Spelled.line level spells_openBlock <|
      (spelled_nextSteps hn h.next (level + 1) (depth + 1)).append <|
      (spelled_fallbackSteps hn h.isWord_own (level + 1)).append <|
      .line level spells_closeBrace .nil
    simpa [Stmt.spellAll, Stmt.spelling] using hs

theorem spelled_cases (hn : Names s) {children : List (Char × Node)}
    (h : ∀ child ∈ children, Nameable s child.2) :
    Spelled (children.flatMap fun child =>
        .write 0 ("case " ++ Literal.char child.1 ++ ":") :: caseBody s 0 1 child.2)
      (spellArms s.matchFunctionName (arms s children)) := by
  induction children with
  | nil => exact .nil
  | cons child children ih =>
    obtain ⟨hc, h⟩ := List.forall_mem_cons.1 h
    rw [List.flatMap_cons, arms, List.map_cons, spellArms_cons]
    exact .write 0 (spells_case child.1) ((spelled_caseBody hn hc 0 1).append (ih h))

/-! ## The function -/

variable (s) in
/-- The tokens before the body of the function. -/
def headTokens : List Token :=
  [.word s.tokenType, .word s.symbolFunctionName, .punct .openParen, .word s.scannerType,
    .punct .star, .word "scanner", .punct .comma, .word "char", .word "c", .punct .closeParen]

theorem spelled_steps (hn : Names s) {symbols : Trie}
    (h : ∀ child ∈ symbols.root.children, Nameable s child.2) :
    Spelled (steps s symbols) (headTokens s ++ .punct .openBrace ::
      (Stmt.spellAll s.matchFunctionName (body s symbols) ++ [.punct .closeBrace])) := by
  have hb := Spelled.line 0 spells_switch <| (spelled_cases hn h).append <|
    .line 0 spells_default <| .line 0 spells_closeBrace .nil
  have hs := Spelled.line 0 (spells_signature hn) <| (hb.map_deeper 1).append <|
    .line 1 spells_empty <| .line 1 (spells_returnError hn) <| .line 0 spells_closeBrace .nil
  simpa [steps, branchSteps, headTokens, body, Stmt.spellAll, Stmt.spelling, Subject.spelling]
    using hs

/-- **The emission succeeds, and its code is read as the statements of the function.** -/
theorem function_of_emitNew (hn : Names s) {symbols : Trie}
    (h : ∀ child ∈ symbols.root.children, Nameable s child.2) (stem : String) : ∃ text,
      emitNew stem (steps s symbols) = ⟨reported (steps s symbols),
        .ok ⟨text, Registry.ofTokens stem (registered (steps s symbols))⟩⟩ ∧
      function text = .ok (body s symbols) := by
  obtain ⟨text, he, hr⟩ := tokens_of_emitNew stem (spelled_steps hn h)
  refine ⟨text, he, ?_⟩
  have hhead : .punct .openBrace ∉ headTokens s := by simp [headTokens]
  have hf := functionBody_spelling hn.matchFunctionName_ne (proper_body s symbols) hhead
  unfold function
  rw [hr]
  exact hf

end SymbolDispatch

end ScannerDispatch
