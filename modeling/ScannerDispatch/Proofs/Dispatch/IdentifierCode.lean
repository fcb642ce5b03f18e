import ScannerDispatch.Proofs.Code.Switch
import ScannerDispatch.Proofs.Emission.Spelling
import ScannerDispatch.Proofs.Trie.Values

/-!
The statements of the identifier function.

* `IdentifierDispatch.body` are the statements that the function consists of, built from the trie in
  the way in which its lines are emitted.
* `Names` and `Spellable` say that names are words and that texts have literals of their own.
* `function_of_emitNew`: under these conditions the emission succeeds, and the emitted code is read as
  the statements of `body`.
-/

namespace ScannerDispatch

open Code

namespace IdentifierDispatch

variable (s : Settings)

/-! ## Statements -/

/-- Returns the result of comparing the lexeme from `start` on with the rest of a keyword. -/
def returnStmt (start : Nat) (keyword : Terminal) : Stmt :=
  let rest := keyword.value.toList.drop start
  .result (.call s.checkKeywordFunctionName [.name "scanner", .int start, .int rest.length,
    .text (String.ofList rest), .name (constant s.tokenPrefix keyword.token)])

/-- A switch on the character at `depth`. -/
def switchStmt (depth : Nat) (arms : List (Char × List Stmt)) : Stmt :=
  .switch (.start depth) (switchBody arms .empty)

/-- What stands after the switch at a node: the lexeme may end there. -/
def closing (consumed : Nat) : Option Terminal → Stmt
  | some keyword => returnStmt s consumed keyword
  | none => .leave

/-- What stands at a node from which several keywords can still be reached. -/
def openStmts (consumed : Nat) (terminal : Option Terminal) (arms : List (Char × List Stmt)) :
    List Stmt :=
  [.when (.longerThan consumed) (.block [switchStmt consumed arms]), closing s consumed terminal]

/-- The arms of a switch on the character at `depth`. -/
def arms (depth : Nat) : Edges → List (Char × List Stmt)
  | .nil => []
  | .cons c terminal below rest =>
    (c, match below.only? terminal with
      | some keyword => [returnStmt s (depth + 1) keyword]
      | none => openStmts s (depth + 1) terminal (arms (depth + 1) below)) :: arms depth rest

/-- The statements of the function for the keywords of a trie. -/
def body (keywords : Trie) : List Stmt :=
  [switchStmt 0 (arms s 0 keywords.edges), .result (.name (constant s.tokenPrefix s.identTokenName))]

theorem proper_closing (consumed : Nat) (terminal : Option Terminal) :
    (closing s consumed terminal).Proper := by
  cases terminal <;> simp [closing, returnStmt, Stmt.Proper, Expr.Proper]

theorem proper_switchStmt (depth : Nat) {arms : List (Char × List Stmt)}
    (h : ∀ arm ∈ arms, Stmt.ProperAll false arm.2) : (switchStmt depth arms).Proper :=
  properAll_switchBody h trivial

theorem proper_arms (depth : Nat) (es : Edges) :
    ∀ arm ∈ arms s depth es, Stmt.ProperAll false arm.2 := by
  induction es generalizing depth with
  | nil => simp [arms]
  | cons c t below rest ihb ihr =>
    refine List.forall_mem_cons.2 ⟨?_, ihr depth⟩
    cases below.only? t with
    | some k => exact ⟨.inl (proper_closing s (depth + 1) (some k)), trivial⟩
    | none =>
      have hb := proper_switchStmt (depth + 1) (ihb (depth + 1))
      exact ⟨.inl ⟨.inl hb, trivial⟩, .inl (proper_closing s (depth + 1) t), trivial⟩

theorem proper_body (keywords : Trie) : Stmt.ProperAll false (body s keywords) :=
  ⟨.inl (proper_switchStmt 0 (proper_arms s 0 keywords.edges)), .inl trivial, trivial⟩

/-! ## Lines -/

/-- The names in the function are words. -/
structure Names : Prop where
  tokenEnumType : isWord s.tokenEnumType = true
  identFunctionName : isWord s.identFunctionName = true
  scannerType : isWord s.scannerType = true
  checkKeywordFunctionName : isWord s.checkKeywordFunctionName = true
  identConstant : isWord (constant s.tokenPrefix s.identTokenName) = true

/-- The constant of a value is a word, and the value fits into a literal and into memory. -/
structure Spellable (x : Terminal) : Prop where
  constant : isWord (constant s.tokenPrefix x.token) = true
  length_lt : x.value.length < wordBound
  not_nulBeforeOctal : ¬ NulBeforeOctal x.value.toList

theorem spells_switch {depth : Nat} (h : depth < wordBound) :
    Spells ("switch (scanner->start[" ++ toString depth ++ "]) \x7b")
      [.word "switch", .punct .openParen, .word "scanner", .punct .arrow, .word "start",
        .punct .openBracket, .int depth, .punct .closeBracket, .punct .closeParen,
        .punct .openBrace] := by
  refine spells_of_row [.word "switch", .space, .punct .openParen, .word "scanner", .punct .arrow,
    .word "start", .punct .openBracket, .int depth, .punct .closeBracket, .punct .closeParen, .space,
    .punct .openBrace] ?_ ?_
  · simp
  · simp +decide [h]

theorem spells_guard {consumed : Nat} (h : consumed < wordBound) :
    Spells ("if (scanner->current - scanner->start > " ++ toString consumed ++ ") \x7b")
      [.word "if", .punct .openParen, .word "scanner", .punct .arrow, .word "current",
        .punct .minus, .word "scanner", .punct .arrow, .word "start", .punct .greater,
        .int consumed, .punct .closeParen, .punct .openBrace] := by
  refine spells_of_row [.word "if", .space, .punct .openParen, .word "scanner", .punct .arrow,
    .word "current", .space, .punct .minus, .space, .word "scanner", .punct .arrow, .word "start",
    .space, .punct .greater, .space, .int consumed, .punct .closeParen, .space,
    .punct .openBrace] ?_ ?_
  · simp
  · simp +decide [h]

theorem spells_default : Spells "default: ;" [.word "default", .punct .colon, .punct .semicolon] :=
  spells_of_row [.word "default", .punct .colon, .space, .punct .semicolon] (by simp)
    (by simp +decide)

theorem spells_signature (hn : Names s) : Spells (signature s ++ " \x7b")
    [.word s.tokenEnumType, .word s.identFunctionName, .punct .openParen, .word s.scannerType,
      .punct .star, .word "scanner", .punct .closeParen, .punct .openBrace] := by
  refine spells_of_row [.word s.tokenEnumType, .space, .word s.identFunctionName,
    .punct .openParen, .word s.scannerType, .punct .star, .space, .word "scanner",
    .punct .closeParen, .space, .punct .openBrace] ?_ ?_
  · simp [signature]
  · simp +decide [hn.tokenEnumType, hn.identFunctionName, hn.scannerType]

theorem spells_returnIdent (hn : Names s) :
    Spells ("return " ++ constant s.tokenPrefix s.identTokenName ++ ";")
      [.word "return", .word (constant s.tokenPrefix s.identTokenName), .punct .semicolon] := by
  refine spells_of_row [.word "return", .space, .word (constant s.tokenPrefix s.identTokenName),
    .punct .semicolon] ?_ ?_
  · simp
  · simp +decide [hn.identConstant]

/-- A comparison with the rest of a keyword is read back with the same rest. -/
theorem spells_returnKeyword (matcher : String) (hn : Names s) {x : Terminal} (hx : Spellable s x)
    {start : Nat} (hs : start < wordBound) {lead : String} (hl : Spells lead []) :
    Spells (lead ++ "return " ++ checkKeyword s start x ++ ";")
      ((returnStmt s start x).spelling matcher) := by
  have hr : reread (x.value.toList.drop start) = x.value.toList.drop start :=
    reread_of_not_nulBeforeOctal fun h => hx.not_nulBeforeOctal (nulBeforeOctal_of_drop h)
  have hlen : (x.value.toList.drop start).length < wordBound := by
    have := hx.length_lt
    rw [← String.length_toList] at this
    rw [List.length_drop]; omega
  have hp : Spells ("return " ++ checkKeyword s start x ++ ";") _ :=
    spells_of_row [.word "return", .space, .word s.checkKeywordFunctionName, .punct .openParen,
      .word "scanner", .punct .comma, .space, .int start, .punct .comma, .space,
      .int (x.value.toList.drop start).length, .punct .comma, .space,
      .text (String.ofList (x.value.toList.drop start)), .punct .comma, .space,
      .word (constant s.tokenPrefix x.token), .punct .closeParen, .punct .semicolon]
      (by simp [checkKeyword])
      (by simp +decide [-List.length_drop, hlen, hs, hn.checkKeywordFunctionName, hx.constant])
  simp only [Piece.tokensOf, Piece.token?, List.filterMap_cons, List.filterMap_nil,
    String.toList_ofList, hr] at hp
  rw [String.append_assoc, String.append_assoc]
  exact hl.append hp

/-! ## Steps -/

variable {s}

theorem spelled_returnKeyword (matcher : String) (hn : Names s) {x : Terminal} (hx : Spellable s x)
    {start : Nat} (hs : start < wordBound) {lead : String} (hl : Spells lead []) (level : Nat) :
    Spelled (returnKeyword s level lead start x) ((returnStmt s start x).spelling matcher) := by
  have h := Spelled.line level (spells_returnKeyword s matcher hn hx hs hl) .nil
  rw [List.append_nil] at h
  exact .register _ _ h

theorem spelled_switchSteps (matcher : String) (level : Nat) {depth : Nat} (hd : depth < wordBound)
    {cases : List Step} {arms : List (Char × List Stmt)}
    (h : Spelled cases (spellArms matcher arms)) :
    Spelled (switchSteps level depth cases) ((switchStmt depth arms).spelling matcher) := by
  have h := Spelled.line level (spells_switch hd) (h.append
    (.line level spells_default (.line level spells_closeBrace .nil)))
  simpa [switchSteps, switchStmt, Stmt.spelling, Stmt.spellAll, Subject.spelling, Label.spelling]
    using h

theorem spelled_openBody (matcher : String) (hn : Names s) {level consumed : Nat}
    (hc : consumed < wordBound) {terminal : Option Terminal} (ht : ∀ x ∈ terminal, Spellable s x)
    {cases : List Step} {arms : List (Char × List Stmt)}
    (h : Spelled cases (spellArms matcher arms)) :
    Spelled (openBody s level consumed terminal cases)
      (Stmt.spellAll matcher (openStmts s consumed terminal arms)) := by
  have hs := spelled_switchSteps matcher (level + 1) hc h
  have hopen {last : Stmt} {steps : List Step} (hl : Spelled steps (last.spelling matcher)) :
      Spelled (.line level "" ::
        .line level ("if (scanner->current - scanner->start > " ++ toString consumed ++ ") \x7b") ::
        switchSteps (level + 1) consumed cases ++ .line level "\x7d" :: steps)
        (Stmt.spellAll matcher [.when (.longerThan consumed)
          (.block [switchStmt consumed arms]), last]) := by
    have h := Spelled.line level spells_empty <| .line level (spells_guard hc) <| hs.append <|
      .line level spells_closeBrace hl
    simpa [Stmt.spelling, Stmt.spellAll, Cond.spelling] using h
  cases terminal with
  | some x => exact hopen (spelled_returnKeyword matcher hn (ht x rfl) hc spells_empty level)
  | none => exact hopen (.line level spells_break .nil)

/-- The cases of a switch are read as its arms. -/
theorem spelled_caseList (matcher : String) (hn : Names s) {es : Edges} {p : List Char}
    (hs : es.Sound p) (ht : ∀ x ∈ es.terminals, Spellable s x) (level : Nat) :
    Spelled (caseList s level p.length es) (spellArms matcher (arms s p.length es)) := by
  induction es generalizing p level with
  | nil => exact .nil
  | cons c t below rest ihb ihr =>
    have htb : ∀ x ∈ below.terminals ++ t.toList, Spellable s x := fun x hx =>
      ht x (List.mem_append_left _ hx)
    have hrest := ihr hs.2.2.2.2 (fun x hx => ht x (List.mem_append_right _ hx)) level
    have hlen : (p ++ [c]).length = p.length + 1 := by simp
    have hdepth : p.length + 1 < wordBound := hs.length_lt fun x hx => (htb x hx).length_lt
    rw [caseList, arms, List.cons_append, spellArms_cons]
    refine .write level (spells_case c) (.append ?_ hrest)
    cases ho : below.only? t with
    | some k =>
      have hk := htb k (Edges.mem_terminals_of_only? ho)
      have h := spelled_returnKeyword matcher hn hk hdepth spells_space (level + 1)
      simpa [Stmt.spellAll] using h
    | none =>
      have hb : below.isEmpty = false := by
        rw [Bool.eq_false_iff, Ne, Edges.isEmpty_iff]
        exact hs.ne_nil_of_only?_eq_none ho
      have hcases := ihb hs.2.2.2.1 (fun x hx => htb x (List.mem_append_left _ hx)) (level + 2)
      rw [hlen] at hcases
      simp only [hb, Bool.false_eq_true, if_false]
      exact spelled_openBody matcher hn hdepth
        (fun x hx => htb x (List.mem_append_right _ (by simpa using hx))) hcases

/-! ## The function -/

variable (s) in
/-- The tokens before the body of the function. -/
def headTokens : List Token :=
  [.word s.tokenEnumType, .word s.identFunctionName, .punct .openParen, .word s.scannerType,
    .punct .star, .word "scanner", .punct .closeParen]

theorem spelled_steps (matcher : String) (hn : Names s) {keywords : Trie}
    (hs : keywords.edges.Sound []) (ht : ∀ x ∈ keywords.edges.terminals, Spellable s x) :
    Spelled (steps s keywords) (headTokens s ++ .punct .openBrace ::
      (Stmt.spellAll matcher (body s keywords) ++ [.punct .closeBrace])) := by
  have hb := spelled_switchSteps matcher 0 (show 0 < wordBound by decide)
    (spelled_caseList matcher hn hs ht 0)
  have h := Spelled.register .skip s.identTokenName <| .line 0 (spells_signature s hn) <|
    (hb.map_deeper 1).append <| .line 1 (spells_returnIdent s hn) <|
    .line 0 spells_closeBrace .nil
  simpa [steps, branchSteps, Trie.root, headTokens, body, Stmt.spellAll, Stmt.spelling,
    Expr.spelling] using h

/-- **The emission succeeds, and its code is read as the statements of the function.** -/
theorem function_of_emitNew (hn : Names s) {keywords : Trie} (hs : keywords.edges.Sound [])
    (ht : ∀ x ∈ keywords.edges.terminals, Spellable s x) (stem : String) : ∃ text,
      emitNew stem (steps s keywords) = ⟨reported (steps s keywords),
        .ok ⟨text, Registry.ofTokens stem (registered (steps s keywords))⟩⟩ ∧
      function text = .ok (body s keywords) := by
  obtain ⟨text, he, hr⟩ := tokens_of_emitNew stem (spelled_steps "match" hn hs ht)
  refine ⟨text, he, ?_⟩
  have hmatch : "match" ≠ "scanner" := by decide
  have hhead : .punct .openBrace ∉ headTokens s := by simp [headTokens]
  have hf := functionBody_spelling hmatch (proper_body s keywords) hhead
  unfold function
  rw [hr]
  exact hf

end IdentifierDispatch

end ScannerDispatch
