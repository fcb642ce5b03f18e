import ScannerDispatch.Proofs.Dispatch.IdentifierRun
import ScannerDispatch.Proofs.Dispatch.SymbolRun

/-!
The constants that the generated functions refer to, and the constants that are registered for them.

* `Stmt.references` are the constants in a statement with the classes that their use gives them.
* `registered_steps`: each function registers one constant for every reference, with its class.
* `references_perm` and `exists_group_declared`: a source file refers to the constants of its
  registry, each as often as it stands there, and all of them are listed in the enumeration.
-/

namespace ScannerDispatch

namespace Code

/-- The constant that is referred to where a value is returned.  A name alone is the one for
    identifiers, a comparison is one with a keyword, and a token that is made after `read` characters
    is that of a symbol with so many characters. -/
def Expr.references (read : Nat) : Expr → List (TokenClass × String)
  | .name token => [(.skip, token)]
  | .call _ [.name _, .int _, .int _, .text _, .name token] => [(.keyword, token)]
  | .call _ [.name _, .name token] => [(if read = 1 then .oneChar else .twoChar, token)]
  | .call _ _ => []

mutual

/-- The constants that a statement refers to, in order, when `read` characters have been read. -/
def Stmt.references (read : Nat) : Stmt → List (TokenClass × String)
  | .empty | .leave | .label _ => []
  | .result e => e.references read
  | .when (.longerThan _) body => body.references read
  | .when (.next _) body => body.references (read + 1)
  | .block body | .switch _ body => referencesAll read body

/-- The constants that statements refer to, in order. -/
def Stmt.referencesAll (read : Nat) : List Stmt → List (TokenClass × String)
  | [] => []
  | s :: body => s.references read ++ referencesAll read body

end

theorem Stmt.referencesAll_append (read : Nat) (xs ys : List Stmt) :
    referencesAll read (xs ++ ys) = referencesAll read xs ++ referencesAll read ys := by
  induction xs with
  | nil => simp [referencesAll]
  | cons x xs ih => simp [referencesAll, ih]

theorem Stmt.referencesAll_switchBody (read : Nat) (arms : List (Char × List Stmt)) (last : Stmt) :
    referencesAll read (switchBody arms last) =
      (arms.flatMap fun arm => referencesAll read arm.2) ++ last.references read := by
  induction arms with
  | nil => simp [switchBody, referencesAll, references]
  | cons arm arms ih =>
    rw [switchBody_cons, referencesAll, referencesAll_append, ih, references]
    simp

end Code

open Code

/-- Tokens with their constants in place of their names. -/
def withConstants (s : Settings) (tokens : List (TokenClass × String)) :
    List (TokenClass × String) :=
  tokens.map fun t => (t.1, constant s.tokenPrefix t.2)

@[simp] theorem withConstants_append (s : Settings) (xs ys : List (TokenClass × String)) :
    withConstants s (xs ++ ys) = withConstants s xs ++ withConstants s ys := by
  simp [withConstants]

/-! ## Keywords -/

namespace IdentifierDispatch

variable (s : Settings)

theorem registered_caseList (level depth : Nat) (es : Edges) :
    registered (caseList s level depth es) = es.terminals.map fun x => (.keyword, x.token) := by
  induction es generalizing level depth with
  | nil => rfl
  | cons c t below rest ihb ihr =>
    rw [caseList, List.cons_append, registered_write, registered_append, ihr, Edges.terminals,
      List.map_append]
    congr 1
    cases ho : below.only? t with
    | some k =>
      rw [Edges.terminals_of_only? ho]
      rfl
    | none =>
      cases hb : below.isEmpty with
      | true =>
        rw [Edges.isEmpty_iff.1 hb] at ho ⊢
        have ht : t = none := ho
        rw [ht]
        rfl
      | false =>
        have h := ihb (level + 2) (depth + 1)
        cases t <;> simp [openBody, switchSteps, returnKeyword, h]

/-- The tokens of the function: the one for identifiers, and the keywords as they are left. -/
theorem registered_steps_eq (keywords : Trie) : registered (steps s keywords) =
    (.skip, s.identTokenName) :: keywords.edges.terminals.map fun x => (.keyword, x.token) := by
  have hb : registered (branchSteps s 0 keywords.root) =
      keywords.edges.terminals.map fun x => (.keyword, x.token) := by
    simp [branchSteps, switchSteps, registered_caseList, Trie.root]
  rw [steps, List.cons_append, List.cons_append, registered_register, registered_line,
    registered_append, registered_map_deeper, hb]
  simp

theorem references_arms (read depth : Nat) (es : Edges) :
    ((arms s depth es).flatMap fun arm => Stmt.referencesAll read arm.2) =
      withConstants s (es.terminals.map fun x => (.keyword, x.token)) := by
  induction es generalizing depth with
  | nil => rfl
  | cons c t below rest ihb ihr =>
    rw [arms, List.flatMap_cons, ihr, Edges.terminals, List.map_append, withConstants_append]
    congr 1
    cases ho : below.only? t with
    | some k =>
      rw [Edges.terminals_of_only? ho]
      rfl
    | none =>
      have h := ihb (depth + 1)
      rw [List.map_append, withConstants_append, ← h]
      cases t <;>
        simp [openStmts, switchStmt, closing, returnStmt, Stmt.referencesAll, Stmt.references,
          Stmt.referencesAll_switchBody, Expr.references, withConstants]

/-- One constant is registered for every reference: first the one for identifiers, which is returned
    at the end. -/
theorem registered_steps (keywords : Trie) : ∃ refs,
    withConstants s (registered (steps s keywords)) =
      (.skip, constant s.tokenPrefix s.identTokenName) :: refs ∧
    Stmt.referencesAll 1 (body s keywords) =
      refs ++ [(.skip, constant s.tokenPrefix s.identTokenName)] ∧
    ∀ ref ∈ refs, ref.1 ≠ .skip := by
  refine ⟨withConstants s (keywords.edges.terminals.map fun x => (.keyword, x.token)), ?_, ?_, ?_⟩
  · rw [registered_steps_eq]
    rfl
  · simp [body, switchStmt, Stmt.referencesAll, Stmt.references, Stmt.referencesAll_switchBody,
      references_arms, Expr.references]
  · simp [withConstants]

end IdentifierDispatch

/-! ## Symbols -/

namespace SymbolDispatch

variable (s : Settings)

/-- The values at a node and at its children have one and two characters. -/
structure Measured (node : Node) : Prop where
  own : ∀ x ∈ node.terminal, x.value.length = 1
  next : ∀ child ∈ node.children, ∀ x ∈ child.2.terminal, x.value.length = 2

theorem measured_of_sound {es : Edges} (hs : es.Sound []) :
    ∀ child ∈ es.toList, Measured child.2 := by
  rintro ⟨c, node⟩ hm
  obtain ⟨⟨hown, -, -, hbelow, -⟩, -⟩ := hs.of_mem_toList hm
  constructor
  · intro x hx
    rw [← String.length_toList, hown x hx]
    rfl
  · rintro ⟨d, next⟩ hm x hx
    obtain ⟨⟨hown, -⟩, -⟩ := hbelow.of_mem_toList hm
    rw [← String.length_toList, hown x hx]
    rfl

theorem references_returnStmt {read : Nat} {x : Terminal} (h : x.value.length = read) :
    (returnStmt s x).references read =
      [(.ofSymbol x.value, constant s.tokenPrefix x.token)] := by
  rw [returnStmt, Stmt.references, Expr.references, TokenClass.ofSymbol, h]

theorem references_nextStmts {children : List (Char × Node)}
    (hn : ∀ child ∈ children, ∃ x, child.2.terminal = some x ∧
      isWord (constant s.tokenPrefix x.token) = true)
    (hm : ∀ child ∈ children, ∀ x ∈ child.2.terminal, x.value.length = 2) (level depth : Nat) :
    withConstants s (registered (nextSteps s level depth children)) =
      Stmt.referencesAll 1 (nextStmts s children) := by
  induction children with
  | nil => rfl
  | cons child children ih =>
    obtain ⟨⟨x, hx, -⟩, hn⟩ := List.forall_mem_cons.1 hn
    obtain ⟨hm₁, hm⟩ := List.forall_mem_cons.1 hm
    have hr := references_returnStmt s (hm₁ x hx)
    rw [nextSteps, hx, nextStmts, List.filterMap_cons, hx]
    simp only [Option.map_some, Stmt.referencesAll, Stmt.references, hr]
    rw [registered_append, withConstants_append, ih hn hm]
    rfl

/-- At a node, one constant is registered for every reference. -/
theorem references_arm {node : Node} (hn : Nameable s node) (hm : Measured node)
    (level depth : Nat) : withConstants s (registered (caseBody s level depth node)) =
      Stmt.referencesAll 1 (arm s node) := by
  have hown : ∀ x ∈ node.terminal, (returnStmt s x).references 1 =
      [(.ofSymbol x.value, constant s.tokenPrefix x.token)] :=
    fun x hx => references_returnStmt s (hm.own x hx)
  rw [caseBody, arm]
  split
  · cases ht : node.terminal with
    | none => rfl
    | some x => simp [returnSymbol, withConstants, Stmt.referencesAll, hown x ht]
  · have hnext := references_nextStmts s hn.next hm.next (level + 1) (depth + 1)
    simp only [List.cons_append, registered_line, registered_append, withConstants_append, hnext,
      Stmt.referencesAll, Stmt.references, Stmt.referencesAll_append, List.append_nil,
      List.append_assoc]
    congr 1
    cases ht : node.terminal with
    | none => simp [fallbackSteps, closing, ht, withConstants, Stmt.references]
    | some x => simp [fallbackSteps, closing, ht, returnSymbol, withConstants, hown x ht]

/-- One constant is registered for every reference. -/
theorem registered_steps {symbols : Trie} (hs : symbols.edges.Sound [])
    (hn : ∀ child ∈ symbols.root.children, Nameable s child.2) :
    withConstants s (registered (steps s symbols)) = Stmt.referencesAll 1 (body s symbols) := by
  have hcases : ∀ children : List (Char × Node), (∀ child ∈ children, Nameable s child.2) →
      (∀ child ∈ children, Measured child.2) →
      withConstants s (registered (children.flatMap fun child =>
        .write 0 ("case " ++ Literal.char child.1 ++ ":") :: caseBody s 0 1 child.2)) =
      (arms s children).flatMap fun arm => Stmt.referencesAll 1 arm.2 := by
    intro children
    induction children with
    | nil => exact fun _ _ => rfl
    | cons child children ih =>
      intro hn hm
      obtain ⟨hn₁, hn⟩ := List.forall_mem_cons.1 hn
      obtain ⟨hm₁, hm⟩ := List.forall_mem_cons.1 hm
      rw [List.flatMap_cons, List.cons_append, registered_write, registered_append,
        withConstants_append, references_arm s hn₁ hm₁, ih hn hm]
      rfl
  have hb : withConstants s (registered (branchSteps s 0 symbols.root)) =
      (arms s symbols.root.children).flatMap fun arm => Stmt.referencesAll 1 arm.2 := by
    rw [← hcases _ hn (measured_of_sound hs)]
    simp [branchSteps]
  rw [steps, List.cons_append, registered_line, registered_append, registered_map_deeper,
    withConstants_append, hb]
  simp [body, Stmt.referencesAll, Stmt.references, Stmt.referencesAll_switchBody, Expr.references,
    withConstants]

theorem class_returnStmt (read : Nat) (x : Terminal) :
    ∀ ref ∈ (returnStmt s x).references read, ref.1 ≠ .skip := by
  rw [returnStmt, Stmt.references, Expr.references]
  split <;> simp

theorem class_arm (node : Node) : ∀ ref ∈ Stmt.referencesAll 1 (arm s node), ref.1 ≠ .skip := by
  have hnext : ∀ children, ∀ ref ∈ Stmt.referencesAll 1 (nextStmts s children), ref.1 ≠ .skip := by
    intro children
    induction children with
    | nil => simp [nextStmts, Stmt.referencesAll]
    | cons child children ih =>
      rw [nextStmts, List.filterMap_cons]
      cases child.2.terminal with
      | none => exact ih
      | some x => exact List.forall_mem_append.2 ⟨class_returnStmt s 2 x, ih⟩
  rw [arm]
  split
  · cases node.terminal with
    | none => simp [Stmt.referencesAll]
    | some x => simpa [Stmt.referencesAll] using class_returnStmt s 1 x
  · rw [Stmt.referencesAll, Stmt.references, Stmt.referencesAll_append]
    have hclosing : ∀ ref ∈ Stmt.referencesAll 1 [closing s node.terminal], ref.1 ≠ .skip := by
      cases node.terminal with
      | none => simp [closing, Stmt.referencesAll, Stmt.references]
      | some x => simpa [closing, Stmt.referencesAll] using class_returnStmt s 1 x
    rw [Stmt.referencesAll, List.append_nil]
    exact List.forall_mem_append.2 ⟨hnext _, hclosing⟩

/-- The function for symbols never returns the constant for identifiers. -/
theorem class_body (symbols : Trie) :
    ∀ ref ∈ Stmt.referencesAll 1 (body s symbols), ref.1 ≠ .skip := by
  intro ref hr
  simp only [body, Stmt.referencesAll, Stmt.references, Stmt.referencesAll_switchBody,
    Expr.references, List.append_nil, arms, List.flatMap_map] at hr
  obtain ⟨child, -, hc⟩ := List.mem_flatMap.1 hr
  exact class_arm s child.2 ref hc

end SymbolDispatch

section
variable (s : Settings) (keywords : Trie) {symbols : Trie}

/-- Both functions together refer to what both emissions register. -/
theorem references_perm (hs : symbols.edges.Sound [])
    (hn : ∀ child ∈ symbols.root.children, SymbolDispatch.Nameable s child.2) :
    (Stmt.referencesAll 1 (IdentifierDispatch.body s keywords) ++
      Stmt.referencesAll 1 (SymbolDispatch.body s symbols)).Perm
    (withConstants s (registered (IdentifierDispatch.steps s keywords)) ++
      withConstants s (registered (SymbolDispatch.steps s symbols))) := by
  obtain ⟨refs, hreg, hrefs, -⟩ := IdentifierDispatch.registered_steps s keywords
  rw [hreg, hrefs, SymbolDispatch.registered_steps s hs hn]
  exact (List.perm_append_singleton _ refs).append_right _

/-- Only the constant for identifiers is referred to in a class without a heading. -/
theorem eq_of_class_skip {ref : TokenClass × String}
    (h : ref ∈ Stmt.referencesAll 1 (IdentifierDispatch.body s keywords) ++
      Stmt.referencesAll 1 (SymbolDispatch.body s symbols)) (hc : ref.1 = .skip) :
    ref.2 = constant s.tokenPrefix s.identTokenName := by
  obtain ⟨refs, -, hrefs, hskip⟩ := IdentifierDispatch.registered_steps s keywords
  rw [hrefs] at h
  rcases List.mem_append.1 h with h | h
  · rcases List.mem_append.1 h with h | h
    · exact absurd hc (hskip ref h)
    · rw [List.mem_singleton.1 h]
  · exact absurd hc (SymbolDispatch.class_body s symbols ref h)

end

/-! ## Enumerations -/

namespace Registry

theorem mem_names_iff {r : Registry} {c : TokenClass} {name : String} :
    name ∈ r.names c ↔ (c, name) ∈ r.entries := by
  rw [names, List.mem_filterMap]
  constructor
  · rintro ⟨⟨d, n⟩, hm, he⟩
    obtain ⟨rfl, rfl⟩ : d = c ∧ n = name := by simpa using he
    exact hm
  · exact fun h => ⟨(c, name), h, by simp⟩

theorem registerAll_eq (r : Registry) (c : TokenClass) (names : List String) :
    r.registerAll c names = ⟨r.stem, r.entries ++ names.map fun n => (c, constant r.stem n)⟩ := by
  induction names generalizing r with
  | nil => simp [registerAll]
  | cons name names ih =>
    rw [show r.registerAll c (name :: names) = (r.register c name).registerAll c names from rfl, ih]
    simp [register]

end Registry

/-- Every constant is listed in the enumeration, unless its class has no heading. -/
theorem Enumeration.exists_group {r : Registry} {c : TokenClass} {name : String}
    (h : (c, name) ∈ r.entries) (hc : c ≠ .skip) :
    ∃ group ∈ Enumeration.groups r, name ∈ group.names := by
  obtain ⟨heading, hh⟩ := Option.isSome_iff_exists.1 (TokenClass.isRendered_iff.2 hc)
  refine ⟨⟨heading, r.names c⟩, List.mem_filterMap.2 ⟨c, TokenClass.mem_all c, ?_⟩, ?_⟩
  · rw [hh]
    rfl
  · exact Registry.mem_names_iff.2 h

namespace Generator

/-- What is registered for a source file is listed in the enumeration.  A class without a heading will
    do for the constants of literals, as these are registered once more. -/
theorem exists_group_declared {g : Generator} {r : Registry} {ref : TokenClass × String}
    (h : ref ∈ r.entries)
    (hl : ref.1 = .skip → ∃ name ∈ g.config.tokens.literals, ref.2 = constant r.stem name) :
    ∃ group ∈ Enumeration.groups (g.declared r), ref.2 ∈ group.names := by
  have he : (g.declared r).entries = r.entries ++
      g.config.tokens.literals.map (fun n => (.literal, constant r.stem n)) ++
      g.config.tokens.specials.map (fun n => (.special, constant r.stem n)) := by
    rw [declared, Registry.registerAll_eq, Registry.registerAll_eq]
  by_cases hc : ref.1 = .skip
  · obtain ⟨name, hm, hn⟩ := hl hc
    have hr : (TokenClass.literal, ref.2) ∈ (g.declared r).entries := by
      rw [he, hn]
      exact List.mem_append_left _ (List.mem_append_right _ (List.mem_map.2 ⟨name, hm, rfl⟩))
    exact Enumeration.exists_group hr (by simp)
  · have hr : ref ∈ (g.declared r).entries := by
      rw [he]
      exact List.mem_append_left _ (List.mem_append_left _ h)
    exact Enumeration.exists_group hr hc

/-- The functions of a source file: the statements that its two parts are read as. -/
def Functions (g : Generator) (source : GeneratedCode) (identifier symbol : List Stmt) : Prop :=
  ∃ i s, g.identifierCode.result = .ok i ∧ g.symbolCode.result = .ok s ∧
    source.text = includeLines g.config.includes.sourceFile ++ i.text ++ "\n" ++ s.text ∧
    function i.text = .ok identifier ∧ function s.text = .ok symbol

/-- A source file joins both functions and their registries. -/
theorem source_eq {g : Generator} {i s : GeneratedCode} (hi : g.identifierCode.result = .ok i)
    (hs : g.symbolCode.result = .ok s) : g.source.result = .ok
      { text := includeLines g.config.includes.sourceFile ++ i.text ++ "\n" ++ s.text
        registry := i.registry.merge s.registry } := by
  rw [source, Logged.result_bind hi, Logged.result_bind hs]
  rfl

variable {d : ConfigDocument} {config : Config}

/-- **Source and enumeration agree.**  The functions of a source file refer to the constants of its
    registry, each as often as it is registered and in the class under which it is registered.  The
    enumeration that is generated for this source lists every one of them. -/
theorem references_perm_entries (hd : (Config.ofDocument d).result = .ok config)
    (hi : IdentifierDispatch.Names config.settings) (hs : SymbolDispatch.Names config.settings)
    (hk : ∀ keyword ∈ config.tokens.keywords,
      isWord (constant config.settings.tokenPrefix keyword) = true)
    (hl : ∀ keyword ∈ config.tokens.keywords, keyword.length < wordBound)
    (hw : ∀ symbol ∈ config.tokens.symbols.entries,
      isWord (constant config.settings.tokenPrefix symbol.1) = true) :
    ∃ source identifier symbol, (ofConfig config).source.result = .ok source ∧
      Functions (ofConfig config) source identifier symbol ∧
      (Stmt.referencesAll 1 identifier ++ Stmt.referencesAll 1 symbol).Perm source.registry.entries ∧
      ∀ ref ∈ Stmt.referencesAll 1 identifier ++ Stmt.referencesAll 1 symbol,
        ∃ group ∈ Enumeration.groups ((ofConfig config).declared source.registry),
          ref.2 ∈ group.names := by
  have hc := Config.checked_of_ofDocument hd
  have hn := nameable_symbolTrie hc hw
  have hsk : (keywordTrie config.tokens).edges.Sound [] := Trie.sound_ofList _
  have hss : (symbolTrie config.tokens).edges.Sound [] := Trie.sound_ofList _
  obtain ⟨text₁, he₁, hf₁⟩ := IdentifierDispatch.function_of_emitNew hi hsk
    (spellable_keywordTrie hk hl) config.settings.tokenPrefix
  obtain ⟨text₂, he₂, hf₂⟩ := SymbolDispatch.function_of_emitNew hs hn config.settings.tokenPrefix
  have hr₁ : (ofConfig config).identifierCode.result = _ := congrArg Logged.result he₁
  have hr₂ : (ofConfig config).symbolCode.result = _ := congrArg Logged.result he₂
  have hp := references_perm config.settings (keywordTrie config.tokens) hss hn
  refine ⟨_, _, _, source_eq hr₁ hr₂, ⟨_, _, hr₁, hr₂, rfl, hf₁, hf₂⟩, hp, ?_⟩
  intro ref hm
  refine exists_group_declared (hp.mem_iff.1 hm) ?_
  -- a constant that the classes leave out is the identifier's, and this is a literal
  intro hskip
  exact ⟨config.settings.identTokenName, hc.ident_mem, eq_of_class_skip config.settings _ hm hskip⟩

theorem references_sample : ∃ source identifier symbol,
    (ofConfig Config.sample).source.result = .ok source ∧ source.registry.size = 11 ∧
      (Stmt.referencesAll 1 identifier ++ Stmt.referencesAll 1 symbol).Perm source.registry.entries ∧
      ∀ ref ∈ Stmt.referencesAll 1 identifier ++ Stmt.referencesAll 1 symbol,
        ∃ group ∈ Enumeration.groups ((ofConfig Config.sample).declared source.registry),
          ref.2 ∈ group.names := by
  have hi : IdentifierDispatch.Names Config.sample.settings :=
    ⟨by decide, by decide, by decide, by decide, by decide +kernel⟩
  have hs : SymbolDispatch.Names Config.sample.settings :=
    ⟨by decide, by decide, by decide, by decide, by decide, by decide, by decide⟩
  obtain ⟨source, identifier, symbol, h, -, hp, hg⟩ :=
    references_perm_entries Config.result_sampleDocument hi hs (by decide +kernel)
      (by decide +kernel) (by decide +kernel)
  refine ⟨source, identifier, symbol, h, ?_, hp, hg⟩
  have hsize : (ofConfig Config.sample).source.result.toOption.map (·.registry.size) = some 11 := by
    decide +kernel
  rw [h] at hsize
  exact Option.some.inj hsize

end Generator

end ScannerDispatch
