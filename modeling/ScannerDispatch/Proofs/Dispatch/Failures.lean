import ScannerDispatch.Proofs.Dispatch.References
import ScannerDispatch.Proofs.Emission.Failures
import ScannerDispatch.Proofs.Trie.Paths

/-!
When the generation of code fails.

Both dispatch functions need values at certain nodes.  Insertions leave no dead ends, so identifier
dispatch always finds what it needs.  Symbol dispatch looks at two levels only and needs a value at
every node of the second one, which a longer value alone does not give.

* `failure?_steps`, once for each function: the failure that its steps hold.
* `Trie.LacksPair` says of inserted values which ones make symbol dispatch fail.
* `Generator.result_emit_dispatch`: in no other case does an emission on an unlimited sink fail, and
  nothing fails for a configuration that was accepted.
-/

namespace ScannerDispatch

/-! ## Identifier dispatch -/

namespace IdentifierDispatch

variable (s : Settings)

theorem failure?_returnKeyword (level : Nat) (lead : String) (start : Nat) (keyword : Terminal) :
    failure? (returnKeyword s level lead start keyword) = none := rfl

theorem failure?_openBody (level consumed : Nat) (terminal : Option Terminal) {cases : List Step}
    (h : failure? cases = none) : failure? (openBody s level consumed terminal cases) = none := by
  cases terminal <;> simp [openBody, switchSteps, failure?_returnKeyword, h]

/-- Sound branches have no dead ends. -/
theorem failure?_caseList {es : Edges} {p : List Char} (hs : es.Sound p) (level depth : Nat) :
    failure? (caseList s level depth es) = none := by
  induction es generalizing p level depth with
  | nil => rfl
  | cons c t below rest ihb ihr =>
    rw [caseList, List.cons_append, failure?_write, failure?_append, ihr hs.2.2.2.2, Option.or_none]
    cases ho : below.only? t with
    | some k => exact failure?_returnKeyword s _ _ _ k
    | none =>
      have hb : below.isEmpty = false := by
        rw [Bool.eq_false_iff, Ne, Edges.isEmpty_iff]
        exact hs.ne_nil_of_only?_eq_none ho
      simp only [hb, Bool.false_eq_true, if_false]
      exact failure?_openBody s _ _ t (ihb hs.2.2.2.1 (level + 2) (depth + 1))

theorem failure?_steps {keywords : Trie} (hs : keywords.edges.Sound []) :
    failure? (steps s keywords) = none := by
  have hc := failure?_caseList s hs 0 0
  have hb : failure? (branchSteps s 0 keywords.root) = none := by
    simp [branchSteps, switchSteps, Trie.root, hc]
  rw [steps, List.cons_append, List.cons_append, failure?_register, failure?_line, failure?_append,
    failure?_map_deeper, hb]
  rfl

end IdentifierDispatch

/-! ## Symbol dispatch -/

/-- Does a child of the node have no value? -/
def Node.lacksValue (n : Node) : Bool :=
  n.children.any (·.2.terminal.isNone)

namespace SymbolDispatch

variable (s : Settings)

theorem failure?_nextSteps (level depth : Nat) (children : List (Char × Node)) :
    failure? (nextSteps s level depth children) =
      if children.any (·.2.terminal.isNone) then some (.deadEnd depth) else none := by
  induction children with
  | nil => rfl
  | cons child children ih =>
    obtain ⟨c, next⟩ := child
    rw [nextSteps, List.any_cons]
    cases next.terminal with
    | none => simp
    | some x =>
      rw [Option.isNone_some, Bool.false_or, ← ih]
      simp [returnSymbol]

theorem failure?_fallbackSteps (level : Nat) (node : Node) :
    failure? (fallbackSteps s level node) = none := by
  rw [fallbackSteps]
  cases node.terminal <;> rfl

/-- At a node that is no dead end itself, a child without a value is the only reason to fail. -/
theorem failure?_caseBody (level depth : Nat) {node : Node}
    (h : node.isLeaf = true → node.terminal ≠ none) : failure? (caseBody s level depth node) =
      if node.lacksValue then some (.deadEnd (depth + 1)) else none := by
  rw [caseBody, Node.lacksValue]
  split
  · next hleaf =>
    obtain ⟨x, hx⟩ := Option.ne_none_iff_exists'.1 (h hleaf)
    have hnil : node.children = [] := by
      rw [Node.children, Edges.isEmpty_iff.1 hleaf, Edges.toList_nil]
    rw [hx, hnil]
    rfl
  · simp [failure?_nextSteps, failure?_fallbackSteps]

theorem failure?_cases {children : List (Char × Node)}
    (h : ∀ child ∈ children, child.2.isLeaf = true → child.2.terminal ≠ none) :
    failure? (children.flatMap fun child =>
        .write 0 ("case " ++ Literal.char child.1 ++ ":") :: caseBody s 0 1 child.2) =
      if children.any (·.2.lacksValue) then some (.deadEnd 2) else none := by
  induction children with
  | nil => rfl
  | cons child children ih =>
    obtain ⟨hc, h⟩ := List.forall_mem_cons.1 h
    rw [List.flatMap_cons, List.cons_append, failure?_write, failure?_append,
      failure?_caseBody s 0 1 hc, ih h, List.any_cons]
    cases child.2.lacksValue with
    | true => simp
    | false => rw [Bool.false_or]; rfl

theorem failure?_steps {symbols : Trie} (hs : symbols.edges.Sound []) :
    failure? (steps s symbols) =
      if symbols.root.children.any (·.2.lacksValue) then some (.deadEnd 2) else none := by
  have hleaf : ∀ child ∈ symbols.root.children,
      child.2.isLeaf = true → child.2.terminal ≠ none := by
    rintro ⟨c, node⟩ hm hl
    exact (hs.of_mem_toList hm).1.2.1 (Edges.isEmpty_iff.1 hl)
  have hb : failure? (branchSteps s 0 symbols.root) =
      if symbols.root.children.any (·.2.lacksValue) then some (.deadEnd 2) else none := by
    rw [← failure?_cases s hleaf]
    simp [branchSteps]
  rw [steps, List.cons_append, failure?_line, failure?_append, failure?_map_deeper, hb]
  exact Option.or_none

end SymbolDispatch

/-! ## Inserted values -/

namespace Trie

/-- Some value of at least three characters is inserted, but not the value of its first two. -/
def LacksPair (entries : List (String × String)) : Prop :=
  ∃ e ∈ entries, 3 ≤ e.1.length ∧ ∀ other ∈ entries, other.1.toList ≠ e.1.toList.take 2

theorem exists_find_of_mem_labels {entries : List (String × String)} {path : String} {node : Node}
    (h : (ofList entries).find path = some node) {c : Char}
    (hc : ∃ e ∈ entries, path.toList ++ [c] <+: e.1.toList) :
    ∃ child, (c, child) ∈ node.children ∧ (ofList entries).find (path.push c) = some child := by
  have hn := isPrefixNode_of_find h
  obtain ⟨⟨d, child⟩, hm, rfl⟩ := List.mem_map.1 ((hn.mem_labels_iff c).2 hc)
  exact ⟨child, hm, hn.find_child _ hm⟩

/-- A node of the second level has no value where a longer value lacks the one of its first two
    characters. -/
theorem any_lacksValue_iff {entries : List (String × String)} :
    (ofList entries).root.children.any (·.2.lacksValue) = true ↔ LacksPair entries := by
  have hroot := find_empty_path (ofList entries)
  simp only [List.any_eq_true, Node.lacksValue, Option.isNone_iff_eq_none]
  constructor
  · rintro ⟨⟨c, node⟩, hc, ⟨d, next⟩, hd, hnone⟩
    have hnode := isPrefixNode_of_find ((isPrefixNode_of_find hroot).find_child _ hc)
    have hnext := isPrefixNode_of_find (hnode.find_child _ hd)
    obtain ⟨e, he, hpre⟩ := (hnode.mem_labels_iff d).1 (List.mem_map.2 ⟨_, hd, rfl⟩)
    have hlast : lastToken? entries (("".push c).push d) = none := by
      have ht := hnext.terminal_eq
      rw [if_neg (by simp)] at ht
      exact Option.map_eq_none_iff.1 (ht.symm.trans hnone)
    have hpair : ∀ other ∈ entries, other.1.toList ≠ [c, d] := by
      intro other ho heq
      refine lastToken?_eq_none_iff.1 hlast other ho ?_
      rw [← String.toList_inj, heq]
      simp
    obtain ⟨tail, htail⟩ := hpre
    have htail : e.1.toList = c :: d :: tail := by rw [← htail]; simp
    refine ⟨e, he, ?_, ?_⟩
    · have hne : tail ≠ [] := by
        rintro rfl
        exact hpair e he htail
      have hpos := List.length_pos_iff.2 hne
      rw [← String.length_toList, htail]
      simp only [List.length_cons]
      omega
    · simpa [htail] using hpair
  · rintro ⟨e, he, hlen, hpair⟩
    obtain ⟨c, d, x, tail, htail⟩ : ∃ c d x tail, e.1.toList = c :: d :: x :: tail := by
      rw [← String.length_toList] at hlen
      match h : e.1.toList with
      | [] | [_] | [_, _] => simp [h] at hlen
      | c :: d :: x :: tail => exact ⟨c, d, x, tail, rfl⟩
    rw [htail] at hpair
    obtain ⟨node, hc, hfind⟩ := exists_find_of_mem_labels hroot
      ⟨e, he, (by simp [htail] : "".toList ++ [c] <+: e.1.toList)⟩
    obtain ⟨next, hd, hfind'⟩ := exists_find_of_mem_labels hfind
      ⟨e, he, (by simp [htail] : ("".push c).toList ++ [d] <+: e.1.toList)⟩
    refine ⟨_, hc, _, hd, ?_⟩
    rw [(isPrefixNode_of_find hfind').terminal_eq, if_neg (by simp), Option.map_eq_none_iff,
      lastToken?_eq_none_iff]
    intro other ho heq
    exact hpair other ho (by simp [heq])

end Trie

/-! ## Generators -/

theorem Enumeration.failure?_steps (r : Registry) (type : String) :
    failure? (Enumeration.steps r type) = none := by
  have hgroup : ∀ last (g : Enumeration.Group), failure? (g.steps last) = none := by
    intro last g
    rw [Group.steps, failure?_line, failure?_map_line]
  have hgroups : ∀ gs, failure? (Enumeration.groupSteps gs) = none := by
    intro gs
    induction gs with
    | nil => rfl
    | cons g gs ih =>
      cases gs with
      | nil => exact hgroup true g
      | cons h gs =>
        rw [groupSteps, failure?_append, hgroup, failure?_line, ih]
        · rfl
        · simp
  simp [Enumeration.steps, hgroups]

namespace Generator

variable {d : ConfigDocument} {config : Config}

/-- The symbols of a checked configuration are too short to lack a pair. -/
theorem not_lacksPair (h : Config.Checked config.settings.identTokenName config.tokens) :
    ¬ Trie.LacksPair (config.tokens.symbols.entries.map fun e => (e.2, e.1)) := by
  rintro ⟨e, he, hlen, -⟩
  obtain ⟨symbol, hs, rfl⟩ := List.mem_map.1 he
  have hl := h.symbol_length symbol hs
  simp only at hlen
  omega

theorem exists_headerDecls (g : Generator) (r : Registry) :
    ∃ text, (g.headerDecls r).result = .ok text := by
  obtain ⟨code, hcode⟩ := exists_emitNew (g.declared r).stem
    (Enumeration.failure?_steps (g.declared r) g.config.settings.tokenEnumType)
  refine ⟨_, (Logged.result_bind rfl _).trans (Logged.result_bind hcode _)⟩

/-- **Generation fails for want of a pair only.**  Identifier dispatch succeeds for all values that can
    be inserted, symbol dispatch unless some value of three or more characters lacks the value of its
    first two, and all files are generated for a configuration that was accepted. -/
theorem result_emit_dispatch :
    (∀ (s : Settings) (entries : List (String × String)) (session : Session),
      session.writer.sink.room = none →
      (emit (IdentifierDispatch.steps s (.ofList entries)) session).2 = .ok () ∧
      ((emit (SymbolDispatch.steps s (.ofList entries)) session).2 = .error (.deadEnd 2) ↔
        Trie.LacksPair entries) ∧
      (¬ Trie.LacksPair entries →
        (emit (SymbolDispatch.steps s (.ofList entries)) session).2 = .ok ())) ∧
    ∀ (d : ConfigDocument) (config : Config), (Config.ofDocument d).result = .ok config →
      ∃ outputs, (ofConfig config).generate.result = .ok outputs := by
  constructor
  · intro s entries session hroom
    have hs := Trie.sound_ofList entries
    rw [result_emit session hroom, result_emit session hroom, IdentifierDispatch.failure?_steps s hs,
      SymbolDispatch.failure?_steps s hs, ← Trie.any_lacksValue_iff]
    refine ⟨rfl, ?_⟩
    cases (Trie.ofList entries).root.children.any (·.2.lacksValue) <;> simp
  · intro d config hd
    have hc := Config.checked_of_ofDocument hd
    have hsymbols : failure? (SymbolDispatch.steps config.settings (symbolTrie config.tokens)) =
        none := by
      rw [symbolTrie, SymbolDispatch.failure?_steps _ (Trie.sound_ofList _), if_neg]
      rw [Trie.any_lacksValue_iff]
      exact not_lacksPair hc
    obtain ⟨i, hi⟩ := exists_emitNew config.settings.tokenPrefix
      (IdentifierDispatch.failure?_steps config.settings
        (Trie.sound_ofList (config.tokens.keywords.map fun k => (k, k))))
    obtain ⟨s, hs⟩ := exists_emitNew config.settings.tokenPrefix hsymbols
    have hsource := source_eq (g := ofConfig config) hi hs
    obtain ⟨text, htext⟩ := exists_headerDecls (ofConfig config) _
    exact ⟨_, (Logged.result_bind hsource _).trans (Logged.result_bind htext _)⟩

theorem result_emit_dispatch_sample :
    Trie.LacksPair [("<=>", "ship"), ("<", "less")] ∧
    (emit (SymbolDispatch.steps Config.sample.settings
      (.ofList [("<=>", "ship"), ("<", "less")])) (.new "TOKEN")).2 = .error (.deadEnd 2) ∧
    ¬ Trie.LacksPair [("<=>", "ship"), ("<=", "most"), ("", "nothing")] ∧
    (emit (SymbolDispatch.steps Config.sample.settings
      (.ofList [("<=>", "ship"), ("<=", "most"), ("", "nothing")])) (.new "TOKEN")).2 = .ok () ∧
    ∃ outputs, (ofConfig Config.sample).generate.result = .ok outputs := by
  obtain ⟨hemit, hgenerate⟩ := result_emit_dispatch
  have hlacks : Trie.LacksPair [("<=>", "ship"), ("<", "less")] := by
    refine ⟨_, List.mem_cons_self .., by decide, by decide⟩
  have hhas : ¬ Trie.LacksPair [("<=>", "ship"), ("<=", "most"), ("", "nothing")] := by
    unfold Trie.LacksPair
    decide
  exact ⟨hlacks, (hemit _ _ (.new "TOKEN") rfl).2.1.2 hlacks, hhas,
    (hemit _ _ (.new "TOKEN") rfl).2.2 hhas, hgenerate _ _ Config.result_sampleDocument⟩

end Generator

end ScannerDispatch
