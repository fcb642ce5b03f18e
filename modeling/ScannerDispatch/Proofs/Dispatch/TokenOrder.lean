import ScannerDispatch.Proofs.Dispatch.Failures
import ScannerDispatch.Proofs.Dispatch.Reports
import ScannerDispatch.Proofs.Trie.Keywords
import ScannerDispatch.Proofs.Trie.Order

/-!
The order in which the dispatch functions register their tokens and report symbols without a fallback.

Both functions register the values of their trie as these are left, longer ones first, and symbol
dispatch reports the nodes below its root in their order.

* `IdentifierDispatch.registered_steps_eq` and `SymbolDispatch.registered_steps_of_shallow`: what is
  registered, as the values of the trie.
* `Generator.keywordNames_inOrder`: each keyword has one constant, in an order on the list of keywords.
* `Generator.symbolNames_inOrder`: each symbol has one constant, in an order on the table of symbols,
  and so have the reports.
-/

namespace ScannerDispatch

/-- The constants of a class are those of its tokens. -/
theorem Registry.names_ofTokens (stem : String) (tokens : List (TokenClass × String))
    (c : TokenClass) : (Registry.ofTokens stem tokens).names c =
      (tokens.filter (·.1 = c)).map fun t => constant stem t.2 := by
  induction tokens with
  | nil => rfl
  | cons t tokens ih =>
    have ih : (tokens.map fun t => (t.1, constant stem t.2)).filterMap
        (fun e => if e.1 = c then some e.2 else none) = _ := ih
    by_cases h : t.1 = c <;> simp [Registry.ofTokens, Registry.names, h, ih]

/-- The list `l` consists of what has the property `P`, each once, in the order `before`. -/
structure InOrder {α : Type} (P : α → Prop) (before : α → α → Prop) (l : List α) : Prop where
  mem_iff : ∀ x, x ∈ l ↔ P x
  nodup : l.Nodup
  pairwise : l.Pairwise before

theorem InOrder.imp {α : Type} {P : α → Prop} {before before' : α → α → Prop} {l : List α}
    (h : InOrder P before l) (himp : ∀ {x y}, P x → P y → before x y → before' x y) :
    InOrder P before' l where
  mem_iff := h.mem_iff
  nodup := h.nodup
  pairwise := h.pairwise.imp_of_mem fun hx hy => himp ((h.mem_iff _).1 hx) ((h.mem_iff _).1 hy)

/-! ## Keywords -/

/-- The trie of keywords has the keywords as its values, in the order in which their ways were first
    taken. -/
theorem inOrder_ofKeywords {keywords : List String} (hne : "" ∉ keywords) :
    InOrder (· ∈ keywords) (fun u v => Precedes (firstBeginning keywords) u.toList v.toList)
      ((Trie.ofKeywords keywords).edges.terminals.map Terminal.value) where
  mem_iff k := by
    rw [List.mem_map]
    constructor
    · rintro ⟨x, hx, rfl⟩
      exact (mem_terminals_ofKeywords hx).1
    · intro hk
      refine ⟨⟨k, k⟩, Trie.mem_terminals_ofList_iff.2 ⟨fun h => hne (h ▸ hk), ?_⟩, rfl⟩
      rw [lastToken?_map_self, if_pos hk]
  nodup := (sound_ofKeywords keywords).nodup_terminals
  pairwise := by
    have hrank : firstWith (keywords.map fun k => (k, k)) = firstBeginning keywords :=
      funext fun path => firstWith_map_self path
    have h := Trie.pairwise_terminals_ofList (keywords.map fun k => (k, k))
    rw [hrank] at h
    exact List.pairwise_map.2 h

namespace Generator

variable {d : ConfigDocument} {config : Config}

/-- **Every keyword has one constant, and these stand in a fixed order.**  A keyword comes before those
    that it goes on from.  Where keywords part, those come first whose way was first taken in the list of
    keywords. -/
theorem keywordNames_inOrder (hd : (Config.ofDocument d).result = .ok config) :
    ∃ (code : GeneratedCode) (order : List String),
      (ofConfig config).identifierCode.result = .ok code ∧
      code.registry.names .skip =
        [constant config.settings.tokenPrefix config.settings.identTokenName] ∧
      code.registry.names .keyword = order.map (constant config.settings.tokenPrefix) ∧
      (∀ c, c ≠ .skip → c ≠ .keyword → code.registry.names c = []) ∧
      order.Nodup ∧ (∀ k, k ∈ order ↔ k ∈ config.tokens.keywords) ∧
      ∀ u ∈ config.tokens.keywords, ∀ v ∈ config.tokens.keywords,
        (order.idxOf u < order.idxOf v ↔
          Precedes (firstBeginning config.tokens.keywords) u.toList v.toList) := by
  have hne : "" ∉ config.tokens.keywords :=
    fun h => (Config.checked_of_ofDocument hd).keyword_ne "" h rfl
  have horder := inOrder_ofKeywords hne
  have hcode := emitNew_eq config.settings.tokenPrefix (failure?_eq_none_iff.1
    (IdentifierDispatch.failure?_steps config.settings (sound_ofKeywords config.tokens.keywords)))
  rw [IdentifierDispatch.registered_steps_eq] at hcode
  refine ⟨_, _, congrArg Logged.result hcode, ?_, ?_, ?_, horder.nodup, horder.mem_iff, ?_⟩
  · simp [Registry.names_ofTokens, List.filter_map, Function.comp_def]
  · simp only [Registry.names_ofTokens, List.filter_cons, List.filter_map, Function.comp_def,
      List.map_map]
    simpa using fun x hx => congrArg _ (mem_terminals_ofKeywords hx).2
  · intro c hskip hkeyword
    simp [Registry.names_ofTokens, List.filter_map, Function.comp_def, Ne.symm hskip,
      Ne.symm hkeyword]
  · intro u hu v hv
    exact idxOf_lt_idxOf_iff horder.pairwise Precedes.asymm ((horder.mem_iff u).2 hu)
      ((horder.mem_iff v).2 hv)

/-- Keywords that part early and late, one that begins another, and one that stands twice. -/
theorem keywordNames_inOrder_sample :
    let keywords := ["with", "as", "while", "i", "and", "if", "while"]
    let d := { Config.sampleDocument with tokens := { Config.sampleDocument.tokens with keywords } }
    ∃ (config : Config) (code : GeneratedCode) (order : List String),
      (Config.ofDocument d).result = .ok config ∧
      (ofConfig config).identifierCode.result = .ok code ∧
      code.registry.names .skip = [constant "TOKEN" "identifier"] ∧
      code.registry.names .keyword = order.map (constant "TOKEN") ∧ order.Nodup ∧
      order.idxOf "while" < order.idxOf "as" ∧ order.idxOf "as" < order.idxOf "and" ∧
      order.idxOf "if" < order.idxOf "i" := by
  intro keywords d
  obtain ⟨code, order, hcode, hskip, hkeyword, -, hnodup, -, horder⟩ :=
    keywordNames_inOrder (show (Config.ofDocument d).result =
      .ok { Config.sample with tokens := d.tokens } from rfl)
  refine ⟨_, code, order, rfl, hcode, hskip, hkeyword, hnodup, ?_, ?_, ?_⟩
  · refine (horder _ (by decide) _ (by decide)).2 (.parted [] 'w' 'a' ?_ ?_ ?_) <;> decide +kernel
  · refine (horder _ (by decide) _ (by decide)).2 (.parted ['a'] 's' 'n' ?_ ?_ ?_) <;>
      decide +kernel
  · exact (horder _ (by decide) _ (by decide)).2 (.longer (by decide) (by decide))

end Generator

/-! ## Symbols -/

namespace Edges

/-- Where nothing is below the branches, the values are their own ones. -/
theorem terminals_eq_filterMap {es : Edges} (h : ∀ child ∈ es.toList, child.2.edges = nil) :
    es.terminals = es.toList.filterMap (·.2.terminal) := by
  induction es with
  | nil => rfl
  | cons c t below rest _ ih =>
    obtain ⟨hbelow, h⟩ := List.forall_mem_cons.1 h
    have hbelow : below = nil := hbelow
    rw [terminals, ih h, hbelow]
    cases t <;> rfl

end Edges

namespace SymbolDispatch

variable (s : Settings)

/-- The token of a symbol, with its class. -/
def symbolToken (symbol : Terminal) : TokenClass × String :=
  (.ofSymbol symbol.value, symbol.token)

theorem registered_nextSteps (level depth : Nat) {children : List (Char × Node)}
    (h : ∀ child ∈ children, child.2.terminal ≠ none) :
    registered (nextSteps s level depth children) =
      (children.filterMap (·.2.terminal)).map symbolToken := by
  induction children with
  | nil => rfl
  | cons child children ih =>
    obtain ⟨c, next⟩ := child
    obtain ⟨hnext, h⟩ := List.forall_mem_cons.1 h
    obtain ⟨x, hx⟩ := Option.ne_none_iff_exists'.1 hnext
    have hx : next.terminal = some x := hx
    rw [nextSteps, hx, registered_append, ih h, List.filterMap_cons, hx]
    rfl

/-- At a shallow node all its values are registered, its own one last. -/
theorem registered_caseBody (level depth : Nat) {node : Node} (h : Shallow node) :
    registered (caseBody s level depth node) =
      (node.edges.terminals ++ node.terminal.toList).map symbolToken := by
  rw [caseBody, Edges.terminals_eq_filterMap fun child hc => (h.next child hc).2]
  split
  · next hleaf =>
    rw [Edges.isEmpty_iff.1 hleaf]
    cases node.terminal <;> rfl
  · rw [List.cons_append, List.cons_append, registered_line, registered_append, registered_append,
      registered_nextSteps s _ _ fun child hc => (h.next child hc).1, fallbackSteps]
    cases node.terminal <;> simp [returnSymbol, symbolToken, Node.children]

/-- The function registers the symbols of its trie as they are left. -/
theorem registered_steps_of_shallow {symbols : Trie}
    (h : ∀ child ∈ symbols.root.children, Shallow child.2) :
    registered (steps s symbols) = symbols.edges.terminals.map symbolToken := by
  have hcases : ∀ es : Edges, (∀ child ∈ es.toList, Shallow child.2) →
      registered (es.toList.flatMap fun child =>
        .write 0 ("case " ++ Literal.char child.1 ++ ":") :: caseBody s 0 1 child.2) =
      es.terminals.map symbolToken := by
    intro es
    induction es with
    | nil => exact fun _ => rfl
    | cons c t below rest _ ih =>
      intro h
      obtain ⟨hself, h⟩ := List.forall_mem_cons.1 h
      rw [Edges.toList_cons, List.flatMap_cons, List.cons_append, registered_write,
        registered_append, registered_caseBody s 0 1 hself, ih h, ← List.map_append]
      rfl
  have hb : registered (branchSteps s 0 symbols.root) = symbols.edges.terminals.map symbolToken := by
    refine Eq.trans ?_ (hcases symbols.edges h)
    simp [branchSteps, Node.children, Trie.root]
  rw [steps, List.cons_append, registered_line, registered_append, registered_map_deeper, hb]
  simp

theorem failure?_steps_of_shallow {symbols : Trie} (hs : symbols.edges.Sound [])
    (h : ∀ child ∈ symbols.root.children, Shallow child.2) :
    failure? (steps s symbols) = none := by
  rw [failure?_steps s hs, if_neg]
  simp only [List.any_eq_true, Node.lacksValue, Option.isNone_iff_eq_none]
  rintro ⟨child, hc, next, hn, hnone⟩
  exact ((h child hc).next next hn).1 hnone

/-- The characters of the symbols that go on from a node. -/
def pairsAt (node : Node) : List String :=
  node.children.filterMap fun child => child.2.terminal.map (·.value)

/-- The function reports the nodes below the root that have no value. -/
theorem reported_steps_of_shallow {symbols : Trie}
    (h : ∀ child ∈ symbols.root.children, Shallow child.2) : reported (steps s symbols) =
      (symbols.root.children.filter (·.2.terminal.isNone)).map fun child =>
        .noFallback (pairsAt child.2) := by
  have hcase : ∀ node, Shallow node → reported (caseBody s 0 1 node) =
      if node.terminal.isNone then [.noFallback (pairsAt node)] else [] := by
    intro node hnode
    rw [caseBody]
    split
    · next hleaf =>
      obtain ⟨x, hx⟩ := Option.ne_none_iff_exists'.1 (hnode.leaf hleaf)
      rw [hx]
      rfl
    · rw [List.cons_append, List.cons_append, reported_line, reported_append, reported_append,
        reported_nextSteps, fallbackSteps]
      cases node.terminal <;> rfl
  rw [reported_steps_eq]
  generalize symbols.root.children = children at h
  induction children with
  | nil => rfl
  | cons child children ih =>
    obtain ⟨hself, h⟩ := List.forall_mem_cons.1 h
    rw [List.flatMap_cons, List.cons_append, reported_write, reported_append, hcase _ hself, ih h]
    cases hnone : child.2.terminal.isNone <;> simp [hnone]

end SymbolDispatch

/-! ## Symbol tables -/

/-- The number of the first symbol in the table whose characters begin with `path`. -/
def Tokens.firstSymbol (tokens : Tokens) (path : List Char) : Nat :=
  tokens.symbols.entries.findIdx fun e => path.isPrefixOf e.2.toList

namespace Generator

variable (tokens : Tokens)

theorem firstWith_symbols :
    firstWith (tokens.symbols.entries.map fun e => (e.2, e.1)) = tokens.firstSymbol := by
  funext path
  rw [firstWith, List.findIdx_map]
  rfl

theorem lastSymbol?_eq_none_iff {value : String} :
    tokens.lastSymbol? value = none ↔ value ∉ tokens.symbols.values := by
  rw [← lastToken?_symbols, lastToken?_eq_none_iff, List.forall_mem_map, StringTable.values]
  simp only [List.mem_map, not_exists, not_and, ne_eq]

theorem mem_terminals_symbolTrie_iff {x : Terminal} : x ∈ (symbolTrie tokens).edges.terminals ↔
    x.value ≠ "" ∧ tokens.lastSymbol? x.value = some x.token := by
  rw [symbolTrie, Trie.mem_terminals_ofList_iff, lastToken?_symbols]

/-- The values of `n` characters, as they are left. -/
def valuesOfLength (n : Nat) : List String :=
  ((symbolTrie tokens).edges.terminals.filter (·.value.length = n)).map Terminal.value

/-- Values of one length stand in the order of the ways on which they part. -/
theorem inOrder_valuesOfLength {n : Nat} (hn : 0 < n) :
    InOrder (fun v => v ∈ tokens.symbols.values ∧ v.length = n)
      (fun u v => ∃ k < n, u.toList.take k = v.toList.take k ∧
        tokens.firstSymbol (u.toList.take (k + 1)) < tokens.firstSymbol (v.toList.take (k + 1)))
      (valuesOfLength tokens n) where
  mem_iff v := by
    rw [valuesOfLength, List.mem_map]
    constructor
    · rintro ⟨x, hx, rfl⟩
      obtain ⟨hx, hlen⟩ := List.mem_filter.1 hx
      refine ⟨?_, of_decide_eq_true hlen⟩
      by_contra hno
      rw [← lastSymbol?_eq_none_iff, ((mem_terminals_symbolTrie_iff tokens).1 hx).2] at hno
      cases hno
    · rintro ⟨hv, hlen⟩
      cases ht : tokens.lastSymbol? v with
      | none => exact absurd hv ((lastSymbol?_eq_none_iff tokens).1 ht)
      | some name =>
        have hne : v ≠ "" := by
          rintro rfl
          subst hlen
          exact Nat.lt_irrefl 0 hn
        have hx := (mem_terminals_symbolTrie_iff tokens).2
          (show (Terminal.mk v name).value ≠ "" ∧ _ from ⟨hne, ht⟩)
        exact ⟨_, List.mem_filter.2 ⟨hx, decide_eq_true hlen⟩, rfl⟩
  nodup := by
    have hs : (symbolTrie tokens).edges.Sound [] := Trie.sound_ofList _
    exact hs.nodup_terminals.sublist (List.filter_sublist.map _)
  pairwise := by
    have h := Trie.pairwise_terminals_ofList (tokens.symbols.entries.map fun e => (e.2, e.1))
    rw [firstWith_symbols] at h
    refine List.pairwise_map.2 ((h.filter _).imp_of_mem fun {x y} hx hy hxy => ?_)
    have hlen : ∀ {z : Terminal}, z ∈ (symbolTrie tokens).edges.terminals.filter
        (·.value.length = n) → z.value.toList.length = n := fun hz => by
      rw [String.length_toList]
      exact of_decide_eq_true (List.mem_filter.1 hz).2
    obtain ⟨k, hk, htake, hlt⟩ := hxy.exists_take ((hlen hx).trans (hlen hy).symm)
    exact ⟨k, hlen hx ▸ hk, htake, hlt⟩

/-! ### Symbols without a fallback -/

section
variable {tokens : Tokens}

theorem exists_symbol_iff {path : List Char} :
    (∃ e ∈ tokens.symbols.entries.map fun e => (e.2, e.1), path <+: e.1.toList) ↔
      ∃ v ∈ tokens.symbols.values, path <+: v.toList := by
  simp only [StringTable.values, List.mem_map, exists_exists_and_eq_and]

/-- A symbol that begins with two characters consists of them. -/
theorem eq_of_prefix {identTokenName : String} (hc : Config.Checked identTokenName tokens)
    {v : String} (hv : v ∈ tokens.symbols.values) {path : List Char} (hp : path <+: v.toList)
    (hlen : path.length = 2) : v = String.ofList path := by
  obtain ⟨e, he, rfl⟩ := List.mem_map.1 hv
  have hle : e.2.toList.length ≤ path.length := by
    have h := hc.symbol_length e he
    rw [String.length_toList]
    omega
  rw [hp.eq_of_length_le hle, String.ofList_toList]

theorem isPrefixNode_child {child : Char × Node}
    (hm : child ∈ (symbolTrie tokens).root.children) :
    Trie.IsPrefixNode (tokens.symbols.entries.map fun e => (e.2, e.1)) (symbolTrie tokens)
      ("".push child.1) child.2 :=
  Trie.isPrefixNode_of_find
    ((Trie.isPrefixNode_of_find (Trie.find_empty_path _)).find_child child hm)

/-- The symbols that go on from a first character stand in the order of the table. -/
theorem inOrder_pairsAt {identTokenName : String} (hc : Config.Checked identTokenName tokens)
    {child : Char × Node} (hm : child ∈ (symbolTrie tokens).root.children) :
    InOrder (fun v => v ∈ tokens.symbols.values ∧ v.length = 2 ∧ [child.1] <+: v.toList)
      (fun u v => tokens.firstSymbol u.toList < tokens.firstSymbol v.toList)
      (SymbolDispatch.pairsAt child.2) := by
  have hnode := isPrefixNode_child hm
  let pair (d : Char) : String := String.ofList [child.1, d]
  have hpath : ∀ d, ("".push child.1).toList ++ [d] = [child.1, d] := fun d => by simp
  have hpairs : SymbolDispatch.pairsAt child.2 = (child.2.children.map Prod.fst).map pair := by
    rw [SymbolDispatch.pairsAt, List.map_map, ← List.filterMap_eq_map]
    refine List.filterMap_congr fun next hn => ?_
    have hnext := Trie.isPrefixNode_of_find (hnode.find_child next hn)
    have hshallow := SymbolDispatch.shallow_of_sound (Trie.sound_ofList _)
      (length_le_of_mem_terminals hc) child hm
    obtain ⟨x, hx⟩ := Option.ne_none_iff_exists'.1 (hshallow.next next hn).1
    have ht := hnext.terminal_eq
    rw [hx, if_neg (by simp)] at ht
    obtain ⟨token, -, rfl⟩ := Option.map_eq_some_iff.1 ht.symm
    rw [hx]
    simp [pair]
  rw [hpairs]
  refine ⟨fun v => ?_, hnode.nodup_labels.map fun d e h => ?_, List.pairwise_map.2 ?_⟩
  · have hlabel : ∀ d, d ∈ child.2.children.map Prod.fst ↔
        ∃ w ∈ tokens.symbols.values, [child.1, d] <+: w.toList := fun d => by
      rw [hnode.mem_labels_iff, hpath]
      exact exists_symbol_iff
    rw [List.mem_map]
    constructor
    · rintro ⟨d, hd, rfl⟩
      obtain ⟨w, hw, hp⟩ := (hlabel d).1 hd
      have hpair : w = pair d := eq_of_prefix hc hw hp rfl
      exact ⟨hpair ▸ hw, by simp [pair], by simp [pair]⟩
    · rintro ⟨hv, hlen, ⟨tail, htail⟩⟩
      obtain ⟨d, rfl⟩ : ∃ d, tail = [d] := by
        rw [← List.length_eq_one_iff]
        rw [← String.length_toList, ← htail] at hlen
        simpa using hlen
      have hpair : v = pair d := by rw [← String.toList_inj, ← htail]; simp [pair]
      exact ⟨d, (hlabel d).2 ⟨v, hv, htail ▸ List.prefix_rfl⟩, hpair.symm⟩
  · simpa [pair] using h
  · refine hnode.pairwise_labels.imp fun {d e} h => ?_
    rw [firstWith_symbols, hpath, hpath] at h
    simpa [pair] using h

/-- The first characters that are reported are those that begin a symbol but are none. -/
theorem inOrder_starts {identTokenName : String} (hc : Config.Checked identTokenName tokens) :
    InOrder (fun a => (∃ v ∈ tokens.symbols.values, v.length = 2 ∧ [a] <+: v.toList) ∧
        String.singleton a ∉ tokens.symbols.values)
      (fun a b => tokens.firstSymbol [a] < tokens.firstSymbol [b])
      (((symbolTrie tokens).root.children.filter (·.2.terminal.isNone)).map Prod.fst) := by
  have hroot := Trie.isPrefixNode_of_find (Trie.find_empty_path (symbolTrie tokens))
  have hsublist := (List.filter_sublist (p := fun child : Char × Node => child.2.terminal.isNone)
    (l := (symbolTrie tokens).root.children)).map Prod.fst
  refine ⟨fun a => ?_, hroot.nodup_labels.sublist hsublist, ?_⟩
  · have hlabel : a ∈ (symbolTrie tokens).root.children.map Prod.fst ↔
        ∃ v ∈ tokens.symbols.values, [a] <+: v.toList :=
      (hroot.mem_labels_iff a).trans exists_symbol_iff
    have hterminal : ∀ child ∈ (symbolTrie tokens).root.children,
        child.2.terminal = none ↔ String.singleton child.1 ∉ tokens.symbols.values := by
      intro child hm
      rw [(isPrefixNode_child hm).terminal_eq, if_neg (by simp), Option.map_eq_none_iff,
        lastToken?_symbols, lastSymbol?_eq_none_iff]
      rfl
    simp only [List.mem_map, List.mem_filter, Option.isNone_iff_eq_none]
    constructor
    · rintro ⟨child, ⟨hm, hnone⟩, rfl⟩
      have hno := (hterminal child hm).1 hnone
      obtain ⟨v, hv, hp⟩ := hlabel.1 (List.mem_map_of_mem hm)
      refine ⟨⟨v, hv, ?_, hp⟩, hno⟩
      -- a symbol of one character would be the first character itself
      obtain ⟨e, he, rfl⟩ := List.mem_map.1 hv
      refine (hc.symbol_length e he).resolve_left fun hone => hno ?_
      have heq := hp.eq_of_length (by rw [String.length_toList, hone]; rfl)
      have hvalue : String.singleton child.1 = e.2 := by
        rw [← String.toList_inj, ← heq]
        simp
      rwa [hvalue]
    · rintro ⟨⟨v, hv, -, hp⟩, hno⟩
      obtain ⟨child, hm, rfl⟩ := List.mem_map.1 (hlabel.2 ⟨v, hv, hp⟩)
      exact ⟨child, ⟨hm, (hterminal child hm).2 hno⟩, rfl⟩
  · have hpairwise := hroot.pairwise_labels
    rw [firstWith_symbols] at hpairwise
    exact hpairwise.sublist hsublist

end

/-! ### Registry and log -/

/-- The constants and the events for the symbols of a table. -/
structure SymbolsInOrder (tokens : Tokens) (stem : String) (registry : Registry)
    (log : List LogEvent) : Prop where
  /-- Each value of one character has one constant, that of the last symbol with this value.  They stand
      in the order in which their characters first begin a symbol. -/
  oneChar : ∃ values, InOrder (fun v => v ∈ tokens.symbols.values ∧ v.length = 1)
      (fun u v => tokens.firstSymbol u.toList < tokens.firstSymbol v.toList) values ∧
    (registry.names .oneChar).map some =
      values.map fun v => (tokens.lastSymbol? v).map (constant stem)
  /-- Each value of two characters has one constant, that of the last symbol with this value.  They stand
      in the order in which their first characters first begin a symbol; with the same first character, in
      the order in which they first stand in the table. -/
  twoChar : ∃ values, InOrder (fun v => v ∈ tokens.symbols.values ∧ v.length = 2)
      (fun u v =>
        tokens.firstSymbol (u.toList.take 1) < tokens.firstSymbol (v.toList.take 1) ∨
        u.toList.take 1 = v.toList.take 1 ∧
          tokens.firstSymbol u.toList < tokens.firstSymbol v.toList) values ∧
    (registry.names .twoChar).map some =
      values.map fun v => (tokens.lastSymbol? v).map (constant stem)
  /-- There are no other constants. -/
  others : ∀ c, c ≠ .oneChar → c ≠ .twoChar → registry.names c = []
  /-- There is one warning for each character that begins a symbol of two characters but is none itself,
      in the order in which these characters first begin a symbol.  It lists the symbols that begin with
      the character, in the order in which they first stand in the table. -/
  warnings : ∃ reports : List (Char × List String),
    log = reports.map (fun r => .noFallback r.2) ∧
    log.map LogEvent.line = reports.map (fun r =>
      "WARN " ++ (", ".intercalate r.2 ++ ": no one-character symbol to fall back on")) ∧
    InOrder (fun a => (∃ v ∈ tokens.symbols.values, v.length = 2 ∧ [a] <+: v.toList) ∧
        String.singleton a ∉ tokens.symbols.values)
      (fun a b => tokens.firstSymbol [a] < tokens.firstSymbol [b]) (reports.map Prod.fst) ∧
    ∀ r ∈ reports, InOrder
      (fun v => v ∈ tokens.symbols.values ∧ v.length = 2 ∧ [r.1] <+: v.toList)
      (fun u v => tokens.firstSymbol u.toList < tokens.firstSymbol v.toList) r.2

section
variable {tokens : Tokens}

/-- The constants of a class are those of the values of its length. -/
theorem map_some_names (stem : String) {c : TokenClass} {n : Nat}
    (h : ∀ x ∈ (symbolTrie tokens).edges.terminals,
      TokenClass.ofSymbol x.value = c ↔ x.value.length = n) :
    ((Registry.ofTokens stem ((symbolTrie tokens).edges.terminals.map
      SymbolDispatch.symbolToken)).names c).map some =
    (valuesOfLength tokens n).map fun v => (tokens.lastSymbol? v).map (constant stem) := by
  rw [Registry.names_ofTokens, List.filter_map, valuesOfLength]
  have hfilter : (symbolTrie tokens).edges.terminals.filter
      ((fun t => decide (t.1 = c)) ∘ SymbolDispatch.symbolToken) =
      (symbolTrie tokens).edges.terminals.filter (·.value.length = n) :=
    List.filter_congr fun x hx => decide_eq_decide.2 (h x hx)
  rw [hfilter]
  simp only [List.map_map]
  refine List.map_congr_left fun x hx => ?_
  have hx := ((mem_terminals_symbolTrie_iff tokens).1 (List.mem_filter.1 hx).1).2
  simp only [Function.comp_apply, hx]
  rfl

/-- Values of one character part at once. -/
theorem inOrder_singles : InOrder (fun v => v ∈ tokens.symbols.values ∧ v.length = 1)
    (fun u v => tokens.firstSymbol u.toList < tokens.firstSymbol v.toList)
    (valuesOfLength tokens 1) := by
  refine (inOrder_valuesOfLength tokens Nat.one_pos).imp fun {u v} hu hv h => ?_
  obtain ⟨k, hk, -, hlt⟩ := h
  obtain rfl : k = 0 := by omega
  have htake : ∀ {w : String}, w.length = 1 → w.toList.take 1 = w.toList :=
    fun hw => List.take_of_length_le (by rw [String.length_toList, hw])
  rwa [Nat.zero_add, htake hu.2, htake hv.2] at hlt

/-- Values of two characters part after no or one character. -/
theorem inOrder_pairs : InOrder (fun v => v ∈ tokens.symbols.values ∧ v.length = 2)
    (fun u v =>
      tokens.firstSymbol (u.toList.take 1) < tokens.firstSymbol (v.toList.take 1) ∨
      u.toList.take 1 = v.toList.take 1 ∧
        tokens.firstSymbol u.toList < tokens.firstSymbol v.toList)
    (valuesOfLength tokens 2) := by
  refine (inOrder_valuesOfLength tokens Nat.two_pos).imp fun {u v} hu hv h => ?_
  obtain ⟨k, hk, htake₁, hlt⟩ := h
  have htake : ∀ {w : String}, w.length = 2 → w.toList.take 2 = w.toList :=
    fun hw => List.take_of_length_le (by rw [String.length_toList, hw])
  obtain rfl | rfl : k = 0 ∨ k = 1 := by omega
  · exact .inl hlt
  · rw [htake hu.2, htake hv.2] at hlt
    exact .inr ⟨htake₁, hlt⟩

end

variable {d : ConfigDocument} {config : Config}

/-- **Every symbol has one constant, and constants and warnings stand in a fixed order.**  Places in the
    order come from the first symbol in the table that begins in some way, names from the last one with
    some characters. -/
theorem symbolNames_inOrder (hd : (Config.ofDocument d).result = .ok config) :
    ∃ code, (ofConfig config).symbolCode.result = .ok code ∧
      SymbolsInOrder config.tokens config.settings.tokenPrefix code.registry
        (ofConfig config).symbolCode.log := by
  have hc := Config.checked_of_ofDocument hd
  have hs : (symbolTrie config.tokens).edges.Sound [] := Trie.sound_ofList _
  have hshallow := SymbolDispatch.shallow_of_sound hs (length_le_of_mem_terminals hc)
  have hemit := emitNew_eq config.settings.tokenPrefix
    (failure?_eq_none_iff.1 (SymbolDispatch.failure?_steps_of_shallow config.settings hs hshallow))
  rw [SymbolDispatch.registered_steps_of_shallow _ hshallow,
    SymbolDispatch.reported_steps_of_shallow _ hshallow] at hemit
  have hcode : (ofConfig config).symbolCode = _ := hemit
  rw [hcode]
  have hlength : ∀ x ∈ (symbolTrie config.tokens).edges.terminals,
      x.value.length = 1 ∨ x.value.length = 2 :=
    fun x hx => hc.symbol_length _ (mem_of_mem_terminals_symbolTrie hx)
  refine ⟨_, rfl, ⟨_, inOrder_singles, map_some_names _ fun x _ => ?_⟩,
    ⟨_, inOrder_pairs, map_some_names _ fun x hx => ?_⟩, fun c hone htwo => ?_, ?_⟩
  · rw [TokenClass.ofSymbol]
    split <;> simp_all
  · rw [TokenClass.ofSymbol]
    rcases hlength x hx with h | h <;> simp [h]
  · rw [Registry.names_ofTokens, List.map_eq_nil_iff, List.filter_eq_nil_iff, List.forall_mem_map]
    intro x _
    rw [SymbolDispatch.symbolToken, TokenClass.ofSymbol]
    split <;> simp [Ne.symm hone, Ne.symm htwo]
  · refine ⟨((symbolTrie config.tokens).root.children.filter (·.2.terminal.isNone)).map fun child =>
      (child.1, SymbolDispatch.pairsAt child.2), ?_, ?_, ?_, ?_⟩
    · rw [List.map_map]
      rfl
    · rw [List.map_map, List.map_map]
      rfl
    · rw [List.map_map]
      exact inOrder_starts hc
    · rw [List.forall_mem_map]
      exact fun child hm => inOrder_pairsAt hc (List.mem_filter.1 hm).1

theorem symbolNames_inOrder_sample :
    ∃ code, (ofConfig Config.sample).symbolCode.result = .ok code ∧
      SymbolsInOrder Config.sample.tokens "TOKEN" code.registry
        (ofConfig Config.sample).symbolCode.log ∧
      constant "TOKEN" "atMost" ∈ code.registry.names .twoChar := by
  obtain ⟨code, hcode, h⟩ := symbolNames_inOrder Config.result_sampleDocument
  refine ⟨code, hcode, h, ?_⟩
  obtain ⟨values, hvalues, hnames⟩ := h.twoChar
  have hmem : "<=" ∈ values := (hvalues.mem_iff _).2 (by decide +kernel)
  have hlast : Config.sample.tokens.lastSymbol? "<=" = some "atMost" := by decide +kernel
  have hsome : some (constant "TOKEN" "atMost") ∈ (code.registry.names .twoChar).map some := by
    rw [hnames]
    exact List.mem_map.2 ⟨_, hmem, by rw [hlast]; rfl⟩
  simpa using hsome

end Generator

end ScannerDispatch
