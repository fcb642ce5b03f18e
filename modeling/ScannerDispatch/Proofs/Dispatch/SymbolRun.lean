import ScannerDispatch.Proofs.Config.Checked
import ScannerDispatch.Proofs.Dispatch.SymbolCode

/-!
What the symbol function returns.

* `runBody_nextStmts`: the tests for the next character find the value that it leads to.
* `runSymbol_body`: the function finds the longest value at the front of the input.  For a
  configuration, this is the longest of its symbols, and the last one in the table where several
  symbols have the same characters.
-/

namespace ScannerDispatch

open Code

/-- The longest value of one or two characters at the front of a text, with its length. -/
def Edges.longest? (es : Edges) : List Char → Option (Terminal × Nat)
  | [] => none
  | c :: cs =>
    ((cs.head?.bind fun d => es.valueAt [c, d]).map (·, 2)).or ((es.valueAt [c]).map (·, 1))

namespace SymbolDispatch

variable {s : Settings} {m : Machine}

theorem run_returnStmt (read : Nat) (x : Terminal) :
    m.run read (returnStmt s x) =
      .ok (.result (.token (constant s.tokenPrefix x.token)), read) := by
  rw [returnStmt, Machine.run, Machine.eval]
  rfl

/-- The tests find the value that the next character leads to, and read this character. -/
theorem runBody_nextStmts {es : Edges} (h : ∀ child ∈ es.toList, child.2.terminal ≠ none)
    (read : Nat) (rest : List Stmt) :
    m.runBody read none (nextStmts s es.toList ++ rest) =
      match m.text[read]?.bind fun d => es.valueAt [d] with
      | some x => .ok (.result (.token (constant s.tokenPrefix x.token)), read + 1)
      | none => m.runBody read none rest := by
  induction es with
  | nil => cases m.text[read]? <;> rfl
  | cons c t below es _ ih =>
    obtain ⟨ht, hes⟩ := List.forall_mem_cons.1 h
    obtain ⟨x, rfl⟩ := Option.ne_none_iff_exists'.1 ht
    have hcons : nextStmts s (Edges.cons c (some x) below es).toList =
        .when (.next c) (returnStmt s x) :: nextStmts s es.toList := rfl
    rw [hcons, List.cons_append]
    by_cases hc : m.text[read]? = some c
    · have hr : m.run read (.when (.next c) (returnStmt s x)) =
          .ok (.result (.token (constant s.tokenPrefix x.token)), read + 1) := by
        rw [Machine.run, Machine.test, if_pos hc]
        exact run_returnStmt _ x
      rw [Machine.runBody_cons_of_ne_next hr (by simp), hc, Option.bind_some, Edges.valueAt_cons,
        if_pos rfl]
      rfl
    · have hr : m.run read (.when (.next c) (returnStmt s x)) = .ok (.next, read) := by
        rw [Machine.run, Machine.test, if_neg hc]
      have hv : (m.text[read]?.bind fun d => (Edges.cons c (some x) below es).valueAt [d]) =
          m.text[read]?.bind fun d => es.valueAt [d] := by
        cases hd : m.text[read]? with
        | none => rfl
        | some d =>
          have hne : d ≠ c := fun he => hc (he ▸ hd)
          rw [Option.bind_some, Option.bind_some, Edges.valueAt_cons, if_neg hne]
      rw [Machine.runBody_cons hr, hv]
      exact ih hes

/-- How an arm ends that finds a value after so many characters, or nothing. -/
def arrival (s : Settings) (read : Nat) : Option (Terminal × Nat) → Flow × Nat
  | some (x, n) => (.result (.token (constant s.tokenPrefix x.token)), n)
  | none => (.leave, read)

theorem arrival_ne_next (read : Nat) (found : Option (Terminal × Nat)) :
    (arrival s read found).1 ≠ .next := by
  cases found <;> simp [arrival]

/-- An arm finds the value that the next character leads to, and else the value of its node. -/
theorem runBody_arm {node : Node} (h : Nameable s node) (read : Nat) :
    m.runBody read none (arm s node) = .ok (arrival s read
      (((m.text[read]?.bind fun d => node.edges.valueAt [d]).map (·, read + 1)).or
        (node.terminal.map (·, read)))) := by
  rw [arm]
  split
  · next hleaf =>
    obtain ⟨x, hx⟩ := Option.ne_none_iff_exists'.1 (h.leaf hleaf)
    have he : node.edges = .nil := Edges.isEmpty_iff.1 hleaf
    have hv : (m.text[read]?.bind fun d => node.edges.valueAt [d]) = none := by
      rw [he]
      cases m.text[read]? <;> rfl
    rw [hv, hx]
    exact Machine.runBody_cons_of_ne_next (run_returnStmt read x) (by simp) []
  · refine Machine.runBody_cons_of_ne_next ?_ (arrival_ne_next read _) []
    have hn : ∀ child ∈ node.edges.toList, child.2.terminal ≠ none := by
      intro child hc
      obtain ⟨x, hx, -⟩ := h.next child hc
      simp [hx]
    rw [Machine.run, Node.children, runBody_nextStmts hn]
    cases m.text[read]?.bind fun d => node.edges.valueAt [d] with
    | some x => rfl
    | none =>
      cases node.terminal with
      | some x => exact Machine.runBody_cons_of_ne_next (run_returnStmt read x) (by simp) []
      | none => rfl

theorem lookup_arms (c : Char) (children : List (Char × Node)) :
    (arms s children).lookup c = (children.lookup c).map (arm s) := by
  induction children with
  | nil => rfl
  | cons child children ih =>
    rw [arms, List.map_cons, List.lookup_cons, List.lookup_cons]
    cases c == child.1 with
    | true => rfl
    | false => exact ih

/-! ## The function -/

/-- What the function returns where this value of so many characters is found. -/
def answer (s : Settings) : Option (Terminal × Nat) → Outcome × Nat
  | some (x, n) => (.token (constant s.tokenPrefix x.token), n)
  | none => (.error (message s), 1)

/-- **The function finds the longest value at the front of the input**, and reads this value only. -/
theorem runSymbol_body {symbols : Trie} (h : ∀ child ∈ symbols.root.children, Nameable s child.2)
    {input : String} (hi : input ≠ "") :
    runSymbol (body s symbols) input =
      .ok (answer s (symbols.edges.longest? input.toList)) := by
  obtain ⟨c, cs, he⟩ := List.exists_cons_of_ne_nil (l := input.toList) (by simpa using hi)
  let m : Machine := ⟨c :: cs, c, "", some '\x00'⟩
  have hlookup : (arms s symbols.root.children).lookup c = (symbols.edges.child? c).map (arm s) := by
    rw [lookup_arms, Edges.child?_eq_lookup]
    rfl
  have hproper := proper_arms s symbols.root.children
  have hleave : Stmt.leave.Proper := trivial
  refine runSymbol_of_result he (?_ : m.runBody 1 none (body s symbols) =
    .ok (.result (answer s _).1, (answer s _).2))
  rw [he, body]
  cases hc : symbols.edges.child? c with
  | none =>
    -- no symbol begins with the first character
    rw [hc] at hlookup
    have hr : m.run 1 (.switch .first (switchBody (arms s symbols.root.children) .leave)) =
        .ok (.next, 1) :=
      Machine.run_switch_default hproper hleave rfl hlookup rfl
    have hv : ∀ q, symbols.edges.valueAt (c :: q) = none := fun q => by
      rw [Edges.valueAt_cons_path, hc]
      rfl
    have hfound : symbols.edges.longest? (c :: cs) = none := by
      simp only [Edges.longest?, hv]
      cases cs <;> rfl
    rw [Machine.runBody_cons hr, hfound]
    rfl
  | some node =>
    rw [hc] at hlookup
    have hm : (c, node) ∈ symbols.root.children := by
      rw [Edges.child?_eq_lookup] at hc
      obtain ⟨xs, ys, hxs, -⟩ := List.lookup_eq_some_iff.1 hc
      rw [Node.children, Trie.root, hxs]
      simp
    have hv : ∀ q, symbols.edges.valueAt (c :: q) = node.edges.valueFrom node.terminal q :=
      fun q => by
        rw [Edges.valueAt_cons_path, hc]
        rfl
    have hnext : m.text[1]? = cs.head? := by cases cs <;> rfl
    have ha := runBody_arm (m := m) (h _ hm) 1
    have hr : m.run 1 (.switch .first (switchBody (arms s symbols.root.children) .leave)) = _ :=
      Machine.run_switch_case hproper hleave rfl hlookup ha (arrival_ne_next 1 _)
    have hfound : symbols.edges.longest? (c :: cs) =
        ((cs.head?.bind fun d => node.edges.valueAt [d]).map (·, 2)).or
          (node.terminal.map (·, 1)) := by
      simp only [Edges.longest?, hv]
      rfl
    rw [hnext, ← hfound] at hr
    cases hf : symbols.edges.longest? (c :: cs) with
    | some found =>
      rw [hf] at hr
      exact Machine.runBody_cons_of_ne_next hr (by simp [Flow.outside]) _
    | none =>
      rw [hf] at hr
      rw [Machine.runBody_cons hr]
      rfl

end SymbolDispatch

/-! ## Configurations -/

namespace Tokens

variable (tokens : Tokens)

/-- The name of the last symbol in the table that has these characters. -/
def lastSymbol? (value : String) : Option String :=
  (tokens.symbols.entries.filter (·.2 = value)).getLast?.map Prod.fst

/-- The longest symbol at the front of a text: its name and how many characters it has. -/
def longestSymbol? : List Char → Option (String × Nat)
  | [] => none
  | [c] => (tokens.lastSymbol? (String.ofList [c])).map (·, 1)
  | c :: d :: _ =>
    match tokens.lastSymbol? (String.ofList [c, d]) with
    | some name => some (name, 2)
    | none => (tokens.lastSymbol? (String.ofList [c])).map (·, 1)

end Tokens

namespace Generator

variable {d : ConfigDocument} {config : Config}

theorem lastToken?_symbols (tokens : Tokens) (value : String) :
    lastToken? (tokens.symbols.entries.map fun e => (e.2, e.1)) value =
      tokens.lastSymbol? value := by
  simp [lastToken?, Tokens.lastSymbol?, List.filter_map, List.getLast?_map, Function.comp_def]

theorem valueAt_symbolTrie (tokens : Tokens) {path : List Char} (h : path ≠ []) :
    (symbolTrie tokens).edges.valueAt path =
      (tokens.lastSymbol? (String.ofList path)).map (⟨String.ofList path, ·⟩) := by
  have hv := Trie.valueAt_ofList (tokens.symbols.entries.map fun e => (e.2, e.1))
    (show String.ofList path ≠ "" by simpa using h)
  rwa [String.toList_ofList, lastToken?_symbols] at hv

theorem longest?_symbolTrie (tokens : Tokens) (text : List Char) :
    ((symbolTrie tokens).edges.longest? text).map (fun found => (found.1.token, found.2)) =
      tokens.longestSymbol? text := by
  cases text with
  | nil => rfl
  | cons c cs =>
    rw [Edges.longest?, valueAt_symbolTrie tokens (by simp)]
    cases cs with
    | nil =>
      rw [Tokens.longestSymbol?]
      cases tokens.lastSymbol? (String.ofList [c]) <;> rfl
    | cons d cs =>
      rw [List.head?_cons, Option.bind_some, valueAt_symbolTrie tokens (by simp),
        Tokens.longestSymbol?]
      cases tokens.lastSymbol? (String.ofList [c, d]) with
      | some name => rfl
      | none => cases tokens.lastSymbol? (String.ofList [c]) <;> rfl

theorem mem_of_mem_terminals_symbolTrie {tokens : Tokens} {x : Terminal}
    (h : x ∈ (symbolTrie tokens).edges.terminals) :
    (x.token, x.value) ∈ tokens.symbols.entries := by
  obtain ⟨⟨name, value⟩, he, hxe⟩ := List.mem_map.1 (Trie.mem_of_mem_terminals h)
  cases hxe
  exact he

theorem length_le_of_mem_terminals {identTokenName : String} {tokens : Tokens}
    (hc : Config.Checked identTokenName tokens) :
    ∀ x ∈ (symbolTrie tokens).edges.terminals, x.value.length ≤ 2 := by
  intro x hx
  have h : x.value.length = 1 ∨ x.value.length = 2 :=
    hc.symbol_length (x.token, x.value) (mem_of_mem_terminals_symbolTrie hx)
  omega

theorem nameable_symbolTrie
    (hc : Config.Checked config.settings.identTokenName config.tokens)
    (hw : ∀ symbol ∈ config.tokens.symbols.entries,
      isWord (constant config.settings.tokenPrefix symbol.1) = true) :
    ∀ child ∈ (symbolTrie config.tokens).root.children,
      SymbolDispatch.Nameable config.settings child.2 := by
  have hx : ∀ x ∈ (symbolTrie config.tokens).edges.terminals,
      isWord (constant config.settings.tokenPrefix x.token) = true :=
    fun x hx => hw (x.token, x.value) (mem_of_mem_terminals_symbolTrie hx)
  exact SymbolDispatch.nameable_of_sound (Trie.sound_ofList _) (length_le_of_mem_terminals hc) hx

/-- **Symbol dispatch is longest match.**  Of several symbols with the same characters the last one
    counts.  The message is read from a literal, so digits that follow a NUL in it may be lost. -/
theorem classifySymbol_eq_longest (hd : (Config.ofDocument d).result = .ok config)
    (hn : SymbolDispatch.Names config.settings)
    (hw : ∀ symbol ∈ config.tokens.symbols.entries,
      isWord (constant config.settings.tokenPrefix symbol.1) = true) :
    ∃ code message, (ofConfig config).symbolCode.result = .ok code ∧
      (¬ NulBeforeOctal config.settings.errorMessage.toList →
        message = config.settings.errorMessage) ∧
      ∀ input, input ≠ "" → classifySymbol code.text input =
        .ok (match config.tokens.longestSymbol? input.toList with
          | some (name, n) => (.token (constant config.settings.tokenPrefix name), n)
          | none => (.error message, 1)) := by
  have h := nameable_symbolTrie (Config.checked_of_ofDocument hd) hw
  obtain ⟨text, he, hf⟩ := SymbolDispatch.function_of_emitNew hn h config.settings.tokenPrefix
  refine ⟨⟨text, _⟩, SymbolDispatch.message config.settings, congrArg Logged.result he, ?_, ?_⟩
  · intro hm
    rw [SymbolDispatch.message, reread_of_not_nulBeforeOctal hm, String.ofList_toList]
  · intro input hi
    have hr := SymbolDispatch.runSymbol_body (s := config.settings) h hi
    rw [← longest?_symbolTrie]
    change (function text).bind _ = _
    rw [hf]
    refine hr.trans ?_
    cases (symbolTrie config.tokens).edges.longest? input.toList <;> rfl

theorem classifySymbol_sample :
    ∃ code, (ofConfig Config.sample).symbolCode.result = .ok code ∧
      classifySymbol code.text "<=>" = .ok (.token "TOKEN_ATMOST", 2) ∧
      classifySymbol code.text "<" = .ok (.token "TOKEN_LESS", 1) ∧
      classifySymbol code.text "\x0077" = .ok (.token "TOKEN_NULSEVEN", 2) ∧
      classifySymbol code.text ":)" = .ok (.error "Unexpected character.", 1) := by
  have hn : SymbolDispatch.Names Config.sample.settings :=
    ⟨by decide, by decide, by decide, by decide, by decide, by decide, by decide⟩
  obtain ⟨code, message, hc, hm, h⟩ := classifySymbol_eq_longest Config.result_sampleDocument hn
    (by decide +kernel)
  have hr : reread "Unexpected character.".toList = "Unexpected character.".toList := by
    decide +kernel
  have hm : message = "Unexpected character." := hm fun hn => (reread_eq_self_iff.1 hr) hn
  have h₁ : Config.sample.tokens.longestSymbol? "<=>".toList = some ("atMost", 2) := by
    decide +kernel
  have h₂ : Config.sample.tokens.longestSymbol? "<".toList = some ("less", 1) := by decide +kernel
  have h₃ : Config.sample.tokens.longestSymbol? "\x0077".toList = some ("nulSeven", 2) := by
    decide +kernel
  have h₄ : Config.sample.tokens.longestSymbol? ":)".toList = none := by decide +kernel
  have ha : constant "TOKEN" "atMost" = "TOKEN_ATMOST" := by decide +kernel
  have hl : constant "TOKEN" "less" = "TOKEN_LESS" := by decide +kernel
  have hs : constant "TOKEN" "nulSeven" = "TOKEN_NULSEVEN" := by decide +kernel
  refine ⟨code, hc, ?_, ?_, ?_, ?_⟩
  · rw [h _ (by decide), h₁, ← ha]
    rfl
  · rw [h _ (by decide), h₂, ← hl]
    rfl
  · rw [h _ (by decide), h₃, ← hs]
    rfl
  · rw [h _ (by decide), h₄, hm]

end Generator

end ScannerDispatch
