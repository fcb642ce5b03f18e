import ScannerDispatch.Proofs.Config.Checked
import ScannerDispatch.Proofs.Dispatch.IdentifierCode

/-!
What the identifier function returns.

The machine arrives at a node after the characters that lead to it.  From there on it finds the value
at the end of the remaining characters, and nothing if there is none: `Answers` says how a run tells.

* `settles_arms`: every arm of a switch finds the value below it.
* `runIdentifier_body`: the function finds the value at the end of the whole lexeme.  For a
  configuration, this is the lookup among its keywords.
-/

namespace ScannerDispatch

open Code

namespace IdentifierDispatch

variable (s : Settings) (m : Machine)

/-- A run that finds `expected` returns its constant.  A run that finds nothing returns the fallback
    or does not return. -/
def Answers (expected : Option Terminal) : Flow → Prop
  | .next | .leave => expected = none
  | .result o => o = .token (expected.elim m.fallback fun x => constant s.tokenPrefix x.token)

/-- The statements find `expected`, and none follow them. -/
def Settles (body : List Stmt) (expected : Option Terminal) : Prop :=
  ∃ f, m.runBody m.text.length none body = .ok (f, m.text.length) ∧ f ≠ .next ∧
    Answers s m expected f

variable {s m}

theorem Answers.outside {expected : Option Terminal} {f : Flow} (h : Answers s m expected f)
    (hf : f ≠ .next) : f.outside ≠ .leave ∧ Answers s m expected f.outside := by
  cases f with
  | next => contradiction
  | leave => exact ⟨by simp [Flow.outside], h⟩
  | result o => exact ⟨by simp [Flow.outside], h⟩

/-! ## Comparisons -/

/-- A comparison with the rest of a value succeeds on this rest only. -/
theorem compare_rest {x : Terminal} {start : Nat} (hx : x.value.length < wordBound)
    (hs : start ≤ x.value.length) (token : String) :
    m.compare m.text.length start (x.value.toList.drop start).length
        (String.ofList (x.value.toList.drop start)) token =
      .ok (.token (if start ≤ m.text.length ∧ m.text.drop start = x.value.toList.drop start then token
        else m.fallback)) := by
  have hlen : start + (x.value.toList.drop start).length = x.value.length := by
    rw [List.length_drop, String.length_toList]
    omega
  unfold Machine.compare
  rw [if_neg (by simp), if_neg (by omega)]
  by_cases hn : m.text.length = start + (x.value.toList.drop start).length
  · have hle : start ≤ m.text.length := by omega
    rw [if_neg (by simpa using hn), if_neg (by omega)]
    simp [hle]
  · rw [if_pos hn, if_neg]
    rintro ⟨hle, he⟩
    have := congrArg List.length he
    rw [List.length_drop] at this
    omega

theorem settles_returnStmt {x : Terminal} {start : Nat} (hx : x.value.length < wordBound)
    (hs : start ≤ x.value.length) :
    Settles s m [returnStmt s start x]
      (if start ≤ m.text.length ∧ m.text.drop start = x.value.toList.drop start then some x
        else none) := by
  refine ⟨.result (.token (if start ≤ m.text.length ∧
    m.text.drop start = x.value.toList.drop start then constant s.tokenPrefix x.token
    else m.fallback)), ?_, by simp, ?_⟩
  · refine Machine.runBody_cons_of_ne_next ?_ (by simp) []
    rw [returnStmt, Machine.run, Machine.eval, compare_rest hx hs]
    rfl
  · split <;> simp [Answers]

/-- After the switch at a node, a lexeme is found that ends there. -/
theorem settles_closing {t : Option Terminal} {consumed : Nat} (hc : consumed < wordBound)
    (ht : ∀ x ∈ t, x.value.length = consumed) :
    Settles s m [closing s consumed t] (if m.text.length = consumed then t else none) := by
  cases t with
  | none => exact ⟨.leave, rfl, by simp, by simp [Answers]⟩
  | some x =>
    have hx := ht x rfl
    have hle : consumed ≤ x.value.length := by omega
    have h := settles_returnStmt (s := s) (m := m) (by omega) hle
    have hd : x.value.toList.drop consumed = [] := by
      rw [List.drop_eq_nil_iff, String.length_toList]
      omega
    have hiff : consumed ≤ m.text.length ∧ m.text.drop consumed = [] ↔
        m.text.length = consumed := by
      rw [List.drop_eq_nil_iff]
      omega
    simpa only [hd, hiff, closing] using h

/-! ## Switches -/

theorem settles_openStmts {t : Option Terminal} {below : Edges} {consumed : Nat}
    {arms : List (Char × List Stmt)} (hc : consumed < wordBound)
    (ht : ∀ x ∈ t, x.value.length = consumed)
    (hb : consumed < m.text.length → ∃ f,
      m.run m.text.length (switchStmt consumed arms) = .ok (f, m.text.length) ∧ f ≠ .leave ∧
        Answers s m (below.valueAt (m.text.drop consumed)) f) :
    Settles s m (openStmts s consumed t arms)
      (if consumed ≤ m.text.length then below.valueFrom t (m.text.drop consumed) else none) := by
  by_cases hn : consumed < m.text.length
  · -- the lexeme goes on, so the switch is run
    have hd : m.text.drop consumed ≠ [] := by
      rw [Ne, List.drop_eq_nil_iff]
      omega
    obtain ⟨f, hr, hf, ha⟩ := hb hn
    have hguard : m.run m.text.length
        (.when (.longerThan consumed) (.block [switchStmt consumed arms])) =
          m.runBody m.text.length none [switchStmt consumed arms] := by
      simp [Machine.run, Machine.test, hn]
    rw [if_pos (by omega), Edges.valueFrom, if_neg hd]
    cases f with
    | leave => contradiction
    | next =>
      have hnone : below.valueAt (m.text.drop consumed) = none := ha
      obtain ⟨g, hg⟩ := settles_closing (s := s) (m := m) hc ht
      rw [if_neg (by omega)] at hg
      rw [hnone]
      have hnext : m.run m.text.length
          (.when (.longerThan consumed) (.block [switchStmt consumed arms])) =
            .ok (.next, m.text.length) := by
        rw [hguard, Machine.runBody_cons hr, Machine.runBody]
      refine ⟨g, ?_, hg.2⟩
      rw [openStmts, Machine.runBody_cons hnext, hg.1]
    | result o =>
      refine ⟨_, Machine.runBody_cons_of_ne_next ?_ (by simp) _, by simp, ha⟩
      rw [hguard]
      exact Machine.runBody_cons_of_ne_next hr (by simp) []
  · -- the lexeme ends here, or has ended before
    have hd : m.text.drop consumed = [] := List.drop_eq_nil_iff.2 (by omega)
    have hguard : m.run m.text.length
        (.when (.longerThan consumed) (.block [switchStmt consumed arms])) =
          .ok (.next, m.text.length) := by
      simp [Machine.run, Machine.test, hn]
    have hiff : consumed ≤ m.text.length ↔ m.text.length = consumed := by omega
    obtain ⟨g, hg⟩ := settles_closing (s := s) (m := m) hc ht
    refine ⟨g, ?_, hg.2.1, ?_⟩
    · rw [openStmts, Machine.runBody_cons hguard, hg.1]
    · rw [hd, Edges.valueFrom, if_pos rfl]
      simpa only [hiff] using hg.2.2

theorem valueAt_of_lookup_arms {es : Edges} {depth : Nat} {c : Char}
    (h : (arms s depth es).lookup c = none) (q : List Char) : es.valueAt (c :: q) = none := by
  induction es with
  | nil => rfl
  | cons d t below rest _ ihr =>
    rw [arms, List.lookup_cons] at h
    by_cases hd : c = d
    · simp [hd] at h
    · rw [beq_false_of_ne hd] at h
      rw [Edges.valueAt_cons, if_neg hd]
      exact ihr h

/-- A switch finds what its arms find. -/
theorem run_switchStmt {es : Edges} {depth : Nat} {c : Char}
    (ha : ∀ c stmts, (arms s depth es).lookup c = some stmts → Settles s m stmts
      (if depth < m.text.length then es.valueAt (c :: m.text.drop (depth + 1)) else none))
    (hl : m.look (.start depth) = .ok c) : ∃ f,
      m.run m.text.length (switchStmt depth (arms s depth es)) = .ok (f, m.text.length) ∧
      f ≠ .leave ∧ Answers s m (es.valueAt (m.text.drop depth)) f := by
  have hv : es.valueAt (m.text.drop depth) =
      if depth < m.text.length then es.valueAt (c :: m.text.drop (depth + 1)) else none := by
    by_cases hn : depth < m.text.length
    · have hc : m.text[depth] = c := by simpa [Machine.look, hn] using hl
      rw [if_pos hn, List.drop_eq_getElem_cons hn, hc]
    · rw [if_neg hn, List.drop_eq_nil_iff.2 (by omega), Edges.valueAt_nil]
  have hempty : Stmt.empty.Proper := trivial
  rw [hv]
  cases hc : (arms s depth es).lookup c with
  | none =>
    refine ⟨.next, ?_, by simp, ?_⟩
    · exact Machine.run_switch_default (proper_arms s depth es) hempty hl hc rfl
    · rw [valueAt_of_lookup_arms hc, ite_self]
      rfl
  | some stmts =>
    obtain ⟨f, hr, hf, hans⟩ := ha c stmts hc
    refine ⟨f.outside, ?_, hans.outside hf⟩
    exact Machine.run_switch_case (proper_arms s depth es) hempty hl hc hr hf

/-- **Every arm of a switch finds the value at the end of the remaining characters.** -/
theorem settles_arms {es : Edges} {p : List Char} (hs : es.Sound p)
    (ht : ∀ x ∈ es.terminals, x.value.length < wordBound) {c : Char} {stmts : List Stmt}
    (hc : (arms s p.length es).lookup c = some stmts) :
    Settles s m stmts (if p.length < m.text.length then
      es.valueAt (c :: m.text.drop (p.length + 1)) else none) := by
  induction es generalizing p c stmts with
  | nil => simp [arms] at hc
  | cons d t below rest ihb ihr =>
    rw [arms, List.lookup_cons] at hc
    by_cases hd : c = d
    · subst hd
      simp only [beq_self_eq_true, Option.some.injEq] at hc
      subst hc
      have htb : ∀ x ∈ below.terminals ++ t.toList, x.value.length < wordBound := fun x hx =>
        ht x (List.mem_append_left _ hx)
      have hlen : (p ++ [c]).length = p.length + 1 := by simp
      have hown : ∀ x ∈ t, x.value.toList = p ++ [c] := hs.1
      rw [Edges.valueAt_cons, if_pos rfl]
      cases ho : below.only? t with
      | some k =>
        obtain ⟨hp, hq⟩ := Edges.valueFrom_of_only? ho hown hs.2.2.2.1
        have hk := htb k (Edges.mem_terminals_of_only? ho)
        have hle := hp.length_le
        rw [hlen, String.length_toList] at hle
        have h := settles_returnStmt (s := s) (m := m) hk hle
        rw [hq, hlen]
        by_cases hn : p.length < m.text.length
        · simpa [hn, Nat.succ_le_of_lt] using h
        · simpa [hn, Nat.succ_le_iff] using h
      | none =>
        have hdepth : p.length + 1 < wordBound := hs.length_lt htb
        have hb : ∀ c stmts, (arms s (p.length + 1) below).lookup c = some stmts → _ :=
          fun c stmts h => ihb hs.2.2.2.1 (fun x hx => htb x (List.mem_append_left _ hx))
            (by rwa [hlen])
        refine settles_openStmts hdepth ?_ ?_
        · intro x hx
          rw [← String.length_toList, hown x hx, hlen]
        · intro hn
          rw [hlen] at hb
          exact run_switchStmt (c := m.text[p.length + 1]) hb (by simp [Machine.look, hn])
    · rw [beq_false_of_ne hd] at hc
      rw [Edges.valueAt_cons, if_neg hd]
      exact ihr hs.2.2.2.2 (fun x hx => ht x (List.mem_append_right _ hx)) hc

/-! ## The function -/

/-- **The function finds the value at the end of the lexeme.**  It may look beyond the end of the
    empty lexeme only. -/
theorem runIdentifier_body {keywords : Trie} (hs : keywords.edges.Sound [])
    (ht : ∀ x ∈ keywords.edges.terminals, x.value.length < wordBound) (lexeme : String)
    {beyond : Option Char} (hb : lexeme ≠ "" ∨ beyond ≠ none) :
    runIdentifier (body s keywords) lexeme (constant s.tokenPrefix s.identTokenName) beyond =
      .ok (.token (constant s.tokenPrefix
        ((keywords.edges.valueAt lexeme.toList).elim s.identTokenName Terminal.token))) := by
  let m : Machine := ⟨lexeme.toList, '\x00', constant s.tokenPrefix s.identTokenName, beyond⟩
  have hlook : ∃ c, m.look (.start 0) = .ok c := by
    cases he : lexeme.toList with
    | nil =>
      obtain ⟨c, rfl⟩ := Option.ne_none_iff_exists'.1 (hb.resolve_left (by simpa using he))
      exact ⟨c, by simp [m, Machine.look, he]⟩
    | cons c cs => exact ⟨c, by simp [m, Machine.look, he]⟩
  obtain ⟨c, hc⟩ := hlook
  have harms : ∀ c stmts, (arms s 0 keywords.edges).lookup c = some stmts → Settles s m stmts _ :=
    fun c stmts h => settles_arms hs ht h
  obtain ⟨f, hr, hf, ha⟩ := run_switchStmt harms hc
  have hbody : m.runBody m.text.length none (body s keywords) =
      .ok (.result (.token (constant s.tokenPrefix
        ((keywords.edges.valueAt lexeme.toList).elim s.identTokenName Terminal.token))),
        m.text.length) := by
    have ha : Answers s m (keywords.edges.valueAt lexeme.toList) f := ha
    cases f with
    | leave => contradiction
    | next =>
      have hnone : keywords.edges.valueAt lexeme.toList = none := ha
      rw [body, Machine.runBody_cons hr, hnone]
      rfl
    | result o =>
      have ho : o = _ := ha
      rw [body, Machine.runBody_cons_of_ne_next hr (by simp), ho]
      cases keywords.edges.valueAt lexeme.toList <;> rfl
  exact runIdentifier_of_result hbody

end IdentifierDispatch

/-! ## Configurations -/

/-- No constant that is a word has a NUL in it, so no value of such a token has. -/
theorem not_nulBeforeOctal_of_isWord {stem name : String} (h : isWord (constant stem name) = true) :
    ¬ NulBeforeOctal name.toList := by
  rintro ⟨d, -, hd⟩
  have hn : '\x00' ∈ name.toList := hd.subset (List.mem_cons_self ..)
  have hu : '\x00' ∈ (Text.upper name).toList := by
    rw [Text.toList_upper]
    exact List.mem_flatMap.2 ⟨_, hn, by decide +kernel⟩
  have hw := inWord_of_mem h (c := '\x00') (by simp [constant, hu])
  exact absurd hw (by decide)

namespace Generator

variable {d : ConfigDocument} {config : Config}

/-- The values of the trie of keywords are the keywords. -/
theorem valueAt_keywordTrie (h : Config.Checked config.settings.identTokenName config.tokens)
    (lexeme : String) : (keywordTrie config.tokens).edges.valueAt lexeme.toList =
      if lexeme ∈ config.tokens.keywords then some ⟨lexeme, lexeme⟩ else none := by
  by_cases he : lexeme = ""
  · have hm : "" ∉ config.tokens.keywords := fun hm => h.keyword_ne "" hm rfl
    simp [he, hm]
  · rw [keywordTrie, Trie.valueAt_ofList _ he, lastToken?_map_self]
    split <;> rfl

theorem spellable_keywordTrie
    (hw : ∀ keyword ∈ config.tokens.keywords,
      isWord (constant config.settings.tokenPrefix keyword) = true)
    (hl : ∀ keyword ∈ config.tokens.keywords, keyword.length < wordBound) :
    ∀ x ∈ (keywordTrie config.tokens).edges.terminals,
      IdentifierDispatch.Spellable config.settings x := by
  intro x hx
  obtain ⟨k, hk, he⟩ := List.mem_map.1 (Trie.mem_of_mem_terminals hx)
  obtain ⟨value, token⟩ := x
  obtain ⟨rfl, rfl⟩ := Prod.mk.inj he
  exact ⟨hw k hk, hl k hk, not_nulBeforeOctal_of_isWord (hw k hk)⟩

/-- **Identifier dispatch is keyword lookup.**  The words ensure that the code can be read; a machine
    word counts the characters of every keyword that fits into memory. -/
theorem classifyIdentifier_eq_lookup
    (hd : (Config.ofDocument d).result = .ok config)
    (hn : IdentifierDispatch.Names config.settings)
    (hw : ∀ keyword ∈ config.tokens.keywords,
      isWord (constant config.settings.tokenPrefix keyword) = true)
    (hl : ∀ keyword ∈ config.tokens.keywords, keyword.length < wordBound) :
    ∃ code, (ofConfig config).identifierCode.result = .ok code ∧
      ∀ lexeme, classifyIdentifier code.text lexeme
          (constant config.settings.tokenPrefix config.settings.identTokenName) =
        .ok (.token (constant config.settings.tokenPrefix
          (if lexeme ∈ config.tokens.keywords then lexeme
            else config.settings.identTokenName))) := by
  have hs := Trie.sound_ofList (config.tokens.keywords.map fun k => (k, k))
  have ht := spellable_keywordTrie hw hl
  obtain ⟨text, he, hf⟩ :=
    IdentifierDispatch.function_of_emitNew hn hs ht config.settings.tokenPrefix
  refine ⟨⟨text, _⟩, congrArg Logged.result he, ?_⟩
  intro lexeme
  have hbeyond : lexeme ≠ "" ∨ some '\x00' ≠ none := .inr (by simp)
  have hr := IdentifierDispatch.runIdentifier_body (s := config.settings) hs
    (fun x hx => (ht x hx).length_lt) lexeme hbeyond
  have hv := valueAt_keywordTrie (Config.checked_of_ofDocument hd) lexeme
  rw [keywordTrie] at hv
  rw [hv] at hr
  change (function text).bind _ = _
  rw [hf]
  refine hr.trans ?_
  split <;> rfl

theorem classifyIdentifier_sample :
    ∃ code, (ofConfig Config.sample).identifierCode.result = .ok code ∧
      classifyIdentifier code.text "iff" "TOKEN_IDENTIFIER" = .ok (.token "TOKEN_IFF") ∧
      classifyIdentifier code.text "groß" "TOKEN_IDENTIFIER" = .ok (.token "TOKEN_GROSS") ∧
      classifyIdentifier code.text "ifft" "TOKEN_IDENTIFIER" = .ok (.token "TOKEN_IDENTIFIER") ∧
      classifyIdentifier code.text "" "TOKEN_IDENTIFIER" = .ok (.token "TOKEN_IDENTIFIER") := by
  have hn : IdentifierDispatch.Names Config.sample.settings :=
    ⟨by decide, by decide, by decide, by decide, by decide +kernel⟩
  obtain ⟨code, hc, h⟩ := classifyIdentifier_eq_lookup Config.result_sampleDocument hn
    (by decide +kernel) (by decide +kernel)
  have hi : constant "TOKEN" "identifier" = "TOKEN_IDENTIFIER" := by decide +kernel
  have hf : constant "TOKEN" "iff" = "TOKEN_IFF" := by decide +kernel
  have hg : constant "TOKEN" "groß" = "TOKEN_GROSS" := by decide +kernel
  have h : ∀ lexeme, classifyIdentifier code.text lexeme (constant "TOKEN" "identifier") =
      .ok (.token (constant "TOKEN"
        (if lexeme ∈ Config.sample.tokens.keywords then lexeme else "identifier"))) := h
  rw [hi] at h
  refine ⟨code, hc, ?_, ?_, ?_, ?_⟩
  · rw [h, if_pos (by decide), hf]
  · rw [h, if_pos (by decide), hg]
  · rw [h, if_neg (by decide), hi]
  · rw [h, if_neg (by decide), hi]

end Generator

end ScannerDispatch
