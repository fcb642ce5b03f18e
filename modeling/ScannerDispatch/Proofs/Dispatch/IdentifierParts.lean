import ScannerDispatch.Proofs.Code.Parts
import ScannerDispatch.Proofs.Dispatch.IdentifierRun
import ScannerDispatch.Proofs.Trie.Keywords

/-!
The switches, conditions and comparisons of the identifier function.

* `parts_arms`: there is one condition and one switch for each fork of the trie, and one call for each
  comparison.
* `Collapsed` says which parts a function for some keywords has: a switch for every shared beginning,
  and for each keyword one comparison with what is left of it behind its split point.
* `Generator.collapsed_identifierCode`: the emitted function is of this form.
-/

namespace ScannerDispatch

open Code

/-! ## Parts -/

theorem perm_append_append {α : Type} {xs ys as bs cs ds : List α} (hx : xs.Perm (as ++ bs))
    (hy : ys.Perm (cs ++ ds)) : (xs ++ ys).Perm ((as ++ cs) ++ (bs ++ ds)) := by
  refine (hx.append hy).trans ?_
  rw [List.append_assoc, List.append_assoc]
  exact (List.perm_append_comm_assoc bs cs ds).append_left as

namespace IdentifierDispatch

variable (s : Settings)

/-- The switch at a fork. -/
def forkSwitch (fork : List Char × Node) : SwitchAt :=
  ⟨⟨fork.1, some (.longerThan fork.1.length)⟩, .start fork.1.length, fork.2.edges.labels⟩

/-- The parts that a fork leads to: its switch, and the condition that the lexeme goes on. -/
def forkParts (fork : List Char × Node) : List Part :=
  [.condition fork.1 (.longerThan fork.1.length), .switch (forkSwitch fork)]

/-- The call that compares the lexeme with what is left of a keyword behind a path. -/
def comparison (path : List Char) (keyword : Terminal) : CallAt :=
  let rest := keyword.value.toList.drop path.length
  ⟨path, s.checkKeywordFunctionName, [.name "scanner", .int path.length, .int rest.length,
    .text (String.ofList rest), .name (constant s.tokenPrefix keyword.token)]⟩

theorem parts_returnStmt (path : List Char) (cond : Option Cond) (x : Terminal) :
    (returnStmt s path.length x).parts ⟨path, cond⟩ = [.call (comparison s path x)] :=
  rfl

theorem parts_closing (path : List Char) (cond : Option Cond) (t : Option Terminal) :
    (closing s path.length t).parts ⟨path, cond⟩ =
      t.toList.map fun x => .call (comparison s path x) := by
  cases t with
  | none => rfl
  | some x => exact parts_returnStmt s path cond x

theorem map_fst_arms (depth : Nat) (es : Edges) : (arms s depth es).map Prod.fst = es.labels := by
  induction es with
  | nil => rfl
  | cons c t below rest _ ih => rw [arms, List.map_cons, ih, Edges.labels_cons]

/-- The parts of a switch are those of its arms. -/
theorem parts_switchStmt (depth : Nat) (es : Edges) (here : Place) :
    (switchStmt depth (arms s depth es)).parts here =
      .switch ⟨here, .start depth, es.labels⟩ :: Stmt.partsOfArms here (arms s depth es) := by
  have hempty : Stmt.empty.Proper := trivial
  rw [switchStmt, Stmt.parts, caseLabels_switchBody (proper_arms s depth es) hempty, map_fst_arms,
    Stmt.partsAll_switchBody (proper_arms s depth es), Stmt.parts, List.append_nil]

/-- The parts of what stands at a fork. -/
theorem parts_openStmts (path : List Char) (cond : Option Cond) (t : Option Terminal)
    (below : Edges) :
    Stmt.partsAll ⟨path, cond⟩ ⟨path, cond⟩
        (openStmts s path.length t (arms s path.length below)) =
      forkParts (path, ⟨t, below⟩) ++
        (Stmt.partsOfArms ⟨path, some (.longerThan path.length)⟩ (arms s path.length below) ++
          t.toList.map fun x => .call (comparison s path x)) := by
  have hguard : (Stmt.when (.longerThan path.length)
      (.block [switchStmt path.length (arms s path.length below)])).parts ⟨path, cond⟩ =
        .condition path (.longerThan path.length) ::
          (switchStmt path.length (arms s path.length below)).parts
            ⟨path, some (.longerThan path.length)⟩ := by
    rw [Stmt.parts, Stmt.parts, Stmt.partsAll_singleton]
  rw [openStmts, Stmt.partsAll, Stmt.partsAll_singleton, hguard, parts_switchStmt,
    ← parts_closing s path cond t]
  rfl

/-- **There is one condition and one switch for each fork, and one call for each comparison.** -/
theorem parts_arms (p : List Char) (cond : Option Cond) (es : Edges) :
    (Stmt.partsOfArms ⟨p, cond⟩ (arms s p.length es)).Perm
      ((es.forks p).flatMap forkParts ++
        (es.comparisons p).map fun c => .call (comparison s c.1 c.2)) := by
  induction es generalizing p cond with
  | nil => exact .rfl
  | cons c t below rest ihb ihr =>
    have hlen : p.length + 1 = (p ++ [c]).length := by simp
    have hunder : Place.under ⟨p, cond⟩ c = ⟨p ++ [c], cond⟩ := rfl
    rw [arms, Stmt.partsOfArms_cons, Edges.forks, Edges.comparisons, List.flatMap_append,
      List.map_append, hunder, hlen]
    refine perm_append_append ?_ (ihr p cond)
    cases ho : below.only? t with
    | some k => exact .rfl
    | none =>
      have hbelow := ihb (p ++ [c]) (some (.longerThan (p ++ [c]).length))
      have h := (hbelow.append_right (t.toList.map fun x =>
        .call (comparison s (p ++ [c]) x))).append_left (forkParts (p ++ [c], ⟨t, below⟩))
      rw [parts_openStmts]
      refine h.trans (.of_eq ?_)
      rw [List.flatMap_cons, List.map_append, List.map_map]
      simp only [List.append_assoc]
      rfl

/-- The parts of the function: the switch at the root, and those of its arms. -/
theorem parts_body (keywords : Trie) : (Stmt.partsAll {} {} (body s keywords)).Perm
    (.switch ⟨{}, .start 0, keywords.edges.labels⟩ ::
      ((keywords.edges.forks []).flatMap forkParts ++
        (keywords.edges.comparisons []).map fun c => .call (comparison s c.1 c.2))) := by
  have hresult (here : Place) :
      (Stmt.result (.name (constant s.tokenPrefix s.identTokenName))).parts here = [] := rfl
  rw [body, Stmt.partsAll, Stmt.partsAll_singleton, hresult, List.append_nil, parts_switchStmt]
  exact (parts_arms s [] none keywords.edges).cons _

theorem switches_body (keywords : Trie) : (switches (body s keywords)).Perm
    (⟨{}, .start 0, keywords.edges.labels⟩ :: (keywords.edges.forks []).map forkSwitch) := by
  have h := (parts_body s keywords).filterMap Part.switch?
  simpa [List.filterMap_flatMap, List.filterMap_cons, Function.comp_def, forkParts, Part.switch?,
    ← List.map_eq_flatMap, switches] using h

theorem mem_switches_body {keywords : Trie} {switch : SwitchAt} :
    switch ∈ switches (body s keywords) ↔ switch = ⟨{}, .start 0, keywords.edges.labels⟩ ∨
      ∃ f ∈ keywords.edges.forks [], forkSwitch f = switch := by
  rw [(switches_body s keywords).mem_iff, List.mem_cons, List.mem_map]

theorem conditions_body (keywords : Trie) : (conditions (body s keywords)).Perm
    ((keywords.edges.forks []).map fun f => (f.1, .longerThan f.1.length)) := by
  have h := (parts_body s keywords).filterMap Part.condition?
  simpa [List.filterMap_flatMap, List.filterMap_cons, Function.comp_def, forkParts,
    Part.condition?, ← List.map_eq_flatMap, conditions] using h

theorem calls_body (keywords : Trie) : (calls (body s keywords)).Perm
    ((keywords.edges.comparisons []).map fun c => comparison s c.1 c.2) := by
  have h := (parts_body s keywords).filterMap Part.call?
  have hforks : ((keywords.edges.forks []).flatMap fun f => (forkParts f).filterMap Part.call?) =
      [] := List.flatMap_eq_nil_iff.2 fun _ _ => rfl
  rw [List.filterMap_cons_none rfl, List.filterMap_append, List.filterMap_flatMap, hforks] at h
  simpa [Function.comp_def, Part.call?, calls] using h

end IdentifierDispatch

/-! ## Functions for keywords -/

/-- A switch for the keywords that begin with the labels it stands under. -/
structure SwitchFor (keywords : List String) (switch : SwitchAt) : Prop where
  /-- It looks at the next character. -/
  subject_eq : switch.subject = .start switch.place.path.length
  /-- It is reached if there is one.  The first character is looked at in any case. -/
  cond_eq : switch.place.cond =
    if switch.place.path = [] then none else some (.longerThan switch.place.path.length)
  nodup_cases : switch.cases.Nodup
  /-- There is a case for each character with which some keyword goes on. -/
  mem_cases_iff : ∀ c, c ∈ switch.cases ↔ ∃ k ∈ keywords, switch.place.path ++ [c] <+: k.toList
  /-- The cases stand in the order in which keywords first go on with their characters. -/
  pairwise_cases : switch.cases.Pairwise fun c d =>
    firstBeginning keywords (switch.place.path ++ [c]) <
      firstBeginning keywords (switch.place.path ++ [d])

/-- The call that compares the lexeme with what is left of a keyword behind its split point. -/
def keywordCall (s : Settings) (keywords : List String) (k : String) : CallAt :=
  let n := splitPoint keywords k
  ⟨k.toList.take n, s.checkKeywordFunctionName, [.name "scanner", .int n, .int (k.length - n),
    .text (String.ofList (k.toList.drop n)), .name (constant s.tokenPrefix k)]⟩

/-- A function that tells the keywords apart where they differ, and compares what is left of each one
    at once. -/
structure Collapsed (s : Settings) (keywords : List String) (body : List Stmt) : Prop where
  /-- No two switches stand under the same labels. -/
  nodup_switches : ((switches body).map fun switch => switch.place.path).Nodup
  /-- There is a switch at the beginning, and one under each shared beginning. -/
  exists_switch_iff : ∀ path, (∃ switch ∈ switches body, switch.place.path = path) ↔
    path = [] ∨ Shared keywords path
  switchFor : ∀ switch ∈ switches body, SwitchFor keywords switch
  nodup_conditions : (conditions body).Nodup
  /-- There is a condition under each shared beginning. -/
  mem_conditions_iff : ∀ path cond, (path, cond) ∈ conditions body ↔
    path ≠ [] ∧ Shared keywords path ∧ cond = .longerThan path.length
  /-- There is one call for each keyword. -/
  calls_perm : (calls body).Perm (keywords.dedup.map (keywordCall s keywords))

section
variable {keywords : List String}

/-- The labels at a node are those of a switch for its path. -/
theorem switchFor_of_find {q : List Char} {n : Node}
    (h : (Trie.ofKeywords keywords).find (String.ofList q) = some n) :
    SwitchFor keywords ⟨⟨q, if q = [] then none else some (.longerThan q.length)⟩,
      .start q.length, n.edges.labels⟩ := by
  obtain ⟨-, hnodup, hmem, hpairwise, -⟩ := Trie.isPrefixNode_of_find h
  rw [String.toList_ofList] at hmem hpairwise
  refine ⟨rfl, rfl, hnodup, fun c => (hmem c).trans (by simp), hpairwise.imp fun hlt => ?_⟩
  rwa [firstWith_map_self, firstWith_map_self] at hlt

theorem switchFor_root :
    SwitchFor keywords ⟨{}, .start 0, (Trie.ofKeywords keywords).edges.labels⟩ :=
  switchFor_of_find (Trie.find_empty_path _)

theorem switchFor_forkSwitch {f : List Char × Node}
    (h : f ∈ (Trie.ofKeywords keywords).edges.forks []) :
    SwitchFor keywords (IdentifierDispatch.forkSwitch f) := by
  obtain ⟨hne, hfind, -⟩ := Trie.mem_forks_ofList_iff.1 h
  have hswitch := switchFor_of_find hfind
  rwa [if_neg hne] at hswitch

/-- At its split point a keyword is compared by its own call. -/
theorem comparison_eq_keywordCall (s : Settings) (hne : "" ∉ keywords)
    {c : List Char × Terminal} (hc : c ∈ (Trie.ofKeywords keywords).edges.comparisons []) :
    IdentifierDispatch.comparison s c.1 c.2 = keywordCall s keywords c.2.value := by
  obtain ⟨hp, hsplit⟩ := splitPoint_of_mem_comparisons hne hc
  have hterminal : c.2 ∈ (Trie.ofKeywords keywords).edges.terminals := by
    rw [← Edges.map_snd_comparisons []]
    exact List.mem_map_of_mem hc
  rw [IdentifierDispatch.comparison, keywordCall, hsplit, ← List.prefix_iff_eq_take.1 hp,
    List.length_drop, String.length_toList, (mem_terminals_ofKeywords hterminal).2]

/-- No two switches of the function stand under the same labels. -/
theorem nodup_switches_body (s : Settings) : ((switches (IdentifierDispatch.body s
    (.ofKeywords keywords))).map fun switch => switch.place.path).Nodup := by
  refine ((IdentifierDispatch.switches_body s _).map _).nodup_iff.2 ?_
  rw [List.map_cons, List.map_map]
  refine List.nodup_cons.2 ⟨fun h => ?_, (sound_ofKeywords keywords).nodup_forks⟩
  obtain ⟨⟨q, n⟩, hm, rfl⟩ := List.mem_map.1 h
  exact Edges.not_mem_forks_self [] _ n hm

/-- The switches stand at the beginning and under the shared beginnings. -/
theorem exists_mem_switches_body (s : Settings) (hne : "" ∉ keywords) (path : List Char) :
    (∃ switch ∈ switches (IdentifierDispatch.body s (.ofKeywords keywords)),
      switch.place.path = path) ↔ path = [] ∨ Shared keywords path := by
  constructor
  · rintro ⟨switch, h, rfl⟩
    rcases (IdentifierDispatch.mem_switches_body s).1 h with rfl | ⟨f, hf, rfl⟩
    · exact .inl rfl
    · exact .inr ((exists_mem_forks_iff hne).1 ⟨f.2, hf⟩).2
  · intro h
    by_cases hp : path = []
    · exact ⟨_, (IdentifierDispatch.mem_switches_body s).2 (.inl rfl), hp.symm⟩
    · obtain ⟨n, hf⟩ := (exists_mem_forks_iff hne).2 ⟨hp, h.resolve_left hp⟩
      exact ⟨_, (IdentifierDispatch.mem_switches_body s).2 (.inr ⟨_, hf, rfl⟩), rfl⟩

/-- The conditions stand under the shared beginnings. -/
theorem mem_conditions_body (s : Settings) (hne : "" ∉ keywords) (path : List Char) (cond : Cond) :
    (path, cond) ∈ conditions (IdentifierDispatch.body s (.ofKeywords keywords)) ↔
      path ≠ [] ∧ Shared keywords path ∧ cond = .longerThan path.length := by
  rw [(IdentifierDispatch.conditions_body s _).mem_iff, List.mem_map]
  constructor
  · rintro ⟨f, hf, he⟩
    obtain ⟨rfl, rfl⟩ := Prod.mk.inj he
    obtain ⟨hp, hshared⟩ := (exists_mem_forks_iff hne).1 ⟨f.2, hf⟩
    exact ⟨hp, hshared, rfl⟩
  · rintro ⟨hp, hshared, rfl⟩
    obtain ⟨n, hf⟩ := (exists_mem_forks_iff hne).2 ⟨hp, hshared⟩
    exact ⟨_, hf, rfl⟩

/-- **The function for some keywords collapses what they do not share.** -/
theorem collapsed_body (s : Settings) (hne : "" ∉ keywords) :
    Collapsed s keywords (IdentifierDispatch.body s (.ofKeywords keywords)) where
  nodup_switches := nodup_switches_body s
  exists_switch_iff := exists_mem_switches_body s hne
  switchFor switch h := by
    rcases (IdentifierDispatch.mem_switches_body s).1 h with rfl | ⟨f, hf, rfl⟩
    · exact switchFor_root
    · exact switchFor_forkSwitch hf
  nodup_conditions := by
    refine (IdentifierDispatch.conditions_body s _).nodup_iff.2 (List.Nodup.of_map Prod.fst ?_)
    rw [List.map_map]
    exact (sound_ofKeywords keywords).nodup_forks
  mem_conditions_iff := mem_conditions_body s hne
  calls_perm := by
    refine (IdentifierDispatch.calls_body s _).trans ?_
    rw [List.map_congr_left fun c hc => comparison_eq_keywordCall s hne hc]
    have h := (perm_comparisons hne).map (keywordCall s keywords)
    rwa [List.map_map] at h

end

namespace Generator

variable {d : ConfigDocument} {config : Config}

/-- **The identifier function of a configuration collapses what its keywords do not share.** -/
theorem collapsed_identifierCode
    (hd : (Config.ofDocument d).result = .ok config)
    (hn : IdentifierDispatch.Names config.settings)
    (hw : ∀ keyword ∈ config.tokens.keywords,
      isWord (constant config.settings.tokenPrefix keyword) = true)
    (hl : ∀ keyword ∈ config.tokens.keywords, keyword.length < wordBound) :
    ∃ code body, (ofConfig config).identifierCode.result = .ok code ∧
      function code.text = .ok body ∧
      Collapsed config.settings config.tokens.keywords body := by
  obtain ⟨text, he, hf⟩ := IdentifierDispatch.function_of_emitNew hn
    (sound_ofKeywords config.tokens.keywords) (spellable_keywordTrie hw hl)
    config.settings.tokenPrefix
  have hne : "" ∉ config.tokens.keywords :=
    fun h => (Config.checked_of_ofDocument hd).keyword_ne "" h rfl
  exact ⟨⟨text, _⟩, _, congrArg Logged.result he, hf, collapsed_body config.settings hne⟩

theorem collapsed_sample : ∃ code body,
    (ofConfig Config.sample).identifierCode.result = .ok code ∧ function code.text = .ok body ∧
      (∃ switch ∈ switches body, switch.place.path = "iff".toList) ∧
      (¬ ∃ switch ∈ switches body, switch.place.path = "iffy".toList) ∧
      (calls body).length = 5 ∧
      ⟨"g".toList, "checkKeyword", [.name "scanner", .int 1, .int 3, .text "roß",
        .name "TOKEN_GROSS"]⟩ ∈ calls body ∧
      ⟨"iff".toList, "checkKeyword", [.name "scanner", .int 3, .int 0, .text "",
        .name "TOKEN_IFF"]⟩ ∈ calls body := by
  have hn : IdentifierDispatch.Names Config.sample.settings :=
    ⟨by decide, by decide, by decide, by decide, by decide +kernel⟩
  obtain ⟨code, body, hc, hf, h⟩ := collapsed_identifierCode Config.result_sampleDocument hn
    (by decide +kernel) (by decide +kernel)
  refine ⟨code, body, hc, hf, ?_, ?_, ?_, ?_, ?_⟩
  · exact (h.exists_switch_iff _).2 (.inr ⟨"iff", by decide, "iffy", by decide, by decide,
      by decide, by decide⟩)
  · rw [h.exists_switch_iff]
    unfold Shared
    decide +kernel
  · rw [h.calls_perm.length_eq]
    decide +kernel
  · rw [h.calls_perm.mem_iff]
    decide +kernel
  · rw [h.calls_perm.mem_iff]
    decide +kernel

end Generator

end ScannerDispatch
