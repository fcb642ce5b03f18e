import ScannerDispatch.Config.Reading
import ScannerDispatch.Proofs.Emission.Spelling

/-!
What is reported while code is generated.

* `exists_log_emit`: an emission adds some of the first events of its steps to the log, even if it
  fails.
* `IdentifierDispatch.reported_steps` and `SymbolDispatch.eq_noFallback_of_mem_reported`: the only
  events of the dispatch functions are those on symbols without a fallback.
* `Generator.wrote_notMem_generate`: no file is reported as written before all are generated.
-/

namespace ScannerDispatch

/-- An emission reports its first events, up to where it fails. -/
theorem exists_log_emit (steps : List Step) (session : Session) :
    ∃ events, events <+: reported steps ∧ (emit steps session).1.log = session.log ++ events := by
  induction steps generalizing session with
  | nil => exact ⟨[], List.nil_prefix, by simp⟩
  | cons x steps ih =>
    cases x with
    | write level text =>
      rw [emit]
      split
      · exact ih (session.write level text)
      · exact ⟨[], List.nil_prefix, by simp [Session.write]⟩
    | register c name => exact ih (session.register c name)
    | report e =>
      obtain ⟨events, hpre, hlog⟩ := ih (session.report e)
      refine ⟨e :: events, by simpa using hpre, ?_⟩
      rw [emit, hlog, Session.report, List.append_assoc]
      rfl
    | fail e => exact ⟨[], List.nil_prefix, by simp [emit]⟩

theorem mem_reported_of_mem_log {stem : String} {steps : List Step} {e : LogEvent}
    (h : e ∈ (emitNew stem steps).log) : e ∈ reported steps := by
  obtain ⟨events, hpre, hlog⟩ := exists_log_emit steps (.new stem)
  have hlog : (emitNew stem steps).log = [] ++ events := hlog
  rw [hlog, List.nil_append] at h
  exact hpre.subset h

/-! ## Dispatch functions -/

namespace IdentifierDispatch

variable (s : Settings)

theorem reported_caseList (level depth : Nat) (es : Edges) :
    reported (caseList s level depth es) = [] := by
  induction es generalizing level depth with
  | nil => rfl
  | cons c t below rest ihb ihr =>
    rw [caseList, List.cons_append, reported_write, reported_append, ihr, List.append_nil]
    cases below.only? t with
    | some k => rfl
    | none =>
      have hb := ihb (level + 2) (depth + 1)
      cases below.isEmpty with
      | true => rfl
      | false => cases t <;> simp [openBody, switchSteps, returnKeyword, hb] <;> rfl

/-- Identifier dispatch has nothing to report. -/
theorem reported_steps (keywords : Trie) : reported (steps s keywords) = [] := by
  have hb : reported (branchSteps s 0 keywords.root) = [] := by
    simp [branchSteps, switchSteps, Trie.root, reported_caseList]
    rfl
  rw [steps, List.cons_append, List.cons_append, reported_register, reported_line, reported_append,
    reported_map_deeper, hb]
  rfl

end IdentifierDispatch

namespace SymbolDispatch

variable (s : Settings)

theorem reported_nextSteps (level depth : Nat) (children : List (Char × Node)) :
    reported (nextSteps s level depth children) = [] := by
  induction children with
  | nil => rfl
  | cons child children ih =>
    obtain ⟨c, next⟩ := child
    rw [nextSteps]
    cases next.terminal with
    | none => rfl
    | some x => simpa [returnSymbol] using ih

theorem eq_noFallback_of_mem_caseBody {level depth : Nat} {node : Node} {e : LogEvent}
    (h : e ∈ reported (caseBody s level depth node)) : ∃ values, e = .noFallback values := by
  rw [caseBody] at h
  split at h
  · cases ht : node.terminal <;> rw [ht] at h <;> cases h
  · rw [List.cons_append, List.cons_append, reported_line, reported_append, reported_append,
      reported_nextSteps, fallbackSteps] at h
    cases ht : node.terminal with
    | some x =>
      rw [ht] at h
      cases h
    | none =>
      rw [ht] at h
      exact ⟨_, List.mem_singleton.1 h⟩

/-- The function reports what its cases report. -/
theorem reported_steps_eq (symbols : Trie) :
    reported (steps s symbols) = reported (symbols.root.children.flatMap fun child =>
      .write 0 ("case " ++ Literal.char child.1 ++ ":") :: caseBody s 0 1 child.2) := by
  rw [steps, List.cons_append, reported_line, reported_append, reported_map_deeper, branchSteps,
    List.cons_append, reported_line, reported_append]
  simp [reported, Step.line, Step.reported?]

/-- Symbol dispatch reports symbols without a fallback and nothing else. -/
theorem eq_noFallback_of_mem_reported {symbols : Trie} {e : LogEvent}
    (h : e ∈ reported (steps s symbols)) : ∃ values, e = .noFallback values := by
  have hcases : ∀ children : List (Char × Node), e ∈ reported (children.flatMap fun child =>
      .write 0 ("case " ++ Literal.char child.1 ++ ":") :: caseBody s 0 1 child.2) →
      ∃ values, e = .noFallback values := by
    intro children
    induction children with
    | nil => simp [reported]
    | cons child children ih =>
      intro h
      rw [List.flatMap_cons, List.cons_append, reported_write, reported_append] at h
      rcases List.mem_append.1 h with h | h
      · exact eq_noFallback_of_mem_caseBody s h
      · exact ih h
  exact hcases _ (reported_steps_eq s symbols ▸ h)

end SymbolDispatch

theorem Enumeration.reported_steps (r : Registry) (type : String) :
    reported (Enumeration.steps r type) = [] := by
  have hlines : ∀ lines : List String, reported (lines.map (.line 1)) = [] := by
    intro lines
    induction lines with
    | nil => rfl
    | cons text lines ih => exact ih
  have hgroups : ∀ gs, reported (Enumeration.groupSteps gs) = [] := by
    intro gs
    induction gs with
    | nil => rfl
    | cons g gs ih =>
      cases gs with
      | nil => exact hlines _
      | cons h gs =>
        rw [groupSteps, reported_append, Group.steps, reported_line, hlines, reported_line, ih]
        · rfl
        · simp
  rw [Enumeration.steps, List.cons_append, reported_line, reported_append, hgroups]
  rfl

/-! ## Configurations and generated files -/

/-- Reading a configuration reports unknown settings only. -/
theorem Config.wrote_notMem_ofToml (document path : String) :
    .wrote path ∉ (Config.ofToml document).log := by
  intro h
  rw [ofToml] at h
  cases hd : ConfigDocument.ofToml? document with
  | none => rw [hd] at h; cases h
  | some d =>
    rw [hd] at h
    have h : .wrote path ∈ (ofDocument d).log := h
    rw [ofDocument] at h
    split at h
    · cases h
    · simp at h

namespace Generator

theorem wrote_notMem_build {ε : Type} (config : Config) (path : String) :
    .wrote path ∉ (build config : Logged ε Generator).log := by
  simp [build, builtEvent]

variable (g : Generator)

theorem wrote_notMem_source (path : String) : .wrote path ∉ g.source.log := by
  intro h
  rcases Logged.mem_log_bind h with h | ⟨i, h⟩
  · have h := mem_reported_of_mem_log h
    rw [IdentifierDispatch.reported_steps] at h
    cases h
  · rcases Logged.mem_log_bind h with h | ⟨s, h⟩
    · obtain ⟨values, he⟩ := SymbolDispatch.eq_noFallback_of_mem_reported _
        (mem_reported_of_mem_log h)
      cases he
    · cases h

theorem wrote_notMem_headerDecls (r : Registry) (path : String) :
    .wrote path ∉ (g.headerDecls r).log := by
  intro h
  rcases Logged.mem_log_bind h with h | ⟨_, h⟩
  · have h : .wrote path ∈ (g.declared r).groups.map fun group =>
        LogEvent.classSize group.1 group.2.length := h
    simp at h
  · rcases Logged.mem_log_bind h with h | ⟨_, h⟩
    · have h := mem_reported_of_mem_log h
      rw [Enumeration.reported_steps] at h
      cases h
    · cases h

/-- **No file is reported as written while code is generated.** -/
theorem wrote_notMem_generate (path : String) : .wrote path ∉ g.generate.log := by
  intro h
  rcases Logged.mem_log_bind h with h | ⟨source, h⟩
  · exact wrote_notMem_source g path h
  · rcases Logged.mem_log_bind h with h | ⟨text, h⟩
    · exact wrote_notMem_headerDecls g source.registry path h
    · cases h

end Generator

end ScannerDispatch
