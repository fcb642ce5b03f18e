import ScannerDispatch.Proofs.Code.Events
import ScannerDispatch.Proofs.Dispatch.IdentifierRun

/-!
The identifier function reads no character beyond the end of the lexeme.

A switch on the character at some depth is reached only if the lexeme is longer: the first switch
because the lexeme is not empty, every other one because of the guard around it.  This holds of all
statements that are emitted, so it does not matter which of them a run takes.

* `Within text e`: the event `e` stays within the text.
* `stays_arms`: all events in the arms of a switch stay within the lexeme.
* `Generator.lexemeEvents_within`: for a configuration, this holds of its identifier function.
-/

namespace ScannerDispatch

open Code

namespace IdentifierDispatch

/-- Looks and comparisons stay within the text, unless it is empty.  A comparison states the length of
    the characters that it compares with, and where it has to look at the text, it begins within. -/
def Within (text : List Char) : Event → Prop
  | .look (.start n) => text ≠ [] → n < text.length
  | .eval current (.call _ [.name _, .int start, .int length, .text rest, .name _]) =>
    rest.length = length ∧ (text ≠ [] ∨ current = start + length → start ≤ text.length)
  | _ => True

variable (s : Settings) {m : Machine}

theorem stays_returnStmt {depth : Nat} (hd : m.text ≠ [] → depth < m.text.length)
    (keyword : Terminal) : m.Stays (Within m.text) (returnStmt s (depth + 1) keyword) := by
  refine .result ⟨by simp, ?_⟩
  rintro (hne | hlen)
  · exact hd hne
  · omega

theorem stays_closing {depth : Nat} (hd : m.text ≠ [] → depth < m.text.length)
    (terminal : Option Terminal) : m.Stays (Within m.text) (closing s (depth + 1) terminal) := by
  cases terminal with
  | none => exact .leave
  | some keyword => exact stays_returnStmt s hd keyword

theorem stays_switchStmt {depth : Nat} {arms : List (Char × List Stmt)}
    (hd : m.text ≠ [] → depth < m.text.length)
    (ha : ∀ arm ∈ arms, ∀ st ∈ arm.2, m.Stays (Within m.text) st) :
    m.Stays (Within m.text) (switchStmt depth arms) :=
  .switch hd (Machine.stays_switchBody ha .empty)

/-- **Below a switch that stays within the lexeme everything does**: deeper switches are guarded. -/
theorem stays_arms {depth : Nat} (hd : m.text ≠ [] → depth < m.text.length) (es : Edges) :
    ∀ arm ∈ arms s depth es, ∀ st ∈ arm.2, m.Stays (Within m.text) st := by
  induction es generalizing depth with
  | nil => simp [arms]
  | cons c t below rest ihb ihr =>
    refine List.forall_mem_cons.2 ⟨?_, ihr hd⟩
    cases below.only? t with
    | some keyword =>
      intro st hst
      rw [List.mem_singleton.1 hst]
      exact stays_returnStmt s hd keyword
    | none =>
      have hguarded : m.Stays (Within m.text) (.when (.longerThan (depth + 1))
          (.block [switchStmt (depth + 1) (arms s (depth + 1) below)])) := by
        refine .when fun hn => .block ?_
        intro st hst
        rw [List.mem_singleton.1 hst]
        exact stays_switchStmt (fun _ => hn) (ihb fun _ => hn)
      intro st hst
      simp only [openStmts, List.mem_cons, List.not_mem_nil, or_false] at hst
      rcases hst with rfl | rfl
      · exact hguarded
      · exact stays_closing s hd t

theorem stays_body (keywords : Trie) :
    ∀ st ∈ body s keywords, m.Stays (Within m.text) st := by
  have hd : m.text ≠ [] → 0 < m.text.length := List.length_pos_iff.2
  intro st hst
  simp only [body, List.mem_cons, List.not_mem_nil, or_false] at hst
  rcases hst with rfl | rfl
  · exact stays_switchStmt hd (stays_arms s hd keywords.edges)
  · exact .result trivial

/-- All events of the function stay within the lexeme. -/
theorem within_lexemeEvents (keywords : Trie) (lexeme fallback : String) :
    ∀ e ∈ lexemeEvents (body s keywords) lexeme fallback, Within lexeme.toList e :=
  (Machine.stays_body (m := ⟨lexeme.toList, '\x00', fallback, some '\x00'⟩)
    (stays_body s keywords) none).2

end IdentifierDispatch

namespace Generator

/-- **The identifier function reads no character beyond the end of the lexeme**, unless the lexeme is
    empty: every switch that is run looks at a character of the lexeme, so results are the same where a
    look beyond the end is a fault.  Every comparison that is evaluated states the length of its
    characters and begins within the lexeme; for the empty lexeme it begins there if it looks at the
    lexeme at all. -/
theorem lexemeEvents_within (config : Config) (hn : IdentifierDispatch.Names config.settings)
    (hw : ∀ keyword ∈ config.tokens.keywords,
      isWord (constant config.settings.tokenPrefix keyword) = true)
    (hl : ∀ keyword ∈ config.tokens.keywords, keyword.length < wordBound) :
    ∃ code body, (ofConfig config).identifierCode.result = .ok code ∧
      function code.text = .ok body ∧ ∀ lexeme fallback,
        (lexeme ≠ "" →
          (∀ n, .look (.start n) ∈ lexemeEvents body lexeme fallback → n < lexeme.length) ∧
          runIdentifier body lexeme fallback none = runIdentifier body lexeme fallback) ∧
        ∀ current f scanner start length rest token,
          .eval current (.call f
            [.name scanner, .int start, .int length, .text rest, .name token]) ∈
              lexemeEvents body lexeme fallback →
          rest.length = length ∧
            (lexeme ≠ "" ∨ current = start + length → start ≤ lexeme.length) := by
  have hs : (keywordTrie config.tokens).edges.Sound [] := Trie.sound_ofList _
  obtain ⟨text, he, hf⟩ := IdentifierDispatch.function_of_emitNew hn hs
    (spellable_keywordTrie hw hl) config.settings.tokenPrefix
  refine ⟨⟨text, _⟩, _, congrArg Logged.result he, hf, ?_⟩
  intro lexeme fallback
  have hwithin := IdentifierDispatch.within_lexemeEvents config.settings
    (keywordTrie config.tokens) lexeme fallback
  have hempty : lexeme.toList ≠ [] ↔ lexeme ≠ "" := by simp
  refine ⟨?_, ?_⟩
  · intro hne
    have hlook : ∀ n, .look (.start n) ∈ lexemeEvents (IdentifierDispatch.body config.settings
        (keywordTrie config.tokens)) lexeme fallback → n < lexeme.length := by
      intro n hm
      rw [← String.length_toList]
      exact hwithin _ hm (hempty.2 hne)
    exact ⟨hlook, runIdentifier_strict hlook⟩
  · intro current f scanner start length rest token hm
    have h := hwithin _ hm
    rwa [IdentifierDispatch.Within, String.length_toList, hempty] at h

theorem lexemeEvents_within_sample : ∃ code body,
    (ofConfig Config.sample).identifierCode.result = .ok code ∧ function code.text = .ok body ∧
      (∀ n, .look (.start n) ∈ lexemeEvents body "iff" "TOKEN_IDENTIFIER" → n < 3) ∧
      runIdentifier body "iff" "TOKEN_IDENTIFIER" none =
        runIdentifier body "iff" "TOKEN_IDENTIFIER" ∧
      ∀ current f scanner start length rest token,
        .eval current (.call f [.name scanner, .int start, .int length, .text rest, .name token]) ∈
          lexemeEvents body "iff" "TOKEN_IDENTIFIER" → rest.length = length ∧ start ≤ 3 := by
  have hn : IdentifierDispatch.Names Config.sample.settings :=
    ⟨by decide, by decide, by decide, by decide, by decide +kernel⟩
  obtain ⟨code, body, hc, hf, h⟩ := lexemeEvents_within Config.sample hn
    (by decide +kernel) (by decide +kernel)
  have hne : "iff" ≠ "" := by decide
  obtain ⟨hlook, hcall⟩ := h "iff" "TOKEN_IDENTIFIER"
  refine ⟨code, body, hc, hf, (hlook hne).1, (hlook hne).2, ?_⟩
  intro current f scanner start length rest token hm
  obtain ⟨hlength, hstart⟩ := hcall current f scanner start length rest token hm
  exact ⟨hlength, hstart (.inl hne)⟩

end Generator

end ScannerDispatch
