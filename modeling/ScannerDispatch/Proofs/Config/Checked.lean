import ScannerDispatch.Config.Basic

/-!
What the check of a configuration ensures.
-/

namespace ScannerDispatch.Config

/-- Keywords are not empty, symbols have one or two characters, and the identifier token is a
    literal. -/
structure Checked (identTokenName : String) (tokens : Tokens) : Prop where
  keyword_ne : ∀ keyword ∈ tokens.keywords, keyword ≠ ""
  symbol_length : ∀ symbol ∈ tokens.symbols.entries, symbol.2.length = 1 ∨ symbol.2.length = 2
  ident_mem : identTokenName ∈ tokens.literals

theorem symbolFault?_eq_none_iff {symbol : String × String} :
    symbolFault? symbol = none ↔ symbol.2.length = 1 ∨ symbol.2.length = 2 := by
  unfold symbolFault?
  split <;> simp_all

/-- A configuration without a fault is one that was checked. -/
theorem fault?_eq_none_iff {identTokenName : String} {tokens : Tokens} :
    fault? identTokenName tokens = none ↔ Checked identTokenName tokens := by
  have hk : tokens.keywords.findIdx? (·.isEmpty) = none ↔
      ∀ keyword ∈ tokens.keywords, keyword ≠ "" := by
    simp [List.findIdx?_eq_none_iff]
  have hs : tokens.symbols.entries.findSome? symbolFault? = none ↔
      ∀ symbol ∈ tokens.symbols.entries, symbol.2.length = 1 ∨ symbol.2.length = 2 := by
    simp [List.findSome?_eq_none_iff, symbolFault?_eq_none_iff]
  constructor
  · intro h
    unfold fault? at h
    split at h
    · cases h
    · next hki =>
      split at h
      · cases h
      · next hsi =>
        refine ⟨hk.1 hki, hs.1 hsi, ?_⟩
        rcases Decidable.em (identTokenName ∈ tokens.literals) with hi | hi
        · exact hi
        · rw [if_neg hi] at h
          cases h
  · intro h
    unfold fault?
    rw [hk.2 h.keyword_ne, hs.2 h.symbol_length]
    exact if_pos h.ident_mem

/-- Every configuration that a document is accepted as was checked. -/
theorem checked_of_ofDocument {d : ConfigDocument} {config : Config}
    (h : (ofDocument d).result = .ok config) :
    Checked config.settings.identTokenName config.tokens := by
  unfold ofDocument at h
  split at h
  · cases h
  · next settings hset =>
    cases hf : fault? settings.identTokenName d.tokens with
    | some e => simp [hf] at h
    | none =>
      simp only [hf, Except.ok.injEq] at h
      subst h
      exact fault?_eq_none_iff.1 hf

/-! ## A configuration -/

/-- Keywords that begin one another, and symbols in every relation: with one character only, with two
    characters only, both, and one value under two names. -/
def sampleDocument : ConfigDocument where
  settings := .ofPairs [("identTokenName", "identifier"), ("makeTokenFunctionName", "makeToken"),
    ("errorTokenFunctionName", "errorToken"), ("checkKeywordFunctionName", "checkKeyword"),
    ("charTokenFunctionName", "charToken"), ("identFunctionName", "identifierType"),
    ("symbolFunctionName", "charToken")]
  tokens := {
    keywords := ["i", "if", "iff", "iffy", "groß"]
    literals := ["identifier", "number"]
    symbols := .ofPairs [("less", "<"), ("assign", ":="), ("lessEqual", "<="), ("atMost", "<="),
      ("quote", "'"), ("nulSeven", "\x007")] }

/-- What `sampleDocument` is accepted as. -/
def sample : Config where
  settings := {
    tokenPrefix := "TOKEN", identTokenName := "identifier", tokenType := "Token"
    tokenEnumType := "TokenType", makeTokenFunctionName := "makeToken"
    errorTokenFunctionName := "errorToken", checkKeywordFunctionName := "checkKeyword"
    charTokenFunctionName := "charToken", identFunctionName := "identifierType"
    symbolFunctionName := "charToken", scannerType := "Scanner", matchFunctionName := "match"
    errorMessage := "Unexpected character.", headerGuard := "__CLOX2_SCANNER_GENERATED_H__"
    headerDeclsGuard := "__CLOX2_SCANNER_GENERATED_DECLS_H__" }
  includes := {}
  tokens := sampleDocument.tokens

theorem result_sampleDocument : (ofDocument sampleDocument).result = .ok sample := rfl

end ScannerDispatch.Config
