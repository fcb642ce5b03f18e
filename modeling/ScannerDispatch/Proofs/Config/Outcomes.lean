import ScannerDispatch.Proofs.Config.Checked

/-!
What a document is read as: the configuration, or the first fault.

* `Settings.ofTable_eq_error_iff` and `Settings.ofTable_eq_ok_iff`: which setting is missing, and what the
  settings are if none is.
* `Config.FirstFault` says which fault of the tokens comes first, and `Config.Outcome` what becomes of a
  document, with all that is reported.
* `Config.outcome_iff`: every document has one outcome, and that is the one it is read with.
-/

namespace ScannerDispatch

/-! ## Settings -/

/-- The settings that must be given, in order. -/
def SettingKey.required : List SettingKey :=
  [identTokenName, makeTokenFunctionName, errorTokenFunctionName, checkKeywordFunctionName,
    charTokenFunctionName, identFunctionName, symbolFunctionName]

theorem SettingKey.required_eq : required = all.filter (·.default?.isNone) := rfl

namespace Settings

/-- The text of a setting in a table, or else its usual value. -/
def value? (t : StringTable) (k : SettingKey) : Option String :=
  (t.get? k.name).or k.default?

/-- The settings with given values. -/
def ofValues (value : SettingKey → String) : Settings where
  tokenPrefix := value .tokenPrefix
  identTokenName := value .identTokenName
  tokenType := value .tokenType
  tokenEnumType := value .tokenEnumType
  makeTokenFunctionName := value .makeTokenFunctionName
  errorTokenFunctionName := value .errorTokenFunctionName
  checkKeywordFunctionName := value .checkKeywordFunctionName
  charTokenFunctionName := value .charTokenFunctionName
  identFunctionName := value .identFunctionName
  symbolFunctionName := value .symbolFunctionName
  scannerType := value .scannerType
  matchFunctionName := value .matchFunctionName
  errorMessage := value .errorMessage
  headerGuard := value .headerGuard
  headerDeclsGuard := value .headerDeclsGuard

@[simp] theorem get_ofValues (value : SettingKey → String) (k : SettingKey) :
    (ofValues value).get k = value k := by
  cases k <;> rfl

@[simp] theorem ofValues_get (s : Settings) : ofValues s.get = s := rfl

theorem take_eq (t : StringTable) (k : SettingKey) :
    take t k = (value? t k).elim (.error k) .ok := by
  have h : (t.get? k.name <|> k.default?) = value? t k := by
    rw [value?]
    cases t.get? k.name <;> rfl
  rw [take, h]
  cases value? t k <;> rfl

theorem take_bind {α : Type} (t : StringTable) (k : SettingKey) (f : String → Except SettingKey α) :
    (take t k >>= f) =
      if (value? t k).isNone then .error k else f ((value? t k).getD "") := by
  rw [take_eq]
  cases value? t k <;> rfl

/-- The first of some settings without a value decides, if there is one. -/
theorem foldr_eq_elim_find? {α : Type} (t : StringTable) (ks : List SettingKey)
    (found : Except SettingKey α) :
    ks.foldr (fun k rest => if (value? t k).isNone then .error k else rest) found =
      (ks.find? fun k => (value? t k).isNone).elim found .error := by
  induction ks with
  | nil => rfl
  | cons k ks ih =>
    rw [List.foldr_cons, ih, List.find?_cons]
    cases (value? t k).isNone <;> rfl

/-- Settings are taken one after the other, up to the first one without a value. -/
theorem ofTable_eq (t : StringTable) :
    ofTable t = (SettingKey.all.find? fun k => (value? t k).isNone).elim
      (.ok (ofValues fun k => (value? t k).getD "")) .error := by
  rw [← foldr_eq_elim_find?]
  simp only [ofTable, take_bind]
  rfl

theorem isNone_value? (t : StringTable) (k : SettingKey) :
    (value? t k).isNone = (k.default?.isNone && (t.get? k.name).isNone) := by
  rw [value?]
  cases t.get? k.name <;> cases k.default? <;> rfl

theorem ofTable_eq_error_iff {t : StringTable} {key : SettingKey} :
    ofTable t = .error key ↔ ∃ before after, SettingKey.required = before ++ key :: after ∧
      (∀ k ∈ before, (t.get? k.name).isSome = true) ∧ t.get? key.name = none := by
  have hfind : (SettingKey.all.find? fun k => (value? t k).isNone) =
      SettingKey.required.find? fun k => (t.get? k.name).isNone := by
    rw [SettingKey.required_eq, List.find?_filter]
    congr 1
    funext k
    rw [isNone_value?]
    cases k.default? <;> cases t.get? k.name <;> simp
  have herror : ofTable t = .error key ↔
      (SettingKey.required.find? fun k => (t.get? k.name).isNone) = some key := by
    rw [ofTable_eq, hfind]
    cases SettingKey.required.find? fun k => (t.get? k.name).isNone <;> simp
  rw [herror, List.find?_eq_some_iff_append]
  constructor
  · rintro ⟨hkey, before, after, heq, hbefore⟩
    exact ⟨before, after, heq, by simpa using hbefore, by simpa using hkey⟩
  · rintro ⟨before, after, heq, hbefore, hkey⟩
    exact ⟨by simpa using hkey, before, after, heq, by simpa using hbefore⟩

theorem ofTable_eq_ok_iff {t : StringTable} {s : Settings} :
    ofTable t = .ok s ↔ ∀ k, value? t k = some (s.get k) := by
  rw [ofTable_eq]
  constructor
  · intro h k
    cases hfind : SettingKey.all.find? fun k => (value? t k).isNone with
    | some missing => simp [hfind] at h
    | none =>
      have hsome := List.find?_eq_none.1 hfind k (SettingKey.mem_all k)
      rw [hfind, Option.elim_none, Except.ok.injEq] at h
      rw [← h, get_ofValues]
      cases hv : value? t k with
      | none => simp [hv] at hsome
      | some v => rfl
  · intro h
    have hfind : (SettingKey.all.find? fun k => (value? t k).isNone) = none := by
      rw [List.find?_eq_none]
      intro k _
      simp [h k]
    rw [hfind]
    simp [h]

theorem unknownKeys_eq (t : StringTable) :
    unknownKeys t = t.keys.filter (· ∉ SettingKey.all.map SettingKey.name) := by
  have hknown : ∀ key, SettingKey.isKnown key = true ↔ key ∈ SettingKey.all.map SettingKey.name := by
    intro key
    simp [SettingKey.isKnown]
  rw [unknownKeys]
  congr 1
  funext key
  simp [← hknown]

end Settings

namespace Config

/-! ## Faults -/

/-- The first fault of the tokens, if there is one: that of a keyword, of a symbol, or of the identifier
    token. -/
inductive FirstFault (identTokenName : String) (tokens : Tokens) : Option ConfigError → Prop where
  | emptyKeyword {index : Nat} :
    tokens.keywords[index]? = some "" → (∀ i < index, tokens.keywords[i]? ≠ some "") →
    FirstFault identTokenName tokens (some (.emptyKeyword index))
  | emptySymbol {name : String} {before after : List (String × String)} :
    (∀ keyword ∈ tokens.keywords, keyword ≠ "") →
    tokens.symbols.entries = before ++ (name, "") :: after →
    (∀ symbol ∈ before, symbol.2.length = 1 ∨ symbol.2.length = 2) →
    FirstFault identTokenName tokens (some (.emptySymbol name))
  | symbolTooLong {name value : String} {before after : List (String × String)} :
    (∀ keyword ∈ tokens.keywords, keyword ≠ "") →
    tokens.symbols.entries = before ++ (name, value) :: after →
    (∀ symbol ∈ before, symbol.2.length = 1 ∨ symbol.2.length = 2) → 2 < value.length →
    FirstFault identTokenName tokens (some (.symbolTooLong name value))
  | identNotLiteral :
    (∀ keyword ∈ tokens.keywords, keyword ≠ "") →
    (∀ symbol ∈ tokens.symbols.entries, symbol.2.length = 1 ∨ symbol.2.length = 2) →
    identTokenName ∉ tokens.literals →
    FirstFault identTokenName tokens (some (.identNotLiteral identTokenName))
  | checked : Checked identTokenName tokens → FirstFault identTokenName tokens none

theorem findIdx?_isEmpty_eq_none_iff {keywords : List String} :
    keywords.findIdx? (·.isEmpty) = none ↔ ∀ keyword ∈ keywords, keyword ≠ "" := by
  simp [List.findIdx?_eq_none_iff]

theorem findIdx?_isEmpty_eq_some_iff {keywords : List String} {index : Nat} :
    keywords.findIdx? (·.isEmpty) = some index ↔
      keywords[index]? = some "" ∧ ∀ i < index, keywords[i]? ≠ some "" := by
  rw [List.findIdx?_eq_some_iff_getElem]
  constructor
  · rintro ⟨hlt, hempty, hbefore⟩
    refine ⟨List.getElem?_eq_some_iff.2 ⟨hlt, String.isEmpty_iff.1 hempty⟩, ?_⟩
    intro i hi hsome
    obtain ⟨_, heq⟩ := List.getElem?_eq_some_iff.1 hsome
    exact hbefore i hi (String.isEmpty_iff.2 heq)
  · rintro ⟨hsome, hbefore⟩
    obtain ⟨hlt, heq⟩ := List.getElem?_eq_some_iff.1 hsome
    refine ⟨hlt, String.isEmpty_iff.2 heq, ?_⟩
    intro i hi hempty
    exact hbefore i hi (List.getElem?_eq_some_iff.2 ⟨_, String.isEmpty_iff.1 hempty⟩)

section
variable {symbol : String × String}

theorem symbolFault?_of_empty (h : symbol.2 = "") :
    symbolFault? symbol = some (.emptySymbol symbol.1) := by
  rw [symbolFault?, h]
  rfl

theorem symbolFault?_of_long (h : 2 < symbol.2.length) :
    symbolFault? symbol = some (.symbolTooLong symbol.1 symbol.2) := by
  unfold symbolFault?
  split <;> first | omega | rfl

theorem symbolFault?_eq_some_iff {e : ConfigError} :
    symbolFault? symbol = some e ↔
      symbol.2 = "" ∧ e = .emptySymbol symbol.1 ∨
        2 < symbol.2.length ∧ e = .symbolTooLong symbol.1 symbol.2 := by
  constructor
  · intro h
    by_cases hlong : 2 < symbol.2.length
    · rw [symbolFault?_of_long hlong] at h
      exact .inr ⟨hlong, (Option.some.inj h).symm⟩
    · have hnone : ¬ (symbol.2.length = 1 ∨ symbol.2.length = 2) := by
        rw [← symbolFault?_eq_none_iff, h]
        exact Option.some_ne_none e
      have hempty : symbol.2 = "" := String.length_eq_zero_iff.1 (by omega)
      rw [symbolFault?_of_empty hempty] at h
      exact .inl ⟨hempty, (Option.some.inj h).symm⟩
  · rintro (⟨hempty, rfl⟩ | ⟨hlong, rfl⟩)
    · exact symbolFault?_of_empty hempty
    · exact symbolFault?_of_long hlong

end

theorem findSome?_symbolFault?_eq_none_iff {symbols : List (String × String)} :
    symbols.findSome? symbolFault? = none ↔
      ∀ symbol ∈ symbols, symbol.2.length = 1 ∨ symbol.2.length = 2 := by
  simp [List.findSome?_eq_none_iff, symbolFault?_eq_none_iff]

/-- The fault of a symbol is the first one if the symbols before it have none. -/
theorem findSome?_symbolFault? {symbols before after : List (String × String)}
    {symbol : String × String} {e : ConfigError} (heq : symbols = before ++ symbol :: after)
    (hbefore : ∀ symbol ∈ before, symbol.2.length = 1 ∨ symbol.2.length = 2)
    (hfault : symbolFault? symbol = some e) : symbols.findSome? symbolFault? = some e := by
  rw [List.findSome?_eq_some_iff]
  refine ⟨before, symbol, after, heq, hfault, ?_⟩
  exact fun symbol hmem => symbolFault?_eq_none_iff.2 (hbefore symbol hmem)

section
variable {identTokenName : String} {tokens : Tokens}

theorem fault?_of_keyword {index : Nat} (h : tokens.keywords.findIdx? (·.isEmpty) = some index) :
    fault? identTokenName tokens = some (.emptyKeyword index) := by
  rw [fault?, h]

theorem fault?_of_symbol (hk : tokens.keywords.findIdx? (·.isEmpty) = none) {e : ConfigError}
    (h : tokens.symbols.entries.findSome? symbolFault? = some e) :
    fault? identTokenName tokens = some e := by
  rw [fault?, hk, h]

theorem fault?_of_ident (hk : tokens.keywords.findIdx? (·.isEmpty) = none)
    (hs : tokens.symbols.entries.findSome? symbolFault? = none)
    (h : identTokenName ∉ tokens.literals) :
    fault? identTokenName tokens = some (.identNotLiteral identTokenName) := by
  rw [fault?, hk, hs]
  exact if_neg h

theorem firstFault_fault? : FirstFault identTokenName tokens (fault? identTokenName tokens) := by
  cases hk : tokens.keywords.findIdx? (·.isEmpty) with
  | some index =>
    rw [fault?_of_keyword hk]
    obtain ⟨hempty, hbefore⟩ := findIdx?_isEmpty_eq_some_iff.1 hk
    exact .emptyKeyword hempty hbefore
  | none =>
    have hkeywords := findIdx?_isEmpty_eq_none_iff.1 hk
    cases hs : tokens.symbols.entries.findSome? symbolFault? with
    | some e =>
      rw [fault?_of_symbol hk hs]
      obtain ⟨before, ⟨name, value⟩, after, heq, hfault, hbefore⟩ := List.findSome?_eq_some_iff.1 hs
      have hbefore : ∀ symbol ∈ before, symbol.2.length = 1 ∨ symbol.2.length = 2 :=
        fun symbol hmem => symbolFault?_eq_none_iff.1 (hbefore symbol hmem)
      rcases symbolFault?_eq_some_iff.1 hfault with ⟨hempty, rfl⟩ | ⟨hlong, rfl⟩
      · have hempty : value = "" := hempty
        subst hempty
        exact .emptySymbol hkeywords heq hbefore
      · exact .symbolTooLong hkeywords heq hbefore hlong
    | none =>
      have hsymbols := findSome?_symbolFault?_eq_none_iff.1 hs
      by_cases hi : identTokenName ∈ tokens.literals
      · have hchecked : Checked identTokenName tokens := ⟨hkeywords, hsymbols, hi⟩
        rw [fault?_eq_none_iff.2 hchecked]
        exact .checked hchecked
      · rw [fault?_of_ident hk hs hi]
        exact .identNotLiteral hkeywords hsymbols hi

/-- No two faults are the first one. -/
theorem FirstFault.eq_fault? {fault : Option ConfigError}
    (h : FirstFault identTokenName tokens fault) : fault = fault? identTokenName tokens := by
  cases h with
  | emptyKeyword hempty hbefore =>
    exact (fault?_of_keyword (findIdx?_isEmpty_eq_some_iff.2 ⟨hempty, hbefore⟩)).symm
  | emptySymbol hkeywords heq hbefore =>
    exact (fault?_of_symbol (findIdx?_isEmpty_eq_none_iff.2 hkeywords)
      (findSome?_symbolFault? heq hbefore (symbolFault?_of_empty rfl))).symm
  | symbolTooLong hkeywords heq hbefore hlong =>
    exact (fault?_of_symbol (findIdx?_isEmpty_eq_none_iff.2 hkeywords)
      (findSome?_symbolFault? heq hbefore (symbolFault?_of_long hlong))).symm
  | identNotLiteral hkeywords hsymbols hi =>
    exact (fault?_of_ident (findIdx?_isEmpty_eq_none_iff.2 hkeywords)
      (findSome?_symbolFault?_eq_none_iff.2 hsymbols) hi).symm
  | checked hchecked => exact (fault?_eq_none_iff.2 hchecked).symm

end

/-! ## Outcomes -/

/-- The keys of a table that are no settings are reported, in table order. -/
def warnings (t : StringTable) : List LogEvent :=
  (t.keys.filter (· ∉ SettingKey.all.map SettingKey.name)).map .unknownSetting

theorem map_unknownKeys (t : StringTable) :
    (Settings.unknownKeys t).map .unknownSetting = warnings t := by
  rw [Settings.unknownKeys_eq, warnings]

/-- What becomes of a document, with what is reported: the first setting that is missing, or else the
    first fault of the tokens, or else a configuration with the settings, what is included and the
    tokens. -/
inductive Outcome (d : ConfigDocument) : Logged ConfigError Config → Prop where
  | missing {before after : List SettingKey} {key : SettingKey} :
    SettingKey.required = before ++ key :: after →
    (∀ k ∈ before, (d.settings.get? k.name).isSome = true) → d.settings.get? key.name = none →
    Outcome d ⟨[], .error (.missingSetting key)⟩
  | faulty {settings : Settings} {e : ConfigError} :
    (∀ k, Settings.value? d.settings k = some (settings.get k)) →
    FirstFault settings.identTokenName d.tokens (some e) →
    Outcome d ⟨warnings d.settings, .error e⟩
  | accepted {settings : Settings} :
    (∀ k, Settings.value? d.settings k = some (settings.get k)) →
    FirstFault settings.identTokenName d.tokens none →
    Outcome d ⟨warnings d.settings, .ok ⟨settings, d.includes, d.tokens⟩⟩

theorem outcome_ofDocument (d : ConfigDocument) : Outcome d (ofDocument d) := by
  rw [ofDocument]
  cases ht : Settings.ofTable d.settings with
  | error key =>
    obtain ⟨before, after, heq, hbefore, hkey⟩ := Settings.ofTable_eq_error_iff.1 ht
    exact .missing heq hbefore hkey
  | ok settings =>
    have hvalues := Settings.ofTable_eq_ok_iff.1 ht
    have hfirst : FirstFault settings.identTokenName d.tokens _ := firstFault_fault?
    simp only [map_unknownKeys]
    cases hf : fault? settings.identTokenName d.tokens with
    | some e => exact .faulty hvalues (hf ▸ hfirst)
    | none => exact .accepted hvalues (hf ▸ hfirst)

/-- **A document has one outcome, and that is the one it is read with.** -/
theorem outcome_iff (d : ConfigDocument) (x : Logged ConfigError Config) :
    Outcome d x ↔ x = ofDocument d := by
  constructor
  · intro h
    cases h with
    | missing heq hbefore hkey =>
      rw [ofDocument, Settings.ofTable_eq_error_iff.2 ⟨_, _, heq, hbefore, hkey⟩]
      rfl
    | faulty hvalues hfault =>
      rw [ofDocument, Settings.ofTable_eq_ok_iff.2 hvalues, ← map_unknownKeys]
      simp only [← hfault.eq_fault?]
    | accepted hvalues hfault =>
      rw [ofDocument, Settings.ofTable_eq_ok_iff.2 hvalues, ← map_unknownKeys]
      simp only [← hfault.eq_fault?]
  · rintro rfl
    exact outcome_ofDocument d

end Config

end ScannerDispatch
