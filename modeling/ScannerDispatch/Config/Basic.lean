import ScannerDispatch.Config.Settings
import ScannerDispatch.Log

/-!
Configurations: what to generate code for.

A `ConfigDocument` holds what was written down; a `Config` has all settings and has been checked.

* `Config.fault?` is the first fault of the tokens: an empty keyword, a symbol without one or two
  characters, an identifier token that is no literal.
* `Config.ofDocument` applies the usual values and checks, and reports keys without meaning.
-/

namespace ScannerDispatch

/-- What each output file includes. -/
structure Includes where
  headerFile : List String := []
  headerDeclsFile : List String := []
  sourceFile : List String := []
deriving Repr, DecidableEq, Inhabited

/-- The tokens of the language to scan. -/
structure Tokens where
  keywords : List String := []
  specials : List String := []
  literals : List String := []
  /-- The characters of each symbol, by its name. -/
  symbols : StringTable := .empty
deriving Repr, DecidableEq, Inhabited

/-- A configuration as it was written down. -/
structure ConfigDocument where
  settings : StringTable := .empty
  includes : Includes := {}
  tokens : Tokens := {}
deriving Repr, DecidableEq, Inhabited

/-- A configuration that code can be generated from. -/
structure Config where
  settings : Settings
  includes : Includes
  tokens : Tokens
deriving Repr, DecidableEq, Inhabited

/-- Why a configuration cannot be used. -/
inductive ConfigError where
  | missingSetting (key : SettingKey)
  | emptyKeyword (index : Nat)
  | emptySymbol (name : String)
  | symbolTooLong (name value : String)
  | identNotLiteral (name : String)
deriving Repr, DecidableEq, Inhabited

/-- The wording of an error. -/
def ConfigError.message : ConfigError → String
  | missingSetting key => "Required setting settings." ++ key.name ++ " is missing."
  | emptyKeyword index =>
    "Keyword " ++ toString index ++ " is empty.  Keywords can't be empty."
  | emptySymbol name => "Symbol token '" ++ name ++ "' can't be empty."
  | symbolTooLong name value =>
    "Symbol token '" ++ name ++ "' is '" ++ value ++
      "', but symbol tokens must be at most two characters long."
  | identNotLiteral name =>
    "settings.identTokenName (" ++ name ++ ") must be listed in tokens.literals."

/-! ## Results with a log -/

/-- A result, and what was reported on the way to it. -/
structure Logged (ε α : Type) where
  log : List LogEvent
  result : Except ε α

namespace Logged

variable {ε α β : Type}

/-- A result about which nothing is reported. -/
def silent (result : Except ε α) : Logged ε α :=
  ⟨[], result⟩

/-- Continues after a success; the reports follow one another. -/
def andThen (x : Logged ε α) (f : α → Logged ε β) : Logged ε β :=
  match x.result with
  | .error e => ⟨x.log, .error e⟩
  | .ok a => let y := f a; ⟨x.log ++ y.log, y.result⟩

/-- Only reports. -/
def report (events : List LogEvent) : Logged ε Unit :=
  ⟨events, .ok ()⟩

instance : Monad (Logged ε) where
  pure a := silent (.ok a)
  bind := andThen

/-- The same result with its errors seen as those of a wider kind. -/
def mapError {δ : Type} (f : ε → δ) (x : Logged ε α) : Logged δ α :=
  ⟨x.log, x.result.mapError f⟩

variable {x : Logged ε α}

/-- What is done after a success has its own result. -/
theorem result_bind {a : α} (h : x.result = .ok a) (f : α → Logged ε β) :
    (x >>= f).result = (f a).result := by
  change (andThen x f).result = _
  rw [andThen, h]

/-- An event is reported by the first of two results, or by the second after the first succeeded. -/
theorem mem_log_bind {f : α → Logged ε β} {e : LogEvent} (h : e ∈ (x >>= f).log) :
    e ∈ x.log ∨ ∃ a, e ∈ (f a).log := by
  change e ∈ (x.andThen f).log at h
  rw [andThen] at h
  cases hx : x.result with
  | error _ =>
    rw [hx] at h
    exact .inl h
  | ok a =>
    rw [hx] at h
    exact (List.mem_append.1 h).imp_right fun h => ⟨a, h⟩

end Logged

/-! ## Checking -/

namespace Config

/-- The fault of one symbol: it needs one or two characters. -/
def symbolFault? (symbol : String × String) : Option ConfigError :=
  match symbol.2.length with
  | 0 => some (.emptySymbol symbol.1)
  | 1 | 2 => none
  | _ => some (.symbolTooLong symbol.1 symbol.2)

/-- The first fault: of the keywords, then of the symbols in table order, then of the identifier
    token. -/
def fault? (identTokenName : String) (tokens : Tokens) : Option ConfigError :=
  match tokens.keywords.findIdx? (·.isEmpty) with
  | some index => some (.emptyKeyword index)
  | none =>
    match tokens.symbols.entries.findSome? symbolFault? with
    | some e => some e
    | none =>
      if identTokenName ∈ tokens.literals then none else some (.identNotLiteral identTokenName)

/-- Applies the usual values to a document and checks it.  Keys without meaning are reported as soon
    as no setting is missing. -/
def ofDocument (d : ConfigDocument) : Logged ConfigError Config :=
  match Settings.ofTable d.settings with
  | .error key => .silent (.error (.missingSetting key))
  | .ok settings =>
    { log := (Settings.unknownKeys d.settings).map .unknownSetting
      result :=
        match fault? settings.identTokenName d.tokens with
        | some e => .error e
        | none => .ok { settings, includes := d.includes, tokens := d.tokens } }

end Config

end ScannerDispatch
