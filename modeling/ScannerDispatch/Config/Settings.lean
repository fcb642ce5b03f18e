import ScannerDispatch.Config.StringTable

/-!
Settings: the names that generated code uses.

* `SettingKey` lists the settings in the order in which they are taken from a table, each with its
  key and, if it may be left out, its usual value.
* `Settings.ofTable` takes all settings and reports the first one that is missing.
-/

namespace ScannerDispatch

/-- The settings of a configuration. -/
inductive SettingKey where
  | tokenPrefix
  | identTokenName
  | tokenType
  | tokenEnumType
  | makeTokenFunctionName
  | errorTokenFunctionName
  | checkKeywordFunctionName
  | charTokenFunctionName
  | identFunctionName
  | symbolFunctionName
  | scannerType
  | matchFunctionName
  | errorMessage
  | headerGuard
  | headerDeclsGuard
deriving Repr, DecidableEq, Inhabited

namespace SettingKey

/-- All settings, in the order in which they are taken. -/
def all : List SettingKey :=
  [tokenPrefix, identTokenName, tokenType, tokenEnumType, makeTokenFunctionName,
    errorTokenFunctionName, checkKeywordFunctionName, charTokenFunctionName, identFunctionName,
    symbolFunctionName, scannerType, matchFunctionName, errorMessage, headerGuard, headerDeclsGuard]

/-- The key under which a setting stands in the table. -/
def name : SettingKey → String
  | tokenPrefix => "tokenPrefix"
  | identTokenName => "identTokenName"
  | tokenType => "tokenType"
  | tokenEnumType => "tokenEnumType"
  | makeTokenFunctionName => "makeTokenFunctionName"
  | errorTokenFunctionName => "errorTokenFunctionName"
  | checkKeywordFunctionName => "checkKeywordFunctionName"
  | charTokenFunctionName => "charTokenFunctionName"
  | identFunctionName => "identFunctionName"
  | symbolFunctionName => "symbolFunctionName"
  | scannerType => "scannerType"
  | matchFunctionName => "matchFunctionName"
  | errorMessage => "errorMessage"
  | headerGuard => "headerGuard"
  | headerDeclsGuard => "headerDeclsGuard"

/-- The value of a setting that is left out; `none` if it must be given. -/
def default? : SettingKey → Option String
  | tokenPrefix => some "TOKEN"
  | tokenType => some "Token"
  | tokenEnumType => some "TokenType"
  | scannerType => some "Scanner"
  | matchFunctionName => some "match"
  | errorMessage => some "Unexpected character."
  | headerGuard => some "__CLOX2_SCANNER_GENERATED_H__"
  | headerDeclsGuard => some "__CLOX2_SCANNER_GENERATED_DECLS_H__"
  | identTokenName | makeTokenFunctionName | errorTokenFunctionName | checkKeywordFunctionName
  | charTokenFunctionName | identFunctionName | symbolFunctionName => none

theorem mem_all (k : SettingKey) : k ∈ all := by
  cases k <;> decide

/-- Is `key` the key of a setting? -/
def isKnown (key : String) : Bool :=
  all.any (·.name == key)

end SettingKey

/-- The names used in generated code. -/
structure Settings where
  /-- What the constants of tokens begin with. -/
  tokenPrefix : String
  /-- The name of the identifier token. -/
  identTokenName : String
  /-- The type that symbol dispatch returns. -/
  tokenType : String
  /-- The type of the enumeration, which identifier dispatch returns. -/
  tokenEnumType : String
  makeTokenFunctionName : String
  errorTokenFunctionName : String
  checkKeywordFunctionName : String
  /-- The name under which symbol dispatch is declared in the header. -/
  charTokenFunctionName : String
  /-- The name of the identifier dispatch function. -/
  identFunctionName : String
  /-- The name of the symbol dispatch function. -/
  symbolFunctionName : String
  scannerType : String
  matchFunctionName : String
  /-- The message for a character that begins no symbol. -/
  errorMessage : String
  headerGuard : String
  headerDeclsGuard : String
deriving Repr, DecidableEq, Inhabited

namespace Settings

/-- The value of a setting. -/
def get (s : Settings) : SettingKey → String
  | .tokenPrefix => s.tokenPrefix
  | .identTokenName => s.identTokenName
  | .tokenType => s.tokenType
  | .tokenEnumType => s.tokenEnumType
  | .makeTokenFunctionName => s.makeTokenFunctionName
  | .errorTokenFunctionName => s.errorTokenFunctionName
  | .checkKeywordFunctionName => s.checkKeywordFunctionName
  | .charTokenFunctionName => s.charTokenFunctionName
  | .identFunctionName => s.identFunctionName
  | .symbolFunctionName => s.symbolFunctionName
  | .scannerType => s.scannerType
  | .matchFunctionName => s.matchFunctionName
  | .errorMessage => s.errorMessage
  | .headerGuard => s.headerGuard
  | .headerDeclsGuard => s.headerDeclsGuard

/-- Takes one setting from a table, or else its usual value.  The error is the setting itself. -/
def take (t : StringTable) (k : SettingKey) : Except SettingKey String :=
  match t.get? k.name <|> k.default? with
  | some v => .ok v
  | none => .error k

/-- Takes all settings from a table.  The error is the first one that is missing. -/
def ofTable (t : StringTable) : Except SettingKey Settings := do
  let tokenPrefix ← take t .tokenPrefix
  let identTokenName ← take t .identTokenName
  let tokenType ← take t .tokenType
  let tokenEnumType ← take t .tokenEnumType
  let makeTokenFunctionName ← take t .makeTokenFunctionName
  let errorTokenFunctionName ← take t .errorTokenFunctionName
  let checkKeywordFunctionName ← take t .checkKeywordFunctionName
  let charTokenFunctionName ← take t .charTokenFunctionName
  let identFunctionName ← take t .identFunctionName
  let symbolFunctionName ← take t .symbolFunctionName
  let scannerType ← take t .scannerType
  let matchFunctionName ← take t .matchFunctionName
  let errorMessage ← take t .errorMessage
  let headerGuard ← take t .headerGuard
  let headerDeclsGuard ← take t .headerDeclsGuard
  return {
    tokenPrefix, identTokenName, tokenType, tokenEnumType, makeTokenFunctionName,
    errorTokenFunctionName, checkKeywordFunctionName, charTokenFunctionName, identFunctionName,
    symbolFunctionName, scannerType, matchFunctionName, errorMessage, headerGuard,
    headerDeclsGuard }

/-- The keys of a table that are no settings, in table order. -/
def unknownKeys (t : StringTable) : List String :=
  t.keys.filter (!SettingKey.isKnown ·)

end Settings

end ScannerDispatch
