import ScannerDispatch.Config.Basic
import ScannerDispatch.Toml.Document

/-!
Reading a configuration from a TOML document.

* `ConfigDocument.ofTable?` gives a table its shape: texts under `settings`, lists of texts under
  `includes` and `tokens`, texts under `tokens.symbols`.  Entries without meaning are passed over if
  their numbers can be represented.
* `Config.ofToml` reads, completes and checks a configuration.
-/

namespace ScannerDispatch

open Toml (Value Table)

/-- Why no configuration can be read from a document. -/
inductive ReadError where
  /-- The document is no TOML, or has the wrong shape. -/
  | malformed
  | invalid (e : ConfigError)
deriving Repr, DecidableEq, Inhabited

namespace ConfigDocument

/-- The name under which a date or time is the only entry of a table. -/
def dateTimeKey : String :=
  "$__toml_private_datetime"

/-- The text that a value is. -/
def text? : Value → Option String
  | .text s => some s
  | _ => none

/-- The list of texts that a value is. -/
def texts? : Value → Option (List String)
  | .array _ items => items.mapM text?
  | _ => none

/-- The table of texts that a value is.  A date or time counts as a table with one entry. -/
def textTable? : Value → Option StringTable
  | .table _ entries =>
    return .ofPairs (← entries.mapM fun e => (text? e.2).map fun s => (e.1, s))
  | .dateTime d => some (.ofPairs [(dateTimeKey, d.text)])
  | _ => none

/-- The values of the given keys.  They stand in a table by name, or in an array in order; a date or
    time counts as a table without any of them.  Members beyond the last key are passed over. -/
def fields? (keys : List String) : Value → Option (List (Option Value))
  | .table _ entries =>
    if entries.all fun e => e.1 ∈ keys || e.2.inRange then some (keys.map fun k => entries.lookup k)
    else none
  | .array _ items => some ((List.range keys.length).map fun i => items[i]?)
  | .dateTime _ => some (keys.map fun _ => none)
  | _ => none

/-- Reads a value if there is one. -/
def optional {α : Type} [Inhabited α] (read : Value → Option α) : Option Value → Option α
  | none => some default
  | some v => read v

/-- Reads what output files include. -/
def includes? (v : Value) : Option Includes := do
  let [header, decls, source] ← fields? ["header_file", "header_decls_file", "source_file"] v
    | none
  return {
    headerFile := ← optional texts? header
    headerDeclsFile := ← optional texts? decls
    sourceFile := ← optional texts? source }

/-- Reads the tokens. -/
def tokens? (v : Value) : Option Tokens := do
  let [keywords, specials, literals, symbols] ←
    fields? ["keywords", "specials", "literals", "symbols"] v | none
  return {
    keywords := ← optional texts? keywords
    specials := ← optional texts? specials
    literals := ← optional texts? literals
    symbols := ← optional textTable? symbols }

/-- Gives the table of a document its shape. -/
def ofTable? (t : Table) : Option ConfigDocument := do
  let [settings, includes, tokens] ← fields? ["settings", "includes", "tokens"] t.toValue | none
  return {
    settings := ← optional textTable? settings
    includes := ← optional includes? includes
    tokens := ← optional tokens? tokens }

/-- Reads a document. -/
def ofToml? (document : String) : Option ConfigDocument := do
  ofTable? (← Toml.parse document)

end ConfigDocument

/-- Reads a configuration, completes it and checks it. -/
def Config.ofToml (document : String) : Logged ReadError Config :=
  match ConfigDocument.ofToml? document with
  | none => .silent (.error .malformed)
  | some d => (Config.ofDocument d).mapError .invalid

end ScannerDispatch
