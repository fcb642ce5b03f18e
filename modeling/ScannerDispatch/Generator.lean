import ScannerDispatch.Config.Basic
import ScannerDispatch.Dispatch.Identifier
import ScannerDispatch.Dispatch.Symbol
import ScannerDispatch.Enumeration

/-!
The generated files: a source file with both dispatch functions, a header with the enumeration, and a
header that declares the functions.

* `Generator.ofConfig` builds the tries of a configuration; `Generator.build` also reports their sizes.
* `Generator.source`, `Generator.headerDecls` and `Generator.header` make one file each;
  `Generator.generate` makes all three.
-/

namespace ScannerDispatch

/-- A configuration with the tries of its keywords and symbols. -/
structure Generator where
  config : Config
  keywords : Trie
  symbols : Trie
deriving Repr, DecidableEq, Inhabited

/-- A generated text, and the constants that it refers to. -/
structure GeneratedCode where
  text : String
  registry : Registry
deriving Repr, DecidableEq, Inhabited

/-- The three generated files. -/
structure Outputs where
  source : String
  headerDecls : String
  header : String
deriving Repr, DecidableEq, Inhabited

/-- Carries out the steps on a new session under a stem. -/
def emitNew (stem : String) (steps : List Step) : Logged EmitError GeneratedCode :=
  let (s, result) := emit steps (.new stem)
  ⟨s.log, result.map fun _ => ⟨s.writer.written, s.registry⟩⟩

namespace Generator

/-! ## Tries -/

/-- The trie of the keywords: each one is the name of its token. -/
def keywordTrie (tokens : Tokens) : Trie :=
  .ofList (tokens.keywords.map fun k => (k, k))

/-- The trie of the symbols, each with the name of its token. -/
def symbolTrie (tokens : Tokens) : Trie :=
  .ofList (tokens.symbols.entries.map fun e => (e.2, e.1))

/-- The generator of a configuration. -/
def ofConfig (config : Config) : Generator :=
  ⟨config, keywordTrie config.tokens, symbolTrie config.tokens⟩

/-- The sizes of the tries of a generator, for the log. -/
def builtEvent (g : Generator) : LogEvent :=
  .triesBuilt g.config.tokens.keywords.length g.keywords.size g.config.tokens.symbols.size
    g.symbols.size

/-- Builds the generator of a configuration and reports the sizes of its tries. -/
def build {ε : Type} (config : Config) : Logged ε Generator :=
  let g := ofConfig config
  ⟨[g.builtEvent], .ok g⟩

/-! ## Parts of files -/

/-- The include lines of a file and, if there are any, a blank line after them.  Empty targets are
    left out. -/
def includeLines (targets : List String) : String :=
  let lines := (targets.filter (!·.isEmpty)).map fun t => "#include " ++ t ++ "\n"
  if lines.isEmpty then "" else String.join lines ++ "\n"

/-- A header: `body` between the lines that guard it against repeated inclusion. -/
def guarded (guard body : String) : String :=
  "#ifndef " ++ guard ++ "\n#define " ++ guard ++ "\n\n" ++ body ++ "\n#endif // " ++ guard ++ "\n"

/-! ## Files -/

variable (g : Generator)

/-- The identifier dispatch function. -/
def identifierCode : Logged EmitError GeneratedCode :=
  emitNew g.config.settings.tokenPrefix (IdentifierDispatch.steps g.config.settings g.keywords)

/-- The symbol dispatch function. -/
def symbolCode : Logged EmitError GeneratedCode :=
  emitNew g.config.settings.tokenPrefix (SymbolDispatch.steps g.config.settings g.symbols)

/-- The source file, with the constants that its functions refer to. -/
def source : Logged EmitError GeneratedCode := do
  let identifier ← g.identifierCode
  let symbol ← g.symbolCode
  return {
    text := includeLines g.config.includes.sourceFile ++ identifier.text ++ "\n" ++ symbol.text
    registry := identifier.registry.merge symbol.registry }

/-- The registry of a source file, completed by the literals and the special tokens. -/
def declared (source : Registry) : Registry :=
  (source.registerAll .literal g.config.tokens.literals).registerAll .special
    g.config.tokens.specials

/-- The header with the enumeration of all tokens, for a source file that refers to the constants of
    `source`. -/
def headerDecls (source : Registry) : Logged EmitError String := do
  let registry := g.declared source
  Logged.report (registry.groups.map fun (c, names) => .classSize c names.length)
  let settings := g.config.settings
  let enumeration ← emitNew registry.stem (Enumeration.steps registry settings.tokenEnumType)
  return guarded settings.headerDeclsGuard
    (includeLines g.config.includes.headerDeclsFile ++ enumeration.text)

/-- The header that declares the dispatch functions. -/
def header : String :=
  let settings := g.config.settings
  guarded settings.headerGuard
    (includeLines g.config.includes.headerFile ++
      IdentifierDispatch.signature settings ++ ";\n" ++
      SymbolDispatch.signature settings settings.charTokenFunctionName ++ ";\n")

/-- All three files. -/
def generate : Logged EmitError Outputs := do
  let source ← g.source
  let headerDecls ← g.headerDecls source.registry
  return { source := source.text, headerDecls, header := g.header }

end Generator

end ScannerDispatch
