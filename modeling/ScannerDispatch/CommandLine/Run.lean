import ScannerDispatch.CommandLine.Arguments
import ScannerDispatch.Config.Reading
import ScannerDispatch.Files.Tree
import ScannerDispatch.Generator

/-!
A run of the command line: reads a configuration, generates code and writes three files.

The run is described over any `FileAccess`, so that the same run works on a tree of files and on the
files of the computer.

* `generateFiles` is the run for given arguments, `execute` that for a whole command line.
* `runOnTree` carries out a command line on a tree.
-/

namespace ScannerDispatch.CommandLine

/-- What a run does with files.  Paths are used in the current directory. -/
structure FileAccess (m : Type → Type) where
  /-- The path from the root of what a path leads to. -/
  canonical : String → m (Except FileError String)
  isDirectory : String → m Bool
  /-- Changes the current directory. -/
  enter : String → m Unit
  read : String → m (Except FileError ByteArray)
  makeDirectory : String → m (Except FileError Unit)
  write : String → String → m (Except FileError Unit)

/-- Why a run fails. -/
inductive RunError where
  | noDirectory (path : String)
  | noConfiguration (path : String)
  | unreadable (path : String) (reason : FileError)
  | badConfiguration (e : ReadError)
  | generation (e : EmitError)
  | directoryNotMade (path : String) (reason : FileError)
  | notWritten (path : String) (reason : FileError)
deriving Repr, DecidableEq, Inhabited

namespace RunError

/-- The wording of a failure. -/
def message : RunError → String
  | noDirectory path => "Directory not found at '" ++ path ++ "'"
  | noConfiguration path => "Could not open '" ++ path ++ "'"
  | unreadable path reason => path ++ ": read failed (" ++ reason.message ++ ")"
  | badConfiguration .malformed => "Invalid configuration syntax"
  | badConfiguration (.invalid e) => e.message
  | generation e => e.message
  | directoryNotMade path _ => path ++ ": could not create directory"
  | notWritten path _ => path ++ ": write failed"

/-- The reason behind a failure, if it has one. -/
def reason? : RunError → Option FileError
  | unreadable _ reason | directoryNotMade _ reason | notWritten _ reason => some reason
  | _ => none

/-- The report of a failure: what failed and, in a paragraph of its own, why. -/
def report (e : RunError) : String :=
  "Error: " ++ e.message ++ "\n" ++
    match e.reason? with
    | none => ""
    | some reason => "\nCaused by:\n    " ++ reason.message ++ "\n"

end RunError

/-! ## The run -/

section
variable {m : Type → Type} [Monad m] (files : FileAccess m)

/-- An action on files that can fail and reports what it does. -/
abbrev Action (m : Type → Type) (α : Type) := ExceptT RunError (StateT (List LogEvent) m) α

/-- Reports an event. -/
def Action.report (e : LogEvent) : Action m Unit :=
  modify (· ++ [e])

/-- Carries out an operation; `failure` is the failure if that fails. -/
def Action.attempt {α : Type} (failure : FileError → RunError) (x : m (Except FileError α)) :
    Action m α := do
  match ← (liftM x : StateT (List LogEvent) m _) with
  | .ok a => return a
  | .error e => throw (failure e)

/-- The result of something that reports what it does. -/
def Action.ofLogged {ε α : Type} (failure : ε → RunError) (x : Logged ε α) : Action m α := do
  modify (· ++ x.log)
  match x.result with
  | .ok a => return a
  | .error e => throw (failure e)

/-- Enters the directory to run in. -/
def enterWorkdir (workdir : Option String) : Action m Unit := do
  match workdir with
  | none => return
  | some path =>
    let place ← Action.attempt (fun _ => .noDirectory path) (files.canonical path)
    if ← (files.isDirectory place : m Bool) then files.enter place
    else throw (.noDirectory place)

/-- Reads the configuration at a path. -/
def loadConfig (path : String) : Action m Config := do
  let failure : FileError → RunError
    | .notFound => .noConfiguration path
    | reason => .unreadable path reason
  let bytes ← Action.attempt failure (files.read path)
  match String.fromUTF8? bytes with
  | none => throw (.unreadable path .notText)
  | some text => Action.ofLogged .badConfiguration (Config.ofToml text)

/-- Makes a directory.  It is no failure if there is one already. -/
def makeOrKeep (path : String) : m (Except FileError Unit) := do
  match ← files.makeDirectory path with
  | .ok () => return .ok ()
  | .error e => return if ← files.isDirectory path then .ok () else .error e

/-- Makes a directory and those that it lies in; they are given from the inside out. -/
def makeDirectories : List String → m (Except FileError Unit)
  | [] => return .ok ()
  | path :: outer => do
    match ← makeOrKeep files path with
    | .error .notFound =>
      match ← makeDirectories outer with
      | .ok () => makeOrKeep files path
      | .error e => return .error e
    | r => return r

/-- Writes an output file, with the directories that it lies in. -/
def writeOutput (path contents : String) : Action m Unit := do
  match Path.parent? path with
  | none => pure ()
  | some parent =>
    Action.attempt (.directoryNotMade parent) (makeDirectories files (Path.ancestors parent))
  Action.attempt (.notWritten path) (files.write path contents)
  Action.report (.wrote path)

/-- Reads the configuration, generates code and writes the three files. -/
def generateFiles (a : Arguments) : Action m Unit := do
  enterWorkdir files a.workdir
  let config ← loadConfig files a.configFile
  let generator ← Action.ofLogged .badConfiguration (Generator.build config)
  let outputs ← Action.ofLogged .generation generator.generate
  writeOutput files a.outputSource outputs.source
  writeOutput files a.outputHeaderDecls outputs.headerDecls
  writeOutput files a.outputHeader outputs.header

end

/-! ## The command line -/

/-- The answer to a request for the version. -/
def versionText : String :=
  "scangen 0.1.0\n"

/-- The shape of a command line. -/
def usageText : String :=
  "Usage: scangen [OPTIONS] --output-header-decls <decl_header_file> " ++
    "--output-header <header_file> --output-source <source_file> <CONFIG_FILE>\n"

/-- The answer to a request for help. -/
def helpText : String :=
  "Generates the keyword and punctuation dispatch functions, and the token type enumeration, for a " ++
    "hand-written scanner\n\n" ++ usageText ++
    "\nArguments:\n" ++
    "  <CONFIG_FILE>  Scanner configuration file\n" ++
    "\nOptions:\n" ++
    "  -D, --output-header-decls <decl_header_file>  Output file to write the type declarations to\n" ++
    "  -H, --output-header <header_file>             Output file to write the function declarations to\n" ++
    "  -S, --output-source <source_file>             Output file to write the source code to\n" ++
    "  -C, --workdir <dir>                           Directory to run in.  Other file names are " ++
    "relative to it.  Defaults to the current directory\n" ++
    "  -h, --help                                    Print help\n" ++
    "  -V, --version                                 Print version\n"

/-- What a command line answers. -/
structure Response where
  exitCode : Nat
  output : String := ""
  failure : Option RunError := none
  misuse : Option UsageError := none
  log : List LogEvent := []
deriving Repr, Inhabited

/-- What is written to the error stream apart from the log. -/
def Response.errors (r : Response) : String :=
  match r.failure, r.misuse with
  | some e, _ => e.report
  | none, some e => "error: " ++ e.message ++ "\n\n" ++ usageText
  | none, none => ""

/-- Carries out a command line. -/
def execute {m : Type → Type} [Monad m] (files : FileAccess m) (arguments : List String) :
    m Response := do
  match Arguments.parse arguments with
  | .version => return { exitCode := 0, output := versionText }
  | .help => return { exitCode := 0, output := helpText }
  | .misuse e => return { exitCode := 2, misuse := some e }
  | .run a =>
    let (result, log) ← (generateFiles files a).run.run []
    match result with
    | .ok () => return { exitCode := 0, log }
    | .error e => return { exitCode := 1, failure := some e, log }

/-! ## Trees of files -/

/-- A tree of files with a current directory. -/
structure Workspace where
  tree : FileTree
  here : Location
deriving Inhabited

/-- Changes the tree of a workspace, unless that fails. -/
def Workspace.change (f : Workspace → Except FileError FileTree) :
    StateM Workspace (Except FileError Unit) :=
  fun w =>
    match f w with
    | .ok tree => (.ok (), { w with tree })
    | .error e => (.error e, w)

/-- Access to the files of a tree. -/
def Workspace.files : FileAccess (StateM Workspace) where
  canonical path := do
    let w ← get
    return (w.tree.resolve w.here path).map fun r => r.1.path
  isDirectory path := do
    let w ← get
    return w.tree.isDirectory w.here path
  enter path := modify fun w => { w with here := Path.names path }
  read path := do
    let w ← get
    return w.tree.read w.here path
  makeDirectory path := change fun w => w.tree.makeDirectory w.here path
  write path contents := change fun w => w.tree.write w.here path contents.toUTF8

/-- Carries out a command line in a directory of a tree. -/
def runOnTree (tree : FileTree) (here : Location) (arguments : List String) : Response × FileTree :=
  let (r, w) := (execute Workspace.files arguments).run { tree, here }
  (r, w.tree)

end ScannerDispatch.CommandLine
