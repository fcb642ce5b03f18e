/-!
The arguments of the command line.

Four options take a value and one positional argument is the configuration.  The arguments are read
from the left, and the first one that is wrong, or that asks for the version or for help, decides.

* `Arguments.parse` reads them.
-/

namespace ScannerDispatch.CommandLine

/-- What a run needs to know. -/
structure Arguments where
  configFile : String
  outputSource : String
  outputHeaderDecls : String
  outputHeader : String
  workdir : Option String
deriving Repr, DecidableEq, Inhabited

/-- The options that take a value. -/
inductive ValueOption where
  | outputSource
  | outputHeaderDecls
  | outputHeader
  | workdir
deriving Repr, DecidableEq, Inhabited

namespace ValueOption

/-- All options that take a value. -/
def all : List ValueOption :=
  [outputSource, outputHeaderDecls, outputHeader, workdir]

/-- The name after two hyphens. -/
def long : ValueOption → String
  | outputSource => "output-source"
  | outputHeaderDecls => "output-header-decls"
  | outputHeader => "output-header"
  | workdir => "workdir"

/-- The letter after one hyphen. -/
def short : ValueOption → Char
  | outputSource => 'S'
  | outputHeaderDecls => 'D'
  | outputHeader => 'H'
  | workdir => 'C'

end ValueOption

/-- Why arguments cannot be used. -/
inductive UsageError where
  | unknown (argument : String)
  | noValue (o : ValueOption)
  | emptyValue
  | repeated (o : ValueOption)
  | surplus (argument : String)
  | missing
deriving Repr, DecidableEq, Inhabited

/-- The wording of an error. -/
def UsageError.message : UsageError → String
  | unknown argument => "unexpected argument '" ++ argument ++ "' found"
  | noValue o => "a value is required for '--" ++ o.long ++ "' but none was supplied"
  | emptyValue => "a value is required but an empty one was supplied"
  | repeated o => "the argument '--" ++ o.long ++ "' cannot be used multiple times"
  | surplus argument => "unexpected argument '" ++ argument ++ "' found"
  | missing => "required arguments were not provided"

/-- What the arguments ask for. -/
inductive Invocation where
  | run (a : Arguments)
  | version
  | help
  | misuse (e : UsageError)
deriving Repr, DecidableEq, Inhabited

/-! ## Single arguments -/

/-- What one argument is. -/
inductive Argument where
  /-- A value, or a positional argument. -/
  | plain (value : String)
  /-- The mark after which there are no more options. -/
  | separator
  | version
  | help
  /-- An option, with its value if that belongs to the same argument. -/
  | option (o : ValueOption) (value : Option String)
  | unknown
deriving Repr, DecidableEq, Inhabited

/-- An option by its long name.  After an equals sign stands its value. -/
def longArgument (cs : List Char) : Argument :=
  let name := String.ofList (cs.takeWhile (· ≠ '='))
  let value : Option String :=
    match cs.dropWhile (· ≠ '=') with
    | [] => none
    | _ :: rest => some (String.ofList rest)
  match ValueOption.all.find? (·.long == name) with
  | some o => .option o value
  | none =>
    if value.isSome then .unknown
    else if name = "version" then .version
    else if name = "help" then .help
    else .unknown

/-- An option by its letter.  What follows is its value, possibly after an equals sign. -/
def shortArgument (c : Char) (rest : List Char) : Argument :=
  match ValueOption.all.find? (·.short == c) with
  | some o =>
    .option o <|
      match rest with
      | [] => none
      | '=' :: value => some (String.ofList value)
      | value => some (String.ofList value)
  | none => if c = 'V' then .version else if c = 'h' then .help else .unknown

/-- What an argument is, before the separator. -/
def Argument.of (s : String) : Argument :=
  match s.toList with
  | ['-', '-'] => .separator
  | '-' :: '-' :: cs => longArgument cs
  | '-' :: c :: cs => shortArgument c cs
  | _ => .plain s

/-! ## All arguments -/

/-- What was given so far. -/
structure Given where
  configFile : Option String := none
  outputSource : Option String := none
  outputHeaderDecls : Option String := none
  outputHeader : Option String := none
  workdir : Option String := none
deriving Repr, DecidableEq, Inhabited

namespace Given

/-- The value of an option. -/
def get (g : Given) : ValueOption → Option String
  | .outputSource => g.outputSource
  | .outputHeaderDecls => g.outputHeaderDecls
  | .outputHeader => g.outputHeader
  | .workdir => g.workdir

/-- Gives an option its value, which is not empty.  No option is given twice. -/
def set (g : Given) (o : ValueOption) (value : String) : Except UsageError Given :=
  if (g.get o).isSome then .error (.repeated o)
  else if value.isEmpty then .error .emptyValue
  else
    .ok <|
      match o with
      | .outputSource => { g with outputSource := some value }
      | .outputHeaderDecls => { g with outputHeaderDecls := some value }
      | .outputHeader => { g with outputHeader := some value }
      | .workdir => { g with workdir := some value }

/-- Takes a positional argument, which is not empty.  There is one. -/
def setConfigFile (g : Given) (value : String) : Except UsageError Given :=
  if g.configFile.isSome then .error (.surplus value)
  else if value.isEmpty then .error .emptyValue
  else .ok { g with configFile := some value }

/-- Checks that nothing is missing. -/
def finish (g : Given) : Invocation :=
  match g.configFile, g.outputSource, g.outputHeaderDecls, g.outputHeader with
  | some configFile, some outputSource, some outputHeaderDecls, some outputHeader =>
    .run { configFile, outputSource, outputHeaderDecls, outputHeader, workdir := g.workdir }
  | _, _, _, _ => .misuse .missing

/-- Reads the arguments after the separator. -/
def readPositional (g : Given) : List String → Invocation
  | [] => g.finish
  | s :: rest =>
    match g.setConfigFile s with
    | .ok g => readPositional g rest
    | .error e => .misuse e

/-- Reads arguments. -/
def read (g : Given) : List String → Invocation
  | [] => g.finish
  | s :: rest =>
    match Argument.of s with
    | .separator => g.readPositional rest
    | .version => .version
    | .help => .help
    | .unknown => .misuse (.unknown s)
    | .plain value =>
      match g.setConfigFile value with
      | .ok g => read g rest
      | .error e => .misuse e
    | .option o (some value) =>
      match g.set o value with
      | .ok g => read g rest
      | .error e => .misuse e
    | .option o none =>
      match rest with
      | [] => .misuse (.noValue o)
      | next :: rest =>
        match Argument.of next with
        | .plain value =>
          match g.set o value with
          | .ok g => read g rest
          | .error e => .misuse e
        | _ => .misuse (.noValue o)

end Given

/-- Reads the arguments of the command line. -/
def Arguments.parse (arguments : List String) : Invocation :=
  Given.read {} arguments

end ScannerDispatch.CommandLine
