import ScannerDispatch.CommandLine.Run

/-!
The program: carries out its command line on the files of the computer.

The current directory of a run is kept as a text that is put in front of relative paths.
-/

namespace ScannerDispatch.Computer

open CommandLine

/-- The number of an error without its sign; some operations report it as a negative number. -/
def errorNumber (code : UInt32) : UInt32 :=
  if code < 0x80000000 then code else 0 - code

/-- The reason for a failure of the operating system. -/
def reasonOf : IO.Error → FileError
  | .noFileOrDirectory .. => .notFound
  | .alreadyExists .. => .alreadyExists
  | .inappropriateType _ code details =>
    match errorNumber code with
    | 20 => .notDirectory
    | 21 => .isDirectory
    | n => .other (details ++ " (os error " ++ toString n ++ ")")
  | e => .other (toString e)

/-- Files as seen from a current directory. -/
abbrev InDirectory := StateT String IO

/-- The path under which the computer knows `path`. -/
def located (path : String) : InDirectory String := do
  let here ← get
  return if here.isEmpty || Path.isAbsolute path then path else here ++ "/" ++ path

/-- Carries out an operation on the files of the computer. -/
def attempt {α : Type} (path : String) (f : String → IO α) : InDirectory (Except FileError α) := do
  let path ← located path
  return (← (f path).toBaseIO).mapError reasonOf

/-- Access to the files of the computer. -/
def files : FileAccess InDirectory where
  canonical path := attempt path fun p => return (← IO.FS.realPath p).toString
  isDirectory path := do
    match ← attempt path fun p => do (← IO.FS.realPath p).isDir with
    | .ok b => return b
    | .error _ => return false
  enter path := set path
  read path := attempt path fun p => IO.FS.readBinFile p
  makeDirectory path := attempt path fun p => IO.FS.createDir p
  write path contents := attempt path fun p => IO.FS.writeFile p contents

end ScannerDispatch.Computer

open ScannerDispatch

/-- Carries out the command line.  Warnings go to the error stream. -/
def main (arguments : List String) : IO UInt32 := do
  let (r, _) ← (CommandLine.execute Computer.files arguments).run ""
  for e in r.log do
    if e.level = .warn then IO.eprint e.printed
  IO.eprint r.errors
  IO.print r.output
  return UInt32.ofNat r.exitCode
