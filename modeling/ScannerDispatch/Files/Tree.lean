import ScannerDispatch.Files.Path

/-!
A tree of files, and what the operations on files do to it.

* `FileTree` maps locations to files and directories; the root is always a directory.
* `FileTree.resolve` follows a path, `FileTree.read` reads a file, `FileTree.write` and
  `FileTree.makeDirectory` change the tree.
* `FileTree.changes` lists the files that differ between two trees.
-/

namespace ScannerDispatch

/-- Why an operation on files fails. -/
inductive FileError where
  | notFound
  | notDirectory
  | isDirectory
  | alreadyExists
  /-- The contents of a file are no text. -/
  | notText
  /-- Any other reason, in the words of the operating system. -/
  | other (reason : String)
deriving Repr, DecidableEq, Inhabited

/-- The wording of a reason. -/
def FileError.message : FileError → String
  | notFound => "No such file or directory (os error 2)"
  | notDirectory => "Not a directory (os error 20)"
  | isDirectory => "Is a directory (os error 21)"
  | alreadyExists => "File exists (os error 17)"
  | notText => "stream did not contain valid UTF-8"
  | other reason => reason

/-- A place in the tree: the names from the root on. -/
abbrev Location := List String

/-- The path of a location from the root. -/
def Location.path (l : Location) : String :=
  "/" ++ "/".intercalate l

/-- What stands at a location. -/
inductive FileEntry where
  | file (contents : ByteArray)
  | directory
deriving Inhabited

/-- A tree of files. -/
structure FileTree where
  entries : List (Location × FileEntry) := []
deriving Inhabited

namespace FileTree

variable (t : FileTree)

/-- What stands at a location. -/
def get? (l : Location) : Option FileEntry :=
  if l.isEmpty then some .directory else t.entries.lookup l

/-- Is there a directory at a location? -/
def hasDirectory (l : Location) : Bool :=
  match t.get? l with
  | some .directory => true
  | _ => false

/-- Is there a file with exactly these contents at a location? -/
def hasFile (l : Location) (contents : ByteArray) : Bool :=
  match t.get? l with
  | some (.file found) => found.data = contents.data
  | _ => false

/-- Puts an entry at a location. -/
def set (l : Location) (e : FileEntry) : FileTree :=
  ⟨t.entries.filter (·.1 ≠ l) ++ [(l, e)]⟩

/-- Makes the directories on the way to a location. -/
def setParents (l : Location) : FileTree :=
  (List.range l.length).foldl
    (fun t n => if (t.get? (l.take n)).isNone then t.set (l.take n) .directory else t) t

/-- The tree with the given entries, and with the directories on the way to them. -/
def ofList (entries : List (Location × FileEntry)) : FileTree :=
  entries.foldl (fun t e => (t.setParents e.1).set e.1 e.2) {}

/-! ## Following paths -/

/-- Goes on from a location by one name. -/
def step (l : Location) (name : String) : Except FileError Location :=
  match t.get? l with
  | none => .error .notFound
  | some (.file _) => .error .notDirectory
  | some .directory =>
    if name = "." then .ok l
    else if name = ".." then .ok l.dropLast
    else if (t.get? (l ++ [name])).isSome then .ok (l ++ [name])
    else .error .notFound

/-- Goes on from a location by several names. -/
def walk (l : Location) (names : List String) : Except FileError Location :=
  names.foldlM t.step l

/-- The location where a path starts that is used in the directory `here`. -/
def start (here : Location) (path : String) : Location :=
  if Path.isAbsolute path then [] else here

/-- The location that a path leads to, with what stands there. -/
def resolve (here : Location) (path : String) : Except FileError (Location × FileEntry) := do
  let l ← t.walk (start here path) (Path.names path)
  match t.get? l with
  | none => .error .notFound
  | some (.file contents) =>
    if Path.endsInSlash path then .error .notDirectory else return (l, .file contents)
  | some .directory => return (l, .directory)

/-- Does a path lead to a directory? -/
def isDirectory (here : Location) (path : String) : Bool :=
  match t.resolve here path with
  | .ok (_, .directory) => true
  | _ => false

/-- The directory in which the last name of a path is looked up, and that name. -/
def resolveLast (here : Location) (path : String) : Except FileError (Location × Option String) := do
  let names := Path.names path
  let l ← t.walk (start here path) names.dropLast
  match t.get? l with
  | some .directory => return (l, names.getLast?)
  | some (.file _) => .error .notDirectory
  | none => .error .notFound

/-! ## Operations -/

/-- Reads a file. -/
def read (here : Location) (path : String) : Except FileError ByteArray := do
  match ← t.resolve here path with
  | (_, .file contents) => return contents
  | (_, .directory) => .error .isDirectory

/-- Writes a file, in place of one that is there already. -/
def write (here : Location) (path : String) (contents : ByteArray) : Except FileError FileTree := do
  let (l, last) ← t.resolveLast here path
  match last with
  | none | some "." | some ".." => .error .isDirectory
  | some name =>
    if Path.endsInSlash path || t.hasDirectory (l ++ [name]) then .error .isDirectory
    else return t.set (l ++ [name]) (.file contents)

/-- Makes a directory. -/
def makeDirectory (here : Location) (path : String) : Except FileError FileTree := do
  let (l, last) ← t.resolveLast here path
  match last with
  | none | some "." | some ".." => .error .alreadyExists
  | some name =>
    if (t.get? (l ++ [name])).isSome then .error .alreadyExists
    else return t.set (l ++ [name]) .directory

/-! ## Differences -/

/-- The files below a location that are new or changed since `before`, by their paths from there. -/
def changes (before : FileTree) (here : Location) : List (String × ByteArray) :=
  let changed := t.entries.filterMap fun (l, e) =>
    match e with
    | .file contents =>
      if here.isPrefixOf l && !before.hasFile l contents then
        some ("/".intercalate (l.drop here.length), contents)
      else none
    | .directory => none
  changed.mergeSort fun a b => a.1 ≤ b.1

end FileTree

end ScannerDispatch
