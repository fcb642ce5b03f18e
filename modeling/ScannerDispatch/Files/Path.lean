import ScannerDispatch.Text.Shorter

/-!
Paths as texts: names joined by slashes.

* `Path.names` are the names on a path.
* `Path.parent?` is the path of the directory that a path lies in, as far as the text shows it; a point
  and a slash at the end say nothing.
* `Path.ancestors` are a path and its parents, up to where the text ends.
-/

namespace ScannerDispatch.Path

/-- The names on a path, without the empty ones. -/
def names (path : String) : List String :=
  ((path.toList.splitOn '/').filter (!·.isEmpty)).map String.ofList

/-- Does the path start at the root? -/
def isAbsolute (path : String) : Bool :=
  path.toList.head? = some '/'

/-- Does the path end in a slash? -/
def endsInSlash (path : String) : Bool :=
  path.toList.getLast? = some '/'

/-- A path that is given backwards, without the slashes and the lone points at its end.  The root
    stays. -/
def trimmed (cs : List Char) : Rest cs :=
  match cs with
  | ['/'] => .all ['/']
  | '/' :: cs => (Shorter.cons _ (trimmed cs)).rest
  | '.' :: '/' :: cs => (Shorter.cons _ (trimmed ('/' :: cs))).rest
  | cs => .all cs

/-- The parent of a path; both are given backwards.  The root and the empty path have none. -/
def parentBackwards? (cs : List Char) : Option (Shorter cs) := do
  let r := trimmed cs
  if r.list = ['/'] then none
  else
    let (_, r) ← r.andRead uncons?
    let r := r.thenRest (.dropWhile (· ≠ '/') r.list)
    return r.thenRest (trimmed r.list)

/-- The parent of a path.  The root and the empty path have none. -/
def parent? (path : String) : Option String :=
  (parentBackwards? path.toList.reverse).map fun r => String.ofList r.list.reverse

/-- A path and its ancestors, nearest first, without the empty path; all are given backwards. -/
def ancestorsBackwards (cs : List Char) : List (List Char) :=
  if cs.isEmpty then []
  else
    match parentBackwards? cs with
    | none => [cs]
    | some r => cs :: ancestorsBackwards r.list
termination_by cs.length
decreasing_by exact r.length_lt

/-- A path and its ancestors, nearest first, without the empty path. -/
def ancestors (path : String) : List String :=
  (ancestorsBackwards path.toList.reverse).map fun cs => String.ofList cs.reverse

end ScannerDispatch.Path
