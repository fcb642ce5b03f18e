import ScannerDispatch.Code.Token

/-!
Statements of the generated code, as far as dispatch functions use them.

The labels of a switch stand among the statements of its body; they mark places and do nothing.
-/

namespace ScannerDispatch.Code

/-- What a switch looks at. -/
inductive Subject where
  /-- The character of the lexeme at an offset. -/
  | start (offset : Nat)
  /-- The character that was read before the function was called. -/
  | first
deriving Repr, DecidableEq, Inhabited

/-- A condition. -/
inductive Cond where
  /-- The lexeme has more than so many characters. -/
  | longerThan (n : Nat)
  /-- The next character is `c`; if it is, it is read. -/
  | next (c : Char)
deriving Repr, DecidableEq, Inhabited

/-- An argument of a call. -/
inductive Arg where
  | int (n : Nat)
  | text (s : String)
  | name (s : String)
deriving Repr, DecidableEq, Inhabited

/-- What is returned. -/
inductive Expr where
  | name (s : String)
  | call (function : String) (args : List Arg)
deriving Repr, DecidableEq, Inhabited

/-- A place in the body of a switch. -/
inductive Label where
  | case (c : Char)
  | default
deriving Repr, DecidableEq, Inhabited

/-- A statement. -/
inductive Stmt where
  | empty
  /-- Leaves the innermost switch. -/
  | leave
  | result (e : Expr)
  | when (cond : Cond) (body : Stmt)
  | block (body : List Stmt)
  | switch (subject : Subject) (body : List Stmt)
  /-- A label, in the body of a switch. -/
  | label (l : Label)
deriving Repr, Inhabited

/-- The label that a statement is, if it is one. -/
def Stmt.label? : Stmt → Option Label
  | label l => some l
  | _ => none

/-- An argument as a message names it: its kind and its value. -/
def Arg.describe : Arg → String
  | int n => "Int(" ++ toString n ++ ")"
  | text s => "Str(" ++ Text.quoted s ++ ")"
  | name s => "Name(" ++ Text.quoted s ++ ")"

/-- Arguments as a message names them. -/
def Arg.describeAll (args : List Arg) : String :=
  "[" ++ ", ".intercalate (args.map describe) ++ "]"

end ScannerDispatch.Code
