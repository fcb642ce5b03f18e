import ScannerDispatch.Code.Lexeme

/-!
From tokens to statements.

Every reader takes at least one token and returns the rest with a proof that it is shorter; a fault
is the first token that does not fit.

* `Stmt.read` reads a statement and `Stmt.readBody` the statements up to a closing brace.
* `function` reads the body of the function that a code defines.
-/

namespace ScannerDispatch.Code

/-! ## Single tokens -/

/-- Reads one token. -/
def readToken : (ts : List Token) → Except Fault (Token × Shorter ts)
  | [] => .error .endOfCode
  | t :: ts => .ok (t, .tail t ts)

/-- Reads the given punctuation. -/
def readPunct (p : Punct) (ts : List Token) : Except Fault (Unit × Shorter ts) := do
  let (t, r) ← readToken ts
  if t = .punct p then return ((), r) else .error (.expected p.spelling t)

/-- Reads the given word. -/
def readWord (w : String) (ts : List Token) : Except Fault (Unit × Shorter ts) := do
  let (t, r) ← readToken ts
  if t = .word w then return ((), r) else .error (.expected w t)

/-- Reads a number. -/
def readInt (ts : List Token) : Except Fault (Nat × Shorter ts) := do
  let (t, r) ← readToken ts
  match t with
  | .int n => return (n, r)
  | _ => .error (.expectedInteger t)

/-- Reads the literal of a character; `fault` is the fault of any other token. -/
def readChar (fault : Fault) (ts : List Token) : Except Fault (Char × Shorter ts) := do
  let (t, r) ← readToken ts
  match t with
  | .char c => return (c, r)
  | _ => .error fault

/-! ## Parts of statements -/

/-- Reads what a switch looks at. -/
def Subject.read (ts : List Token) : Except Fault (Subject × Shorter ts) := do
  let (t, r) ← readToken ts
  if t = .word "c" then return (.first, r)
  else if t = .word "scanner" then
    let ((), r) ← r.andRead (readPunct .arrow)
    let ((), r) ← r.andRead (readWord "start")
    let ((), r) ← r.andRead (readPunct .openBracket)
    let (n, r) ← r.andRead readInt
    let ((), r) ← r.andRead (readPunct .closeBracket)
    return (.start n, r)
  else .error (.noSubject t)

/-- Reads a condition. -/
def Cond.read (ts : List Token) : Except Fault (Cond × Shorter ts) := do
  let (t, r) ← readToken ts
  match t with
  | .word w =>
    if w = "scanner" then
      let ((), r) ← r.andRead (readPunct .arrow)
      let ((), r) ← r.andRead (readWord "current")
      let ((), r) ← r.andRead (readPunct .minus)
      let ((), r) ← r.andRead (readWord "scanner")
      let ((), r) ← r.andRead (readPunct .arrow)
      let ((), r) ← r.andRead (readWord "start")
      let ((), r) ← r.andRead (readPunct .greater)
      let (n, r) ← r.andRead readInt
      return (.longerThan n, r)
    else
      let ((), r) ← r.andRead (readPunct .openParen)
      let ((), r) ← r.andRead (readWord "scanner")
      let ((), r) ← r.andRead (readPunct .comma)
      let (c, r) ← r.andRead (readChar .matchArgument)
      let ((), r) ← r.andRead (readPunct .closeParen)
      return (.next c, r)
  | _ => .error (.noCondition t)

/-- Reads one argument of a call. -/
def Arg.read (ts : List Token) : Except Fault (Arg × Shorter ts) := do
  let (t, r) ← readToken ts
  match t with
  | .int n => return (.int n, r)
  | .text s => return (.text s, r)
  | .word s => return (.name s, r)
  | _ => .error (.noArgument t)

/-- Reads the arguments of a call, the closing parenthesis included.  There is at least one. -/
def Arg.readList (ts : List Token) : Except Fault (List Arg × Shorter ts) := do
  let (a, r) ← Arg.read ts
  let (t, r) ← r.andRead readToken
  if t = .punct .comma then
    let (as, s) ← Arg.readList r.list
    return (a :: as, r.then s)
  else if t = .punct .closeParen then return ([a], r)
  else .error (.badArgumentList t)
termination_by ts.length
decreasing_by exact r.length_lt

/-- Reads what is returned: a name, or a call. -/
def Expr.read (ts : List Token) : Except Fault (Expr × Shorter ts) := do
  let (t, r) ← readToken ts
  match t with
  | .word w =>
    let (t', r') ← r.andRead readToken
    if t' = .punct .openParen then
      let (args, r') ← r'.andRead Arg.readList
      return (.call w args, r')
    else return (.name w, r)
  | _ => .error .noExpression

/-- Reads a label of a switch after the word `case` or `default`, as `isCase` says. -/
def Label.read (isCase : Bool) (ts : List Token) : Except Fault (Label × Shorter ts) := do
  if isCase then
    let (c, r) ← readChar .caseLabel ts
    let ((), r) ← r.andRead (readPunct .colon)
    return (.case c, r)
  else
    let ((), r) ← readPunct .colon ts
    return (.default, r)

/-! ## Statements -/

mutual

/-- Reads one statement. -/
def Stmt.read (ts : List Token) : Except Fault (Stmt × Shorter ts) := do
  let (t, r) ← readToken ts
  match t with
  | .punct .semicolon => return (.empty, r)
  | .punct .openBrace =>
    let (body, s) ← Stmt.readBody false r.list
    return (.block body, r.then s)
  | .word w =>
    if w = "break" then
      let ((), r) ← r.andRead (readPunct .semicolon)
      return (.leave, r)
    else if w = "return" then
      let (e, r) ← r.andRead Expr.read
      let ((), r) ← r.andRead (readPunct .semicolon)
      return (.result e, r)
    else if w = "if" then
      let ((), r) ← r.andRead (readPunct .openParen)
      let (cond, r) ← r.andRead Cond.read
      let ((), r) ← r.andRead (readPunct .closeParen)
      let (body, s) ← Stmt.read r.list
      return (.when cond body, r.then s)
    else if w = "switch" then
      let ((), r) ← r.andRead (readPunct .openParen)
      let (subject, r) ← r.andRead Subject.read
      let ((), r) ← r.andRead (readPunct .closeParen)
      let ((), r) ← r.andRead (readPunct .openBrace)
      let (body, s) ← Stmt.readBody true r.list
      return (.switch subject body, r.then s)
    else .error (.noStatement t)
  | _ => .error (.noStatement t)
termination_by 2 * ts.length
decreasing_by all_goals have := r.length_lt; omega

/-- Reads statements up to the closing brace, which is read too.  In the body of a switch there may
    be labels. -/
def Stmt.readBody (inSwitch : Bool) (ts : List Token) : Except Fault (List Stmt × Shorter ts) := do
  let (t, r) ← readToken ts
  if t = .punct .closeBrace then return ([], r)
  else if inSwitch && (t = .word "case" || t = .word "default") then
    let (l, r) ← r.andRead (Label.read (t = .word "case"))
    let (body, s) ← Stmt.readBody inSwitch r.list
    return (.label l :: body, r.then s)
  else
    let (stmt, r) ← Stmt.read ts
    let (body, s) ← Stmt.readBody inSwitch r.list
    return (stmt :: body, r.then s)
termination_by 2 * ts.length + 1
decreasing_by
  · have := r.length_lt; omega
  · omega
  · have := r.length_lt; omega

end

/-! ## Functions -/

/-- Reads the body of a function, which begins at the first opening brace and ends the code. -/
def functionBody : List Token → Except Fault (List Stmt)
  | [] => .error .endOfCode
  | t :: ts =>
    if t = .punct .openBrace then do
      let (body, r) ← Stmt.readBody false ts
      if r.list.isEmpty then return body else .error .trailingTokens
    else functionBody ts

/-- The statements of the function that a code defines. -/
def function (code : String) : Except Fault (List Stmt) := do
  functionBody (← tokens code.toList)

end ScannerDispatch.Code
