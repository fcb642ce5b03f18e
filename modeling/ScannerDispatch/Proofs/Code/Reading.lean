import ScannerDispatch.Code.Reader

/-!
Statements as tokens, and what the reader makes of these tokens.

* `Stmt.spelling` are the tokens of a statement, `Stmt.spellAll` those of several statements in a row.
  A condition on the next character is a call of a function, whose name the statement leaves open.
* `Stmt.Proper`: labels stand in the bodies of switches only, and every call has arguments.
* `Stmt.read_spelling` and `functionBody_spelling`: the reader finds the statements that were spelled.
-/

namespace ScannerDispatch.Code

/-! ## Spelling -/

/-- The tokens of what a switch looks at. -/
def Subject.spelling : Subject → List Token
  | first => [.word "c"]
  | start n =>
    [.word "scanner", .punct .arrow, .word "start", .punct .openBracket, .int n,
      .punct .closeBracket]

/-- The tokens of a condition; `matcher` is the function that reads the next character. -/
def Cond.spelling (matcher : String) : Cond → List Token
  | longerThan n =>
    [.word "scanner", .punct .arrow, .word "current", .punct .minus, .word "scanner",
      .punct .arrow, .word "start", .punct .greater, .int n]
  | next c =>
    [.word matcher, .punct .openParen, .word "scanner", .punct .comma, .char c, .punct .closeParen]

/-- The token of an argument. -/
def Arg.spelling : Arg → Token
  | int n => .int n
  | text s => .text s
  | name s => .word s

/-- The tokens of arguments, the closing parenthesis included. -/
def Arg.spellList : List Arg → List Token
  | [] => [.punct .closeParen]
  | [a] => [a.spelling, .punct .closeParen]
  | a :: args => a.spelling :: .punct .comma :: spellList args

/-- The tokens of what is returned. -/
def Expr.spelling : Expr → List Token
  | name s => [.word s]
  | call f args => .word f :: .punct .openParen :: Arg.spellList args

/-- The tokens of a label. -/
def Label.spelling : Label → List Token
  | case c => [.word "case", .char c, .punct .colon]
  | default => [.word "default", .punct .colon]

mutual

/-- The tokens of a statement. -/
def Stmt.spelling (matcher : String) : Stmt → List Token
  | .empty => [.punct .semicolon]
  | .leave => [.word "break", .punct .semicolon]
  | .result e => .word "return" :: e.spelling ++ [.punct .semicolon]
  | .when cond body =>
    .word "if" :: .punct .openParen :: cond.spelling matcher ++
      .punct .closeParen :: body.spelling matcher
  | .block body => .punct .openBrace :: spellAll matcher body ++ [.punct .closeBrace]
  | .switch subject body =>
    .word "switch" :: .punct .openParen :: subject.spelling ++
      .punct .closeParen :: .punct .openBrace :: spellAll matcher body ++ [.punct .closeBrace]
  | .label l => l.spelling

/-- The tokens of statements in a row. -/
def Stmt.spellAll (matcher : String) : List Stmt → List Token
  | [] => []
  | s :: body => s.spelling matcher ++ spellAll matcher body

end

@[simp] theorem Stmt.spellAll_append (matcher : String) (xs ys : List Stmt) :
    spellAll matcher (xs ++ ys) = spellAll matcher xs ++ spellAll matcher ys := by
  induction xs with
  | nil => simp [spellAll]
  | cons x xs ih => simp [spellAll, ih]

/-- Calls have arguments. -/
def Expr.Proper : Expr → Prop
  | name _ => True
  | call _ args => args ≠ []

mutual

/-- A statement outside the body of a switch. -/
def Stmt.Proper : Stmt → Prop
  | .empty | .leave => True
  | .result e => e.Proper
  | .when _ body => body.Proper
  | .block body => ProperAll false body
  | .switch _ body => ProperAll true body
  | .label _ => False

/-- Statements in a row; in the body of a switch there may be labels. -/
def Stmt.ProperAll (inSwitch : Bool) : List Stmt → Prop
  | [] => True
  | s :: body => (s.Proper ∨ (inSwitch = true ∧ ∃ l, s = .label l)) ∧ ProperAll inSwitch body

end

theorem Stmt.properAll_append {inSwitch : Bool} {xs ys : List Stmt} :
    ProperAll inSwitch (xs ++ ys) ↔ ProperAll inSwitch xs ∧ ProperAll inSwitch ys := by
  induction xs with
  | nil => simp [ProperAll]
  | cons x xs ih => simp [ProperAll, ih, and_assoc]

/-! ## Reading -/

theorem reads_readToken (t : Token) (ts : List Token) : Reads (readToken (t :: ts)) t ts :=
  .ok rfl

theorem reads_readPunct (p : Punct) (ts : List Token) :
    Reads (readPunct p (.punct p :: ts)) () ts :=
  (reads_readToken _ ts).bind fun _ => .ite_pos rfl (.ok rfl)

theorem reads_readWord (w : String) (ts : List Token) :
    Reads (readWord w (.word w :: ts)) () ts :=
  (reads_readToken _ ts).bind fun _ => .ite_pos rfl (.ok rfl)

theorem reads_readInt (n : Nat) (ts : List Token) : Reads (readInt (.int n :: ts)) n ts :=
  (reads_readToken _ ts).bind fun _ => .ok rfl

theorem reads_readChar (fault : Fault) (c : Char) (ts : List Token) :
    Reads (readChar fault (.char c :: ts)) c ts :=
  (reads_readToken _ ts).bind fun _ => .ok rfl

theorem Subject.read_spelling (s : Subject) (ts : List Token) :
    Reads (Subject.read (s.spelling ++ ts)) s ts := by
  cases s with
  | first => exact (reads_readToken _ ts).bind fun _ => .ite_pos rfl (.ok rfl)
  | start n =>
    refine (reads_readToken _ _).bind fun _ => .ite_neg (by decide) (.ite_pos rfl ?_)
    exact (reads_readPunct _ _).andRead.bind fun _ => (reads_readWord _ _).andRead.bind fun _ =>
      (reads_readPunct _ _).andRead.bind fun _ => (reads_readInt n _).andRead.bind fun _ =>
        (reads_readPunct _ _).andRead.bind fun _ => .ok rfl

theorem Cond.read_spelling {matcher : String} (hm : matcher ≠ "scanner") (c : Cond)
    (ts : List Token) : Reads (Cond.read (c.spelling matcher ++ ts)) c ts := by
  cases c with
  | longerThan n =>
    refine (reads_readToken _ _).bind fun _ => .ite_pos rfl ?_
    exact (reads_readPunct _ _).andRead.bind fun _ => (reads_readWord _ _).andRead.bind fun _ =>
      (reads_readPunct _ _).andRead.bind fun _ => (reads_readWord _ _).andRead.bind fun _ =>
        (reads_readPunct _ _).andRead.bind fun _ => (reads_readWord _ _).andRead.bind fun _ =>
          (reads_readPunct _ _).andRead.bind fun _ => (reads_readInt n _).andRead.bind fun _ =>
            .ok rfl
  | next c =>
    refine (reads_readToken _ _).bind fun _ => .ite_neg hm ?_
    exact (reads_readPunct _ _).andRead.bind fun _ => (reads_readWord _ _).andRead.bind fun _ =>
      (reads_readPunct _ _).andRead.bind fun _ => (reads_readChar _ c _).andRead.bind fun _ =>
        (reads_readPunct _ _).andRead.bind fun _ => .ok rfl

theorem Arg.read_spelling (a : Arg) (ts : List Token) : Reads (Arg.read (a.spelling :: ts)) a ts := by
  cases a <;> exact (reads_readToken _ ts).bind fun _ => .ok rfl

theorem Arg.readList_spellList {args : List Arg} (h : args ≠ []) (ts : List Token) :
    Reads (Arg.readList (spellList args ++ ts)) args ts := by
  induction args with
  | nil => contradiction
  | cons a args ih =>
    cases args with
    | nil =>
      unfold Arg.readList
      exact (Arg.read_spelling a _).bind fun _ => (reads_readToken _ _).andRead.bind fun _ =>
        .ite_neg (by decide) (.ite_pos rfl (.ok rfl))
    | cons b args =>
      unfold Arg.readList
      exact (Arg.read_spelling a _).bind fun _ => (reads_readToken _ _).andRead.bind fun _ =>
        .ite_pos rfl ((ih (by simp)).bind fun _ => .ok rfl)

/-- A name is told from a call by the token after it. -/
theorem Expr.read_spelling {e : Expr} (h : e.Proper) {t : Token} (ht : t ≠ .punct .openParen)
    (ts : List Token) : Reads (Expr.read (e.spelling ++ t :: ts)) e (t :: ts) := by
  cases e with
  | name s =>
    exact (reads_readToken _ _).bind fun _ => (reads_readToken _ _).andRead.bind fun _ =>
      .ite_neg ht (.ok rfl)
  | call f args =>
    exact (reads_readToken _ _).bind fun _ => (reads_readToken _ _).andRead.bind fun _ =>
      .ite_pos rfl ((Arg.readList_spellList h _).andRead.bind fun _ => .ok rfl)

theorem Label.read_spelling (l : Label) (ts : List Token) :
    ∃ t us, l.spelling ++ ts = t :: us ∧ (t = .word "case" ∨ t = .word "default") ∧
      Reads (Label.read (t = .word "case") us) l ts := by
  cases l with
  | case c =>
    refine ⟨_, _, rfl, .inl rfl, .ite_pos (by decide) ?_⟩
    exact (reads_readChar _ c _).bind fun _ => (reads_readPunct _ _).andRead.bind fun _ => .ok rfl
  | default =>
    refine ⟨_, _, rfl, .inr rfl, .ite_neg (by decide) ?_⟩
    exact (reads_readPunct _ _).bind fun _ => .ok rfl

/-! ## Statements -/

/-- The first token of a statement tells it from a label and from the end of a body. -/
theorem Stmt.spelling_eq_cons (matcher : String) {s : Stmt} (h : s.Proper) :
    ∃ t us, s.spelling matcher = t :: us ∧ t ≠ .punct .closeBrace ∧ t ≠ .word "case" ∧
      t ≠ .word "default" := by
  cases s with
  | label l => simp [Stmt.Proper] at h
  | _ =>
    rw [Stmt.spelling]
    exact ⟨_, _, rfl, by decide, by decide, by decide⟩

/-- A body goes on with a statement. -/
theorem Stmt.readBody_cons {inSwitch : Bool} {matcher : String} {s : Stmt} {body : List Stmt}
    {us vs ts : List Token} (h : s.Proper) (hus : us = s.spelling matcher ++ vs)
    (hs : Reads (Stmt.read us) s vs) (hb : Reads (Stmt.readBody inSwitch vs) body ts) :
    Reads (Stmt.readBody inSwitch us) (s :: body) ts := by
  obtain ⟨t, ws, he, h₁, h₂, h₃⟩ := Stmt.spelling_eq_cons matcher h
  rw [he] at hus
  subst hus
  rw [Stmt.readBody]
  refine (reads_readToken t _).bind fun _ => .ite_neg h₁ (.ite_neg (by simp [h₂, h₃]) ?_)
  exact hs.bind fun _ => hb.bind fun _ => .ok rfl

/-- A body goes on with a label. -/
theorem Stmt.readBody_label (l : Label) {body : List Stmt} {us ts : List Token}
    (hb : Reads (Stmt.readBody true us) body ts) :
    Reads (Stmt.readBody true (l.spelling ++ us)) (.label l :: body) ts := by
  obtain ⟨t, vs, he, ht, hl⟩ := Label.read_spelling l us
  rw [he, Stmt.readBody]
  refine (reads_readToken t vs).bind fun _ => .ite_neg ?_ (.ite_pos (by simpa using ht) ?_)
  · rintro rfl; simp at ht
  · exact hl.andRead.bind fun _ => hb.bind fun _ => .ok rfl

mutual

/-- **The reader finds the statement that was spelled**, whatever follows it. -/
theorem Stmt.read_spelling {matcher : String} (hm : matcher ≠ "scanner") : (s : Stmt) → s.Proper →
    (ts : List Token) → Reads (Stmt.read (s.spelling matcher ++ ts)) s ts
  | .empty, _, ts => by
    rw [Stmt.spelling, List.cons_append, Stmt.read]
    exact (reads_readToken _ ts).bind fun _ => .ok rfl
  | .leave, _, ts => by
    rw [Stmt.spelling, List.cons_append, Stmt.read]
    exact (reads_readToken _ _).bind fun _ => .ite_pos rfl
      ((reads_readPunct _ _).andRead.bind fun _ => .ok rfl)
  | .result e, h, ts => by
    rw [Stmt.spelling, List.cons_append, List.cons_append, List.append_assoc, Stmt.read]
    refine (reads_readToken _ _).bind fun _ => .ite_neg (by decide) (.ite_pos rfl ?_)
    exact (Expr.read_spelling h (by decide) _).andRead.bind fun _ =>
      (reads_readPunct _ _).andRead.bind fun _ => .ok rfl
  | .when cond body, h, ts => by
    have he : (Stmt.when cond body).spelling matcher ++ ts =
        .word "if" :: .punct .openParen :: (cond.spelling matcher ++
          .punct .closeParen :: (body.spelling matcher ++ ts)) := by simp [Stmt.spelling]
    rw [he, Stmt.read]
    refine (reads_readToken _ _).bind fun _ =>
      .ite_neg (by decide) (.ite_neg (by decide) (.ite_pos rfl ?_))
    exact (reads_readPunct _ _).andRead.bind fun _ =>
      (Cond.read_spelling hm cond _).andRead.bind fun _ =>
        (reads_readPunct _ _).andRead.bind fun _ =>
          (Stmt.read_spelling hm body h ts).bind fun _ => .ok rfl
  | .block body, h, ts => by
    have he : (Stmt.block body).spelling matcher ++ ts =
        .punct .openBrace :: (spellAll matcher body ++ .punct .closeBrace :: ts) := by
      simp [Stmt.spelling]
    rw [he, Stmt.read]
    exact (reads_readToken _ _).bind fun _ =>
      (Stmt.readBody_spellAll hm false body h ts).bind fun _ => .ok rfl
  | .switch subject body, h, ts => by
    have he : (Stmt.switch subject body).spelling matcher ++ ts =
        .word "switch" :: .punct .openParen :: (subject.spelling ++
          .punct .closeParen :: .punct .openBrace ::
            (spellAll matcher body ++ .punct .closeBrace :: ts)) := by simp [Stmt.spelling]
    rw [he, Stmt.read]
    refine (reads_readToken _ _).bind fun _ =>
      .ite_neg (by decide) (.ite_neg (by decide) (.ite_neg (by decide) (.ite_pos rfl ?_)))
    exact (reads_readPunct _ _).andRead.bind fun _ =>
      (Subject.read_spelling subject _).andRead.bind fun _ =>
        (reads_readPunct _ _).andRead.bind fun _ => (reads_readPunct _ _).andRead.bind fun _ =>
          (Stmt.readBody_spellAll hm true body h ts).bind fun _ => .ok rfl

/-- The reader finds all statements up to the closing brace. -/
theorem Stmt.readBody_spellAll {matcher : String} (hm : matcher ≠ "scanner") (inSwitch : Bool) :
    (body : List Stmt) → ProperAll inSwitch body → (ts : List Token) →
    Reads (Stmt.readBody inSwitch (spellAll matcher body ++ .punct .closeBrace :: ts)) body ts
  | [], _, ts => by
    rw [Stmt.spellAll, List.nil_append, Stmt.readBody]
    exact (reads_readToken _ ts).bind fun _ => .ite_pos rfl (.ok rfl)
  | s :: body, h, ts => by
    obtain ⟨hs | ⟨rfl, l, rfl⟩, h⟩ := h
    · rw [Stmt.spellAll, List.append_assoc]
      exact Stmt.readBody_cons hs rfl (Stmt.read_spelling hm s hs _)
        (Stmt.readBody_spellAll hm inSwitch body h ts)
    · rw [Stmt.spellAll, List.append_assoc, Stmt.spelling]
      exact Stmt.readBody_label l (Stmt.readBody_spellAll hm true body h ts)

end

/-- The head of a function is passed over, and then its body is read. -/
theorem functionBody_spelling {matcher : String} (hm : matcher ≠ "scanner") {body : List Stmt}
    (h : Stmt.ProperAll false body) {head : List Token} (hh : .punct .openBrace ∉ head) :
    functionBody (head ++ .punct .openBrace :: (Stmt.spellAll matcher body ++
      [.punct .closeBrace])) = .ok body := by
  induction head with
  | nil =>
    obtain ⟨_, hr⟩ := Stmt.readBody_spellAll hm false body h []
    rw [List.nil_append, functionBody, if_pos rfl, hr]
    rfl
  | cons t head ih =>
    rw [List.mem_cons, not_or] at hh
    rw [List.cons_append, functionBody, if_neg (Ne.symm hh.1), ih hh.2]

end ScannerDispatch.Code
