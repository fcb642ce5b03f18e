import ScannerDispatch.Proofs.Code.Literals
import Mathlib.Tactic.Tauto

/-!
Lines of code and the tokens they are made of.

A line is written as a row of `Piece`s: words, numbers, literals, punctuation and single spaces.  In a
`Readable` row every piece ends where the next one begins, and then the line is read as the tokens of
its pieces, whatever code follows it (`Piece.tokens_row`).

* `isWord`: which texts are words of the code.
* `Spells`: a text without line ends that is read as given tokens, whatever follows.
-/

namespace ScannerDispatch.Code

/-- A word of the code: a letter or an underscore, and then letters, digits and underscores. -/
def isWord (s : String) : Bool :=
  match s.toList with
  | [] => false
  | c :: cs => beginsWord c && cs.all inWord

theorem isWord_iff {s : String} : isWord s = true ↔
    ∃ c cs, s.toList = c :: cs ∧ beginsWord c = true ∧ ∀ d ∈ cs, inWord d = true := by
  unfold isWord
  cases s.toList with
  | nil => simp
  | cons c cs =>
    simp only [Bool.and_eq_true, List.all_eq_true, List.cons.injEq]
    exact ⟨fun h => ⟨c, cs, ⟨rfl, rfl⟩, h⟩, fun ⟨_, _, ⟨rfl, rfl⟩, h⟩ => h⟩

theorem beginsWord_iff {c : Char} : beginsWord c = true ↔
    (65 ≤ c.toNat ∧ c.toNat ≤ 90) ∨ (97 ≤ c.toNat ∧ c.toNat ≤ 122) ∨ c.toNat = 95 := by
  have hu : c.isUpper = true ↔ 65 ≤ c.toNat ∧ c.toNat ≤ 90 := decide_eq_true_iff
  have hl : c.isLower = true ↔ 97 ≤ c.toNat ∧ c.toNat ≤ 122 :=
    Bool.and_eq_true_iff.trans (and_congr decide_eq_true_iff decide_eq_true_iff)
  have ha : c.isAlpha = (c.isUpper || c.isLower) := rfl
  have h_ : c = '_' ↔ c.toNat = 95 := Char.toNat_inj.symm
  rw [beginsWord, ha, Bool.or_eq_true, Bool.or_eq_true, beq_iff_eq, hu, hl, h_, or_assoc]

theorem inWord_iff {c : Char} :
    inWord c = true ↔ beginsWord c = true ∨ (48 ≤ c.toNat ∧ c.toNat ≤ 57) := by
  have hd : c.isDigit = true ↔ 48 ≤ c.toNat ∧ c.toNat ≤ 57 := Char.isDigit_iff_toNat
  have ha : c.isAlphanum = (c.isAlpha || c.isDigit) := rfl
  rw [← hd, inWord, beginsWord, ha]
  simp only [Bool.or_eq_true]
  tauto

theorem inWord_of_beginsWord {c : Char} (h : beginsWord c = true) : inWord c = true :=
  inWord_iff.2 (.inl h)

theorem inWord_of_isDigit {c : Char} (h : c.isDigit = true) : inWord c = true :=
  inWord_iff.2 (.inr (Char.isDigit_iff_toNat.1 h))

theorem beginsWord_of_isDigit {c : Char} (h : c.isDigit = true) : beginsWord c = false := by
  have h : 48 ≤ c.toNat ∧ c.toNat ≤ 57 := Char.isDigit_iff_toNat.1 h
  rw [Bool.eq_false_iff, Ne, beginsWord_iff]
  omega

theorem inWord_of_mem {s : String} (h : isWord s = true) {c : Char} (hc : c ∈ s.toList) :
    inWord c = true := by
  obtain ⟨d, cs, he, hd, hcs⟩ := isWord_iff.1 h
  rw [he] at hc
  rcases List.mem_cons.1 hc with rfl | hc
  · exact inWord_of_beginsWord hd
  · exact hcs c hc

/-! ## Single tokens -/

theorem isBlank_of_lt {c : Char} (h₁ : 32 < c.toNat) (h₂ : c.toNat < 128) :
    Text.isBlank c = false := by
  have h : ∀ n, n < 128 → 32 < n → Text.blanks.has n = false := by decide
  exact h c.toNat h₂ h₁

theorem isBlank_of_inWord {c : Char} (h : inWord c = true) : Text.isBlank c = false := by
  rw [inWord_iff, beginsWord_iff] at h
  exact isBlank_of_lt (by omega) (by omega)

/-- A run of characters of a kind ends where another kind begins. -/
theorem span_append {p : Char → Bool} {xs ys : List Char} (hx : ∀ c ∈ xs, p c = true)
    (hy : ∀ c ∈ ys.head?, p c = false) :
    (xs ++ ys).takeWhile p = xs ∧ (xs ++ ys).dropWhile p = ys := by
  rw [List.takeWhile_append_of_pos hx, List.dropWhile_append_of_pos hx]
  cases ys with
  | nil => simp
  | cons c ys => simp [hy c rfl]

theorem tokens_word {s : String} (h : isWord s = true) {cs : List Char}
    (hcs : ∀ c ∈ cs.head?, inWord c = false) :
    tokens (s.toList ++ cs) = (.word s :: ·) <$> tokens cs := by
  obtain ⟨c, ws, he, hc, hws⟩ := isWord_iff.1 h
  obtain ⟨ht, hd⟩ := span_append hws hcs
  rw [he, List.cons_append]
  refine tokens_cons (isBlank_of_inWord (inWord_of_beginsWord hc)) ?_
  rw [Token.next, if_pos hc, ht, ← he, String.ofList_toList]
  exact .ok hd

theorem tokens_int {n : Nat} (h : n < wordBound) {cs : List Char}
    (hcs : ∀ c ∈ cs.head?, c.isDigit = false) :
    tokens ((toString n).toList ++ cs) = (.int n :: ·) <$> tokens cs := by
  have he : (toString n).toList = Nat.toDigits 10 n := Nat.toList_repr
  have hall : ∀ c ∈ Nat.toDigits 10 n, c.isDigit = true :=
    fun c hc => Nat.isDigit_of_mem_toDigits (by decide) (by decide) hc
  have hv : digitsValue 10 (Nat.toDigits 10 n) = n := Nat.ofDigitChars_ten_toDigits
  rw [he]
  cases hn : Nat.toDigits 10 n with
  | nil => exact absurd hn Nat.toDigits_ne_nil
  | cons d ds =>
    rw [hn] at hall hv
    have hd := hall d (by simp)
    obtain ⟨ht, hr⟩ := span_append (fun c hc => hall c (List.mem_cons_of_mem d hc)) hcs
    rw [List.cons_append]
    refine tokens_cons (isBlank_of_inWord (inWord_of_isDigit hd)) ?_
    rw [Token.next, if_neg (by simp [beginsWord_of_isDigit hd]), if_pos hd, ht, hv]
    simp only [h, if_true]
    exact .ok hr

theorem tokens_punct {p : Punct} {cs : List Char} (h : p = .minus → ∀ c ∈ cs.head?, c ≠ '>') :
    tokens (p.spelling.toList ++ cs) = (.punct p :: ·) <$> tokens cs := by
  cases p with
  | minus =>
    have hp : punct? '-' cs = some (.minus, .tail '-' cs) := by
      cases cs with
      | nil => rfl
      | cons c cs =>
        rw [punct?]
        · rfl
        · rintro _ - he
          cases he
          exact absurd rfl (h rfl '>' rfl)
    change tokens ('-' :: cs) = _
    refine tokens_cons (by decide) ?_
    rw [Token.next, hp]
    exact .ok rfl
  | _ => exact tokens_cons (by decide) (.ok rfl)

/-! ## Lines -/

/-- Literals have no line ends, as these are spelled with a letter. -/
theorem newline_notMem_escape (quote c : Char) : '\n' ∉ Literal.escape quote c := by
  unfold Literal.escape
  split_ifs with _ hl _ _ _ _ hc
  · decide
  · decide
  · decide
  · decide
  · decide
  · simpa using Ne.symm hl
  · have hn := toNat_lt_of_isControl hc
    have h {n : Nat} (h : n < 8) : '\n' ≠ Literal.octalDigit n :=
      (ne_of_isOctal (isOctal_octalDigit h) rfl).symm
    simp [Literal.octal, h (n := c.toNat / 64) (by omega), h (n := c.toNat / 8 % 8) (by omega),
      h (n := c.toNat % 8) (by omega)]
  · simpa using Ne.symm hl

/-- A piece of a line of code. -/
inductive Piece where
  | space
  | word (s : String)
  | int (n : Nat)
  /-- The literal of a character. -/
  | char (c : Char)
  /-- The literal of a text. -/
  | text (s : String)
  | punct (p : Punct)

namespace Piece

/-- What a piece looks like. -/
def chars : Piece → List Char
  | space => [' ']
  | word s => s.toList
  | int n => (toString n).toList
  | char c => Literal.charSpelling c
  | text s => Literal.textSpelling s.toList
  | punct p => p.spelling.toList

/-- The token that a piece is read as.  Spaces are no tokens. -/
def token? : Piece → Option Token
  | space => none
  | word s => some (.word s)
  | int n => some (.int n)
  | char c => some (.char c)
  | text s => some (.text (String.ofList (reread s.toList)))
  | punct p => some (.punct p)

/-- Words are words of the code, and numbers fit into a machine word. -/
def Sound : Piece → Prop
  | word s => isWord s = true
  | int n => n < wordBound
  | _ => True

/-- Is the piece at its end when `cs` follow?  A piece that may go on needs a character after it. -/
def endsBefore (cs : List Char) : Piece → Bool
  | word _ => cs.head?.any (!inWord ·)
  | int _ => cs.head?.any (!·.isDigit)
  | punct .minus => cs.head?.any (· != '>')
  | _ => true

/-- What a row of pieces looks like. -/
def row (ps : List Piece) : List Char :=
  ps.flatMap chars

/-- The tokens of a row of pieces. -/
def tokensOf (ps : List Piece) : List Token :=
  ps.filterMap token?

/-- Every piece is sound and ends where the next one begins; the last one ends whatever follows. -/
def Readable : List Piece → Prop
  | [] => True
  | p :: ps => p.Sound ∧ p.endsBefore (row ps) = true ∧ Readable ps

/-- More code behind the next character makes no difference. -/
theorem endsBefore_append {p : Piece} {cs : List Char} (h : p.endsBefore cs = true)
    (rest : List Char) : p.endsBefore (cs ++ rest) = true := by
  cases cs with
  | cons c cs => exact h
  | nil =>
    cases p with
    | punct p =>
      cases p with
      | minus => simp [endsBefore] at h
      | _ => rfl
    | word s => simp [endsBefore] at h
    | int n => simp [endsBefore] at h
    | _ => rfl

theorem tokens_chars {p : Piece} (hp : p.Sound) {cs : List Char} (hcs : p.endsBefore cs = true) :
    tokens (p.chars ++ cs) = (p.token?.toList ++ ·) <$> tokens cs := by
  cases p with
  | space =>
    change tokens (' ' :: cs) = _
    rw [tokens, if_pos (by decide)]
    cases tokens cs <;> rfl
  | word s =>
    refine tokens_word hp ?_
    intro c hc
    rw [endsBefore, hc] at hcs
    simpa using hcs
  | int n =>
    refine tokens_int hp ?_
    intro c hc
    rw [endsBefore, hc] at hcs
    simpa using hcs
  | char c => exact tokens_char c cs
  | text s => exact tokens_text s.toList cs
  | punct p =>
    refine tokens_punct ?_
    rintro rfl c hc
    rw [endsBefore, hc] at hcs
    simpa using hcs

/-- **A readable row is read as the tokens of its pieces**, whatever follows it. -/
theorem tokens_row {ps : List Piece} (h : Readable ps) (rest : List Char) :
    tokens (row ps ++ rest) = (tokensOf ps ++ ·) <$> tokens rest := by
  induction ps with
  | nil => cases h : tokens rest <;> simp [row, tokensOf, h]
  | cons p ps ih =>
    obtain ⟨hp, he, hps⟩ := h
    rw [show row (p :: ps) = p.chars ++ row ps from rfl, List.append_assoc,
      tokens_chars hp (endsBefore_append he rest), ih hps]
    cases tokens rest <;> cases h : p.token? <;> simp [tokensOf, h]

theorem newline_notMem_chars {p : Piece} (hp : p.Sound) : '\n' ∉ p.chars := by
  cases p with
  | space => decide
  | word s => exact fun h => absurd (inWord_of_mem hp h) (by decide)
  | int n =>
    rw [chars, show (toString n).toList = Nat.toDigits 10 n from Nat.toList_repr]
    exact fun h => absurd (Nat.isDigit_of_mem_toDigits (by decide) (by decide) h) (by decide)
  | char c => simp [chars, Literal.charSpelling, newline_notMem_escape]
  | text s => simp [chars, Literal.textSpelling, newline_notMem_escape]
  | punct p => cases p <;> decide

theorem newline_notMem_row {ps : List Piece} (h : Readable ps) : '\n' ∉ row ps := by
  induction ps with
  | nil => simp [row]
  | cons p ps ih =>
    rw [show row (p :: ps) = p.chars ++ row ps from rfl, List.mem_append, not_or]
    exact ⟨newline_notMem_chars h.1, ih h.2.2⟩

end Piece

attribute [simp] Piece.chars Piece.Sound Piece.endsBefore Piece.row Piece.Readable Punct.spelling

/-- Whatever code follows it, the text `line` is read as the tokens `ts`.  It has no line ends. -/
structure Spells (line : String) (ts : List Token) : Prop where
  tokens_append : ∀ rest, tokens (line.toList ++ rest) = (ts ++ ·) <$> tokens rest
  newline_notMem : '\n' ∉ line.toList

/-- A line is read as the tokens of its pieces. -/
theorem spells_of_row {line : String} (ps : List Piece) (h : line.toList = Piece.row ps)
    (hps : Piece.Readable ps) : Spells line (Piece.tokensOf ps) where
  tokens_append rest := by rw [h, Piece.tokens_row hps]
  newline_notMem := by rw [h]; exact Piece.newline_notMem_row hps

theorem Spells.append {line line' : String} {ts us : List Token} (h : Spells line ts)
    (h' : Spells line' us) : Spells (line ++ line') (ts ++ us) where
  tokens_append rest := by
    rw [String.toList_append, List.append_assoc, h.tokens_append, h'.tokens_append]
    cases tokens rest <;> simp
  newline_notMem := by
    rw [String.toList_append, List.mem_append, not_or]
    exact ⟨h.newline_notMem, h'.newline_notMem⟩

/-! ## Lines of every function -/

theorem spells_empty : Spells "" [] :=
  spells_of_row [] rfl trivial

theorem spells_space : Spells " " [] :=
  spells_of_row [.space] (by simp) (by simp)

theorem spells_closeBrace : Spells "\x7d" [.punct .closeBrace] :=
  spells_of_row [.punct .closeBrace] (by simp) (by simp)

theorem spells_break : Spells "break;" [.word "break", .punct .semicolon] :=
  spells_of_row [.word "break", .punct .semicolon] (by simp) (by simp +decide)

theorem spells_case (c : Char) :
    Spells ("case " ++ Literal.char c ++ ":") [.word "case", .char c, .punct .colon] := by
  refine spells_of_row [.word "case", .space, .char c, .punct .colon] ?_ ?_
  · simp
  · simp +decide

end ScannerDispatch.Code
