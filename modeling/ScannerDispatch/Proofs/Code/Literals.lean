import ScannerDispatch.Code.Lexeme
import ScannerDispatch.Code.Literal
import Mathlib.Tactic.SplitIfs

/-!
Literals, read back by the reader of tokens.

NUL is spelled with a single octal digit, and the reader takes up to three of them.  So digits that
follow a NUL are taken for a part of its code, and only those: `reread` is the text that the reader
finds in the literal of a text.

* `tokens_char` and `tokens_text`: a literal at the front of a code is one token.
* `reread_eq_self_iff`: a text is read back unchanged unless an octal digit follows a NUL in it.
-/

namespace ScannerDispatch.Code

/-! ## Octal codes -/

theorem isOctal_octalDigit {n : Nat} (h : n < 8) : isOctal (Literal.octalDigit n) = true := by
  revert n; decide

theorem toNat_octalDigit {n : Nat} (h : n < 8) :
    (Literal.octalDigit n).toNat = '0'.toNat + n := by
  revert n; decide

theorem digitsValue_octal {n : Nat} (h : n < 512) : digitsValue 8 (Literal.octal n) = n := by
  have h₁ : n / 64 < 8 := by omega
  have h₂ : n / 8 % 8 < 8 := by omega
  have h₃ : n % 8 < 8 := by omega
  simp only [digitsValue, Literal.octal, List.foldl, toNat_octalDigit h₁, toNat_octalDigit h₂,
    toNat_octalDigit h₃]
  omega

theorem takeWhile_octal {n : Nat} (h : n < 512) (cs : List Char) :
    ((Literal.octal n ++ cs).takeWhile isOctal).take 3 = Literal.octal n := by
  have h₁ : n / 64 < 8 := by omega
  have h₂ : n / 8 % 8 < 8 := by omega
  have h₃ : n % 8 < 8 := by omega
  simp [Literal.octal, isOctal_octalDigit, h₁, h₂, h₃]

theorem toNat_lt_of_isControl {c : Char} (h : Literal.isControl c = true) : c.toNat < 512 := by
  simp only [Literal.isControl, Bool.or_eq_true, decide_eq_true_eq] at h
  omega

/-! ## Characters of literals -/

/-- The characters that the reader takes for a part of the code of a NUL in front of `cs`. -/
def nulDigits (cs : List Char) : List Char :=
  (cs.takeWhile isOctal).take 2

/-- An octal digit follows a NUL. -/
def NulBeforeOctal (cs : List Char) : Prop :=
  ∃ d, isOctal d = true ∧ ['\x00', d] <:+: cs

/-- Literals are enclosed by single or double quotes. -/
def IsQuote (c : Char) : Prop :=
  c = '\'' ∨ c = '"'

theorem unescape_backslash {c : Char} (h : isOctal c = false) (cs : List Char) :
    Reads (unescape ('\\' :: c :: cs))
      (if c = 'n' then '\n' else if c = 't' then '\t' else if c = 'r' then '\r' else c) cs := by
  simp only [unescape, h, Bool.false_eq_true, if_false]
  exact .ok rfl

theorem unescape_octal {c : Char} (h : isOctal c = true) (cs : List Char) :
    Reads (unescape ('\\' :: c :: cs))
      (Char.ofNat (digitsValue 8 (((c :: cs).takeWhile isOctal).take 3)))
      ((c :: cs).drop (((c :: cs).takeWhile isOctal).take 3).length) := by
  simp only [unescape, h, if_true]
  exact .ok rfl

theorem unescape_self {c : Char} (h : c ≠ '\\') (cs : List Char) :
    Reads (unescape (c :: cs)) c cs := by
  rw [unescape]
  · exact .ok rfl
  · rintro rfl; contradiction
  · rintro _ _ rfl; contradiction

/-- What is read of a NUL in a literal. -/
theorem unescape_nul (cs : List Char) :
    Reads (unescape ('\\' :: '0' :: cs)) (Char.ofNat (digitsValue 8 (nulDigits cs)))
      (cs.drop (nulDigits cs).length) := by
  have h : (('0' :: cs).takeWhile isOctal).take 3 = '0' :: nulDigits cs := by
    simp [nulDigits, show isOctal '0' = true from rfl]
  have := unescape_octal (c := '0') rfl cs
  rw [h] at this
  simpa [digitsValue] using this

/-- Every character but NUL is read back from its spelling, whatever follows. -/
theorem unescape_escape {quote c : Char} (hq : IsQuote quote) (hc : c ≠ '\x00') (cs : List Char) :
    Reads (unescape (Literal.escape quote c ++ cs)) c cs := by
  by_cases hl : c = '\\' ∨ c = '\n' ∨ c = '\t' ∨ c = '\r'
  · rcases hl with rfl | rfl | rfl | rfl
    all_goals exact unescape_backslash rfl cs
  obtain ⟨h₁, h₂, h₃, h₄⟩ : c ≠ '\\' ∧ c ≠ '\n' ∧ c ≠ '\t' ∧ c ≠ '\r' := by simpa using hl
  by_cases h : c = quote
  · subst h
    rcases hq with rfl | rfl
    · exact unescape_backslash rfl cs
    · exact unescape_backslash rfl cs
  by_cases hn : Literal.isControl c = true
  · have he : Literal.escape quote c = '\\' :: Literal.octal c.toNat := by
      simp [Literal.escape, h₁, h₂, h₃, h₄, hc, h, hn]
    have hlt := toNat_lt_of_isControl hn
    have := unescape_octal (isOctal_octalDigit (n := c.toNat / 64) (by omega))
      ((Literal.octal c.toNat).tail ++ cs)
    rw [← List.cons_append, show Literal.octalDigit (c.toNat / 64) :: (Literal.octal c.toNat).tail
      = Literal.octal c.toNat from rfl, takeWhile_octal hlt, digitsValue_octal hlt] at this
    rw [he, List.cons_append]
    simpa using this
  · have he : Literal.escape quote c = [c] := by
      simp [Literal.escape, h₁, h₂, h₃, h₄, hc, h, hn]
    rw [he]
    exact unescape_self h₁ cs

theorem ne_of_isOctal {c d : Char} (hc : isOctal c = true) (hd : isOctal d = false) : c ≠ d := by
  rintro rfl
  rw [hc] at hd; contradiction

theorem escape_of_isOctal {quote c : Char} (hq : IsQuote quote) (h : isOctal c = true) :
    Literal.escape quote c = [c] := by
  have hn : Literal.isControl c = false := by
    simp only [isOctal, Bool.and_eq_true, decide_eq_true_eq, Char.le_def, UInt32.le_iff_toNat_le] at h
    have : '0'.val.toNat = 48 := rfl
    have : '7'.val.toNat = 55 := rfl
    simp only [Literal.isControl, Char.toNat, Bool.or_eq_false_iff, decide_eq_false_iff_not]
    omega
  have hcq : c ≠ quote := by
    rcases hq with rfl | rfl
    · exact ne_of_isOctal h rfl
    · exact ne_of_isOctal h rfl
  simp [Literal.escape, hn, hcq, ne_of_isOctal h (d := '\\') rfl, ne_of_isOctal h (d := '\n') rfl,
    ne_of_isOctal h (d := '\t') rfl, ne_of_isOctal h (d := '\r') rfl,
    ne_of_isOctal h (d := '\x00') rfl]

/-- A spelling begins with a backslash, or it is the character itself, which is no quote then. -/
theorem escape_cases (quote c : Char) :
    (∃ ds, Literal.escape quote c = '\\' :: ds) ∨
      (Literal.escape quote c = [c] ∧ c ≠ quote ∧ c ≠ '\\') := by
  unfold Literal.escape
  split_ifs with hc _ _ _ _ hq
  case neg => exact .inr ⟨rfl, hq, hc⟩
  all_goals exact .inl ⟨_, rfl⟩

/-! ## Texts -/

/-- The text that the reader finds in the literal of a text. -/
def reread : List Char → List Char
  | [] => []
  | c :: cs =>
    if c = '\x00' then
      Char.ofNat (digitsValue 8 (nulDigits cs)) :: reread (cs.drop (nulDigits cs).length)
    else c :: reread cs
termination_by cs => cs.length
decreasing_by all_goals simp only [List.length_cons, List.length_drop]; omega

/-- What stands between the opening quote of a text and the code behind it. -/
def spelledBody (cs rest : List Char) : List Char :=
  cs.flatMap (Literal.escape '"') ++ '"' :: rest

theorem spelledBody_cons (c : Char) (cs rest : List Char) :
    spelledBody (c :: cs) rest = Literal.escape '"' c ++ spelledBody cs rest := by
  simp [spelledBody]

/-- Digits in front stay in front. -/
theorem takeWhile_spelledBody (cs rest : List Char) :
    (spelledBody cs rest).takeWhile isOctal = cs.takeWhile isOctal := by
  induction cs with
  | nil => simp [spelledBody, isOctal]
  | cons c cs ih =>
    rw [spelledBody_cons]
    by_cases h : isOctal c = true
    · simp [escape_of_isOctal (.inr rfl) h, h, ih]
    · rcases escape_cases '"' c with ⟨ds, he⟩ | ⟨he, -⟩
      · simp [he, h, show isOctal '\\' = false from rfl]
      · simp [he, h]

theorem drop_spelledBody {n : Nat} {cs : List Char} (rest : List Char)
    (h : n ≤ (cs.takeWhile isOctal).length) :
    (spelledBody cs rest).drop n = spelledBody (cs.drop n) rest := by
  induction n generalizing cs with
  | zero => rfl
  | succ n ih =>
    cases cs with
    | nil => simp at h
    | cons c cs =>
      by_cases hc : isOctal c = true
      · rw [spelledBody_cons, escape_of_isOctal (.inr rfl) hc]
        exact ih (by simpa [hc] using h)
      · simp [hc] at h

theorem nulDigits_spelledBody (cs rest : List Char) :
    nulDigits (spelledBody cs rest) = nulDigits cs := by
  simp [nulDigits, takeWhile_spelledBody]

theorem length_nulDigits_le (cs : List Char) :
    (nulDigits cs).length ≤ (cs.takeWhile isOctal).length := by
  simp only [nulDigits, List.length_take]; omega

theorem textBody_cons {c : Char} (h : c ≠ '"') {cs ys zs : List Char} {x : Char} {xs : List Char}
    (hx : Reads (unescape (c :: cs)) x ys) (hxs : Reads (textBody ys) xs zs) :
    Reads (textBody (c :: cs)) (x :: xs) zs := by
  rw [textBody]
  · exact hx.bind fun _ => hxs.bind fun _ => .ok rfl
  · rintro rfl; contradiction

/-- The spelling of a text is read to its end, whatever follows. -/
theorem textBody_spelledBody (cs rest : List Char) :
    Reads (textBody (spelledBody cs rest)) (reread cs) rest := by
  fun_induction reread cs with
  | case1 =>
    rw [spelledBody, List.flatMap_nil, List.nil_append, textBody]
    exact .ok rfl
  | case2 cs ih =>
    rw [spelledBody_cons, show Literal.escape '"' '\x00' = ['\\', '0'] from rfl]
    have h := unescape_nul (spelledBody cs rest)
    rw [nulDigits_spelledBody, drop_spelledBody rest (length_nulDigits_le cs)] at h
    exact textBody_cons (by decide) h ih
  | case3 c cs hc ih =>
    have h := unescape_escape (show IsQuote '"' from .inr rfl) hc (spelledBody cs rest)
    rw [spelledBody_cons]
    rcases escape_cases '"' c with ⟨ds, he⟩ | ⟨he, hq, -⟩
    · rw [he] at h ⊢
      exact textBody_cons (by decide) h ih
    · rw [he] at h ⊢
      exact textBody_cons hq h ih

theorem charBody_escape (c : Char) (rest : List Char) :
    Reads (charBody (Literal.escape '\'' c ++ '\'' :: rest)) c rest := by
  have h : Reads (unescape (Literal.escape '\'' c ++ '\'' :: rest)) c ('\'' :: rest) := by
    by_cases hc : c = '\x00'
    · subst hc; exact unescape_nul ('\'' :: rest)
    · exact unescape_escape (.inl rfl) hc _
  exact h.bind fun _ => .ok rfl

/-! ## Digits after a NUL -/

theorem nulBeforeOctal_cons (c : Char) (cs : List Char) :
    NulBeforeOctal (c :: cs) ↔ (c = '\x00' ∧ nulDigits cs ≠ []) ∨ NulBeforeOctal cs := by
  have hd : nulDigits cs ≠ [] ↔ ∃ d, isOctal d = true ∧ [d] <+: cs := by
    cases cs with
    | nil => simp [nulDigits]
    | cons e cs => by_cases he : isOctal e = true <;> simp [nulDigits, he, List.cons_prefix_cons]
  simp only [NulBeforeOctal, List.infix_cons_iff, List.cons_prefix_cons, hd]
  constructor
  · rintro ⟨d, ho, ⟨rfl, h⟩ | h⟩
    · exact .inl ⟨rfl, d, ho, h⟩
    · exact .inr ⟨d, ho, h⟩
  · rintro (⟨rfl, d, ho, h⟩ | ⟨d, ho, h⟩)
    · exact ⟨d, ho, .inl ⟨rfl, h⟩⟩
    · exact ⟨d, ho, .inr h⟩

theorem not_nulBeforeOctal_nil : ¬ NulBeforeOctal [] := by
  simp [NulBeforeOctal]

theorem nulBeforeOctal_of_drop {n : Nat} {cs : List Char} (h : NulBeforeOctal (cs.drop n)) :
    NulBeforeOctal cs := by
  obtain ⟨d, ho, h⟩ := h
  exact ⟨d, ho, h.trans (List.drop_suffix n cs).isInfix⟩

theorem length_reread_le (cs : List Char) : (reread cs).length ≤ cs.length := by
  fun_induction reread cs with
  | case1 => simp
  | case2 cs ih => simp only [List.length_cons, List.length_drop] at ih ⊢; omega
  | case3 c cs hc ih => simpa using ih

theorem reread_of_not_nulBeforeOctal {cs : List Char} (h : ¬ NulBeforeOctal cs) :
    reread cs = cs := by
  fun_induction reread cs with
  | case1 => rfl
  | case2 cs ih =>
    rw [nulBeforeOctal_cons, not_or] at h
    have hd : nulDigits cs = [] := by simpa using h.1
    rw [hd] at ih ⊢
    rw [show reread (cs.drop [].length) = cs from ih h.2]
    rfl
  | case3 c cs hc ih =>
    rw [nulBeforeOctal_cons, not_or] at h
    rw [ih h.2]

theorem length_reread_lt {cs : List Char} (h : NulBeforeOctal cs) :
    (reread cs).length < cs.length := by
  fun_induction reread cs with
  | case1 => exact absurd h not_nulBeforeOctal_nil
  | case2 cs ih =>
    have hle := length_reread_le (cs.drop (nulDigits cs).length)
    have hdig := Nat.le_trans (length_nulDigits_le cs) (List.takeWhile_prefix isOctal).length_le
    simp only [List.length_cons, List.length_drop] at ih hle ⊢
    rcases (nulBeforeOctal_cons _ cs).1 h with ⟨-, hd⟩ | h
    · have := List.length_pos_iff.2 hd
      omega
    · by_cases hd : nulDigits cs = []
      · simp only [hd, List.length_nil, List.drop_zero] at ih ⊢
        have := ih h
        omega
      · have := List.length_pos_iff.2 hd
        omega
  | case3 c cs hc ih =>
    rcases (nulBeforeOctal_cons c cs).1 h with ⟨rfl, -⟩ | h
    · contradiction
    · simpa using ih h

/-- **A text is read back unchanged** unless an octal digit follows a NUL in it. -/
theorem reread_eq_self_iff {cs : List Char} : reread cs = cs ↔ ¬ NulBeforeOctal cs := by
  constructor
  · intro h hn
    have hlt := length_reread_lt hn
    rw [h] at hlt
    exact Nat.lt_irrefl _ hlt
  · exact reread_of_not_nulBeforeOctal

/-! ## Literals as tokens -/

theorem tokens_cons {c : Char} {cs ys : List Char} {t : Token} (hb : Text.isBlank c = false)
    (h : Reads (Token.next c cs) t ys) : tokens (c :: cs) = (t :: ·) <$> tokens ys := by
  obtain ⟨_, h⟩ := h
  rw [tokens, hb, h]
  rfl

theorem tokens_char (c : Char) (rest : List Char) :
    tokens (Literal.charSpelling c ++ rest) = (.char c :: ·) <$> tokens rest := by
  simp only [Literal.charSpelling, List.cons_append, List.append_assoc, List.nil_append]
  refine tokens_cons (by decide) ?_
  exact (charBody_escape c rest).bind fun _ => .ok rfl

theorem tokens_text (cs rest : List Char) :
    tokens (Literal.textSpelling cs ++ rest) =
      (.text (String.ofList (reread cs)) :: ·) <$> tokens rest := by
  simp only [Literal.textSpelling, List.cons_append, List.append_assoc, List.nil_append]
  refine tokens_cons (by decide) ?_
  exact (textBody_spelledBody cs rest).bind fun _ => .ok rfl

theorem tokens_toList_char (c : Char) : tokens (Literal.char c).toList = .ok [.char c] := by
  have h := tokens_char c []
  rw [List.append_nil, ← Literal.toList_char, tokens] at h
  exact h

theorem tokens_toList_text (s : String) :
    tokens (Literal.text s).toList = .ok [.text (String.ofList (reread s.toList))] := by
  have h := tokens_text s.toList []
  rw [List.append_nil, ← Literal.toList_text, tokens] at h
  exact h

theorem tokens_toList_text_eq_iff {s : String} :
    tokens (Literal.text s).toList = .ok [.text s] ↔ ¬ NulBeforeOctal s.toList := by
  rw [tokens_toList_text, ← reread_eq_self_iff]
  constructor
  · intro h
    injection h with h
    injection h with h
    injection h with h
    rw [← String.toList_inj, String.toList_ofList] at h
    exact h
  · intro h
    rw [h, String.ofList_toList]

/-- **Literals are read back as one token.**  The literal of a character is the token of that
    character.  The literal of a text is the token of that text just when no octal digit follows a
    NUL in it, and else of a shorter one.  So characters, and texts without such digits, have
    literals of their own. -/
theorem literals_read_back (c : Char) (s : String) :
    tokens (Literal.char c).toList = .ok [.char c] ∧
      tokens (Literal.text s).toList = .ok [.text (String.ofList (reread s.toList))] ∧
      (tokens (Literal.text s).toList = .ok [.text s] ↔ ¬ NulBeforeOctal s.toList) ∧
      (∀ d, Literal.char c = Literal.char d → c = d) ∧
      ∀ t : String, ¬ NulBeforeOctal s.toList → ¬ NulBeforeOctal t.toList →
        Literal.text s = Literal.text t → s = t := by
  refine ⟨tokens_toList_char c, tokens_toList_text s, tokens_toList_text_eq_iff, ?_, ?_⟩
  · intro d h
    have hc := tokens_toList_char c
    rw [h, tokens_toList_char d] at hc
    simpa using hc.symm
  · intro t hs ht h
    have hs := tokens_toList_text_eq_iff.2 hs
    rw [h, tokens_toList_text_eq_iff.2 ht] at hs
    simpa using hs.symm

/-- A NUL and the digits `01` have the literal of the character with the code one, and a NUL and the
    digit `1` are read back as that character. -/
theorem text_nul_digits_collide :
    Literal.text "\x0001" = Literal.text "\x01" ∧
      tokens (Literal.text "\x001").toList = .ok [.text "\x01"] ∧
      ¬ ∀ s, tokens (Literal.text s).toList = .ok [.text s] := by
  have h : tokens (Literal.text "\x001").toList = .ok [.text "\x01"] := by
    rw [tokens_toList_text, show reread "\x001".toList = ['\x01'] by decide +kernel]
  refine ⟨by decide +kernel, h, ?_⟩
  intro ha
  rw [ha "\x001"] at h
  simp at h

end ScannerDispatch.Code
