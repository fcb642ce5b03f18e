/-!
Texts without the controls of a terminal, as they are written where no terminal reads them.

A control is a single character, such as the bell, or an escape sequence: the escape character and
what belongs to it.  `Control` says what a reader is in, and `Reader.next` takes a reader over a
character.

* `plain` leaves out controls.  Of the single ones it keeps tab, line feed, form feed and carriage
  return.  These four also interrupt an escape sequence that holds no string: text is shown up to
  the next control, and then the sequence goes on.
* `plain_eq_self` says that a text of shown characters stays as it is.
-/

namespace ScannerDispatch.Text

/-! ## Classes of characters -/

/-- Is `c` a tab, a line feed, a form feed or a carriage return? -/
def isLayout (c : Char) : Bool :=
  c = '\t' || c = '\n' || c = '\x0c' || c = '\r'

/-- Is `c` shown where it stands in text?  Of ASCII, these are the characters from the space to the
    tilde and those of layout; beyond ASCII, all are shown. -/
def isShown (c : Char) : Bool :=
  isLayout c || (' ' ≤ c && c ≠ '\x7f')

/-- Does the encoding of `c` hold the byte of the string terminator? -/
def endsString (c : Char) : Bool :=
  (String.utf8EncodeChar c).any (· == 0x9C)

/-! ## Controls -/

/-- What a reader of a text with controls is in. -/
inductive Control where
  /-- Text, and no escape sequence. -/
  | none
  /-- An escape sequence, just after the escape character. -/
  | escape
  /-- An escape sequence that goes on until its final character. -/
  | escapeTail
  /-- A control sequence, with parameters, until its final character. -/
  | sequence
  /-- The start of a device control string. -/
  | device
  /-- The parameters of a device control string. -/
  | deviceParameters
  /-- What stands between the parameters of a device control string and its final character. -/
  | deviceTail
  /-- A string that the string terminator ends. -/
  | string
  /-- A command to the operating system, which the bell ends. -/
  | command
deriving Repr, DecidableEq, Inhabited

namespace Control

/-- What a reader is in after the character `c`, which follows the escape character. -/
def afterEscape (c : Char) : Control :=
  if c = '[' then sequence
  else if c = ']' then command
  else if c = 'P' then device
  else if c = 'X' || c = '^' || c = '_' then string
  else if ' ' ≤ c && c ≤ '/' then escapeTail
  else if '0' ≤ c && c ≤ '~' then none
  else escape

/-- What a reader is in after the character `c`, if that neither starts nor cancels an escape
    sequence. -/
def next : Control → Char → Control
  | none, _ => none
  | escape, c => afterEscape c
  | escapeTail, c => if '0' ≤ c && c ≤ '~' then none else escapeTail
  | sequence, c => if '@' ≤ c && c ≤ '~' then none else sequence
  | device, c =>
    if ' ' ≤ c && c ≤ '/' then deviceTail
    else if '0' ≤ c && c ≤ '?' then deviceParameters
    else if '@' ≤ c && c ≤ '~' then string
    else device
  | deviceParameters, c =>
    if ' ' ≤ c && c ≤ '/' then deviceTail
    else if '<' ≤ c && c ≤ '~' then string
    else deviceParameters
  | deviceTail, c => if '0' ≤ c && c ≤ '~' then string else deviceTail
  | string, c => if endsString c then none else string
  | command, c => if c = '\x07' then none else command

/-- Is the character `c` part of the plain text? -/
def shows : Control → Char → Bool
  | none, c => isShown c
  | escape, c | escapeTail, c | sequence, c => isLayout c
  | _, _ => false

end Control

/-! ## Reading -/

/-- A reader of a text with controls. -/
structure Reader where
  /-- What the reader is in. -/
  control : Control := .none
  /-- Is text shown all the same?  It makes no difference to a reader in text. -/
  interrupted : Bool := false
deriving Repr, DecidableEq, Inhabited

namespace Reader

/-- Is the character `c` part of the plain text? -/
def shows (r : Reader) (c : Char) : Bool :=
  if r.interrupted then isShown c else r.control.shows c

/-- The reader after the character `c`.  The escape character starts a sequence wherever it stands, and
    CAN and SUB cancel one; so does a character beyond ASCII that interrupts it. -/
def next (r : Reader) (c : Char) : Reader :=
  if c = '\x1b' then { control := .escape }
  else if c = '\x18' || c = '\x1a' then {}
  else if r.shows c then { control := if c ≤ '\x7f' then r.control else .none, interrupted := true }
  else if r.interrupted then { control := r.control }
  else { control := r.control.next c }

/-- The plain text of `cs`. -/
def plain : Reader → List Char → List Char
  | _, [] => []
  | r, c :: cs => if r.shows c then c :: plain (r.next c) cs else plain (r.next c) cs

/-- Does the reader stand in text, with no escape sequence to go on with? -/
def IsInText (r : Reader) : Prop :=
  r.control = .none

theorem shows_of_isInText {r : Reader} (hr : r.IsInText) (c : Char) : r.shows c = isShown c := by
  unfold shows
  split
  · rfl
  · rw [hr]; rfl

theorem isInText_next {r : Reader} (hr : r.IsInText) {c : Char} (hc : isShown c = true) :
    (r.next c).IsInText := by
  have h₁ : c ≠ '\x1b' := fun e => by subst e; exact absurd hc (by decide)
  unfold next
  rw [if_neg h₁]
  split
  · rfl
  · rw [if_pos ((shows_of_isInText hr c).trans hc)]
    show (if c ≤ '\x7f' then r.control else .none) = .none
    rw [hr, ite_self]

theorem plain_of_isInText : ∀ {r : Reader} {cs : List Char}, r.IsInText →
    (∀ c ∈ cs, isShown c = true) → r.plain cs = cs
  | _, [], _, _ => rfl
  | r, c :: cs, hr, h => by
    have hc := h c (List.mem_cons_self ..)
    rw [plain, if_pos ((shows_of_isInText hr c).trans hc), plain_of_isInText (isInText_next hr hc)
      fun d hd => h d (List.mem_cons_of_mem _ hd)]

end Reader

/-- The text `s` without controls. -/
def plain (s : String) : String :=
  String.ofList (Reader.plain {} s.toList)

theorem plain_eq_self {s : String} (h : ∀ c ∈ s.toList, isShown c = true) : plain s = s := by
  have hr : ({} : Reader).IsInText := rfl
  rw [plain, Reader.plain_of_isInText hr h, String.ofList_toList]

end ScannerDispatch.Text
