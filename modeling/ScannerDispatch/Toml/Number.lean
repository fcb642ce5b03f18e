import ScannerDispatch.Toml.Value

/-!
Numbers of a TOML document.

* `integer?` reads integers in base ten, sixteen, eight and two.  Where their spelling is only looked at
  in part, they may turn out to have no value.
* `float?` reads decimal fractions and the special values.  A float is in range unless it rounds to
  infinity, which `Decimal.overflows` decides exactly.
-/

namespace ScannerDispatch.Toml

/-! ## Digits -/

/-- The value of a digit, letters counted from ten. -/
def digitValue (c : Char) : Nat :=
  if c.isDigit then c.toNat - '0'.toNat else c.toLower.toNat - 'a'.toNat + 10

/-- The number that digits stand for in a base. -/
def numeral (base : Nat) (digits : List Char) : Nat :=
  digits.foldl (fun n c => base * n + digitValue c) 0

/-- Is `c` a digit in the given base? -/
def isDigitIn (base : Nat) (c : Char) : Bool :=
  c.isAlphanum && digitValue c < base

/-- The characters without the underscores among them.  Every underscore stands between two
    digits. -/
def withoutUnderscores? (isDigit : Char → Bool) : List Char → Option (List Char)
  | [] => some []
  | '_' :: _ => none
  | c :: '_' :: rest =>
    if isDigit c && rest.head?.any isDigit then
      (withoutUnderscores? isDigit rest).map (c :: ·)
    else none
  | c :: rest => (withoutUnderscores? isDigit rest).map (c :: ·)

/-- The digits of a number, at least one, without the underscores between them. -/
def digitRun? (isDigit : Char → Bool) (cs : List Char) : Option (List Char) := do
  let ds ← withoutUnderscores? isDigit cs
  if !ds.isEmpty && ds.all isDigit then some ds else none

/-- Does a zero stand in front of other characters? -/
def hasLeadingZero : List Char → Bool
  | '0' :: _ :: _ => true
  | _ => false

/-! ## Signs -/

/-- A number without its sign. -/
structure Unsigned where
  negative : Bool := false
  chars : List Char
deriving Repr, DecidableEq, Inhabited

/-- Takes the sign off a number. -/
def Unsigned.of : List Char → Unsigned
  | '+' :: cs => { chars := cs }
  | '-' :: cs => { negative := true, chars := cs }
  | cs => { chars := cs }

/-- The number that decimal digits stand for, with the sign of `u`. -/
def Unsigned.value (u : Unsigned) (digits : List Char) : Int :=
  let n := Int.ofNat (numeral 10 digits)
  if u.negative then -n else n

/-! ## Integers -/

/-- The base that a marker announces. -/
def base? : Char → Option Nat
  | 'x' => some 16
  | 'o' => some 8
  | 'b' => some 2
  | _ => none

/-- Does `c` begin the exponent of a float? -/
def marksExponent (c : Char) : Bool :=
  c = 'e' || c = 'E'

/-- Does `c` show that a number is a float? -/
def marksFloat (c : Char) : Bool :=
  c = '.' || marksExponent c

/-- Reads an integer after the marker of its base.  Without digits it has no value. -/
def basedInteger? (base : Nat) (cs : List Char) : Option (Option Int) :=
  if cs.isEmpty then some none
  else (digitRun? (isDigitIn base) cs).map fun ds => some (Int.ofNat (numeral base ds))

/-- Are there only digits up to the first underscore? -/
def beginsInteger (cs : List Char) : Bool :=
  (cs.takeWhile (· ≠ '_')).all Char.isDigit

/-- Reads an integer in base ten.  It holds no space.  Beyond its first underscore only what stands
    beside underscores is looked at otherwise, and letters up to F pass for digits there.  With
    anything but digits it has no value. -/
def decimalInteger? (cs : List Char) : Option (Option Int) := do
  let u := Unsigned.of cs
  if !beginsInteger u.chars || hasLeadingZero u.chars then none
  if u.chars.any fun c => c = ' ' || marksFloat c then none
  let ds ← withoutUnderscores? (isDigitIn 16) u.chars
  if ds.isEmpty then none
  return if ds.all Char.isDigit then some (u.value ds) else none

/-- Reads an integer.  One that has no value may stand only where no value is asked for. -/
def integer? : List Char → Option (Option Int)
  | '0' :: marker :: rest =>
    match base? marker with
    | some base => basedInteger? base rest
    | none => none
  | cs => decimalInteger? cs

/-! ## Floats -/

/-- The number `digits` times ten to the power of `exponent`. -/
structure Decimal where
  digits : List Char
  exponent : Int
deriving Repr, DecidableEq, Inhabited

/-- Half a step above the greatest number of double precision. -/
def floatBound : Nat :=
  (1 <<< 54 - 1) <<< 970

/-- Does a number round to infinity?  The number of digits before the point settles all cases but
    one, so no great power is ever computed. -/
def Decimal.overflows (d : Decimal) : Bool :=
  let digits := d.digits.dropWhile (· = '0')
  let places := digits.length + d.exponent
  if digits.isEmpty || places < 309 then false
  else if 309 < places then true
  else
    let n := numeral 10 digits
    if 0 ≤ d.exponent then floatBound ≤ n * Nat.pow 10 d.exponent.toNat
    else floatBound * Nat.pow 10 (-d.exponent).toNat ≤ n

/-- Reads the exponent of a float, sign included. -/
def exponent? (cs : List Char) : Option Int :=
  let u := Unsigned.of cs
  (digitRun? Char.isDigit u.chars).map u.value

/-- Reads a decimal fraction, after its sign: digits, then a fraction or an exponent or both. -/
def decimal? (cs : List Char) : Option Decimal := do
  let mantissa := cs.takeWhile (!marksExponent ·)
  let whole ← digitRun? Char.isDigit (mantissa.takeWhile (· ≠ '.'))
  if hasLeadingZero whole then none
  let exponent ← match cs.dropWhile (!marksExponent ·) with
    | [] => some none
    | _ :: rest => (exponent? rest).map some
  match mantissa.dropWhile (· ≠ '.'), exponent with
  | [], none => none
  | [], some e => some ⟨whole, e⟩
  | _ :: fraction, e =>
    let fractionDigits ← digitRun? Char.isDigit fraction
    some ⟨whole ++ fractionDigits, e.getD 0 - fractionDigits.length⟩

/-- Reads a float.  The answer says whether it is in range; infinity and NaN are. -/
def float? (cs : List Char) : Option Bool :=
  let u := Unsigned.of cs
  if u.chars = ['i', 'n', 'f'] || u.chars = ['n', 'a', 'n'] then some true
  else (decimal? u.chars).map (!·.overflows)

end ScannerDispatch.Toml
