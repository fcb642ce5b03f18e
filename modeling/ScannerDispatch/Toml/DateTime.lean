/-!
Dates and times of a TOML document.

* `DateTime.parse?` reads a date, a time, or both, the latter possibly with an offset.
* `DateTime.text` writes it in the usual form.
-/

namespace ScannerDispatch.Toml

/-- A day of the calendar. -/
structure Date where
  year : Nat
  month : Nat
  day : Nat
deriving Repr, DecidableEq, Inhabited

/-- A time of day. -/
structure Time where
  hour : Nat
  minute : Nat
  second : Nat := 0
  nanosecond : Nat := 0
deriving Repr, DecidableEq, Inhabited

/-- The difference to universal time. -/
inductive Offset where
  | zulu
  | hours (ahead : Bool) (hour minute : Nat)
deriving Repr, DecidableEq, Inhabited

/-- A date, a time, or both. -/
structure DateTime where
  date : Option Date := none
  time : Option Time := none
  offset : Option Offset := none
deriving Repr, DecidableEq, Inhabited

namespace DateTime

/-! ## Reading -/

/-- The number that digits stand for. -/
def digitsValue (ds : List Char) : Nat :=
  ds.foldl (fun v c => 10 * v + (c.toNat - '0'.toNat)) 0

/-- Reads a number of exactly `n` digits. -/
def digits? (n : Nat) (cs : List Char) : Option (Nat × List Char) :=
  let ds := cs.take n
  if ds.length = n && ds.all Char.isDigit then some (digitsValue ds, cs.drop n) else none

/-- Is the year a leap year? -/
def isLeap (year : Nat) : Bool :=
  (year % 4 == 0 && year % 100 != 0) || year % 400 == 0

/-- The number of days of a month. -/
def daysIn (year month : Nat) : Nat :=
  if month = 2 then if isLeap year then 29 else 28
  else if month ∈ [4, 6, 9, 11] then 30
  else 31

/-- Reads a date that exists: four digits, two and two, joined by hyphens. -/
def date? (cs : List Char) : Option (Date × List Char) := do
  let (year, '-' :: cs) ← digits? 4 cs | none
  let (month, '-' :: cs) ← digits? 2 cs | none
  let (day, cs) ← digits? 2 cs
  if 1 ≤ month && month ≤ 12 && 1 ≤ day && day ≤ daysIn year month then
    some (⟨year, month, day⟩, cs)
  else none

/-- Reads the fraction of a second after its point, in nanoseconds.  Digits beyond the ninth are left
    out. -/
def nanosecond? (cs : List Char) : Option (Nat × List Char) :=
  let ds := cs.takeWhile Char.isDigit
  if ds.isEmpty then none
  else some (digitsValue ((ds ++ List.replicate 9 '0').take 9), cs.dropWhile Char.isDigit)

/-- Reads a time: hours and minutes, and then possibly seconds and their fraction. -/
def time? (cs : List Char) : Option (Time × List Char) := do
  let (hour, ':' :: cs) ← digits? 2 cs | none
  let (minute, cs) ← digits? 2 cs
  if 23 < hour || 59 < minute then none
  match cs with
  | ':' :: cs =>
    let (second, cs) ← digits? 2 cs
    if 60 < second then none
    match cs with
    | '.' :: cs =>
      let (nanosecond, cs) ← nanosecond? cs
      some ({ hour, minute, second, nanosecond }, cs)
    | cs => some ({ hour, minute, second }, cs)
  | cs => some ({ hour, minute }, cs)

/-- Reads an offset to the end: `Z`, or a sign, hours and minutes. -/
def offset? : List Char → Option Offset
  | ['Z'] | ['z'] => some .zulu
  | sign :: cs => do
    if sign ≠ '+' && sign ≠ '-' then none
    let (hour, ':' :: cs) ← digits? 2 cs | none
    let (minute, []) ← digits? 2 cs | none
    if 23 < hour || 59 < minute then none
    some (.hours (sign = '+') hour minute)
  | [] => none

/-- Reads a date, a time, or both.  Between them stands a `T` or a space, and only both together
    have an offset. -/
def parse? (cs : List Char) : Option DateTime :=
  match date? cs with
  | none => do
    let (time, []) ← time? cs | none
    some { time := some time }
  | some (date, []) => some { date := some date }
  | some (date, c :: cs) => do
    if c ∉ ['T', 't', ' '] then none
    let (time, cs) ← time? cs
    if cs.isEmpty then some { date := some date, time := some time }
    else some { date := some date, time := some time, offset := some (← offset? cs) }

/-! ## Writing -/

/-- A number with at least `n` digits. -/
def padded (n k : Nat) : String :=
  let ds := Nat.toDigits 10 k
  String.ofList (List.replicate (n - ds.length) '0' ++ ds)

/-- A fraction of a second with its point, without zeros at the end; nothing if there is none. -/
def fractionText (nanosecond : Nat) : String :=
  if nanosecond = 0 then ""
  else
    let ds := ((padded 9 nanosecond).toList.reverse.dropWhile (· = '0')).reverse
    "." ++ String.ofList ds

/-- A date in its usual form. -/
def dateText (d : Date) : String :=
  padded 4 d.year ++ "-" ++ padded 2 d.month ++ "-" ++ padded 2 d.day

/-- A time in its usual form, seconds included. -/
def timeText (t : Time) : String :=
  padded 2 t.hour ++ ":" ++ padded 2 t.minute ++ ":" ++ padded 2 t.second ++
    fractionText t.nanosecond

/-- An offset in its usual form. -/
def offsetText : Offset → String
  | .zulu => "Z"
  | .hours ahead hour minute =>
    let sign := if ahead || hour + minute = 0 then "+" else "-"
    sign ++ padded 2 hour ++ ":" ++ padded 2 minute

/-- A date and time in its usual form. -/
def text (d : DateTime) : String :=
  ((d.date.map dateText).getD "") ++
    (if d.date.isSome && d.time.isSome then "T" else "") ++
    ((d.time.map timeText).getD "") ++
    ((d.offset.map offsetText).getD "")

end DateTime

end ScannerDispatch.Toml
