import Throttle.Decimal

/-!
# Dates and times

TOML has dates, times of the day, and both together, perhaps with an offset from universal time.
`Moment.ofChars?` reads one and `Moment.text` writes it in its shortest form: with a capital `T`
between date and time, and without the zeros at the end of a fraction of a second.
-/

namespace Throttle.Toml

structure Date where
  year : Nat
  month : Nat
  day : Nat
  deriving DecidableEq, Repr

structure Time where
  hour : Nat
  minute : Nat
  second : Nat
  nanosecond : Nat
  deriving DecidableEq, Repr

/-- A distance from universal time. -/
inductive Offset
  | none
  | minutes (n : Int)
  deriving DecidableEq, Repr

/-- A date, a time, or both; only both together may have an offset. -/
inductive Moment
  | date (date : Date)
  | time (time : Time)
  | both (date : Date) (time : Time) (offset : Option Offset)
  deriving DecidableEq, Repr

/-! ## Reading -/

/-- A number of exactly so many digits, and what follows. -/
def fixed? (width : Nat) (cs : List Char) : Option (Nat × List Char) :=
  if cs.length < width then none
  else (Decimal.natOfDigits? (cs.take width)).map fun n => (n, cs.drop width)

def behind? (c : Char) : List Char → Option (List Char)
  | first :: rest => if first = c then some rest else none
  | [] => none

def isLeapYear (year : Nat) : Bool := year % 4 == 0 && (year % 100 != 0 || year % 400 == 0)

def daysInMonth (year month : Nat) : Nat :=
  if month = 2 then (if isLeapYear year then 29 else 28)
  else if [4, 6, 9, 11].contains month then 30
  else 31

def Date.ofChars? (cs : List Char) : Option (Date × List Char) := do
  let (year, cs) ← fixed? 4 cs
  let (month, cs) ← fixed? 2 (← behind? '-' cs)
  let (day, cs) ← fixed? 2 (← behind? '-' cs)
  if 1 ≤ month ∧ month ≤ 12 ∧ 1 ≤ day ∧ day ≤ daysInMonth year month then
    return (⟨year, month, day⟩, cs)
  else failure

/-- The nanoseconds of a fraction's digits; digits behind the ninth do not count. -/
def nanoseconds (digits : List Char) : Nat :=
  Nat.ofDigitChars 10 ((digits ++ List.replicate 9 '0').take 9) 0

/-- A time, and what follows.  The last minute of a day may have a leap second. -/
def Time.ofChars? (cs : List Char) : Option (Time × List Char) := do
  let (hour, cs) ← fixed? 2 cs
  let (minute, cs) ← fixed? 2 (← behind? ':' cs)
  let (second, cs) ← fixed? 2 (← behind? ':' cs)
  if 23 < hour ∨ 59 < minute ∨ 60 < second then failure
  match cs with
  | '.' :: rest =>
    let digits := rest.takeWhile Char.isDigit
    if digits.isEmpty then failure
    return (⟨hour, minute, second, nanoseconds digits⟩, rest.dropWhile Char.isDigit)
  | _ => return (⟨hour, minute, second, 0⟩, cs)

/-- An offset that takes all of the characters; no characters at all give no offset. -/
def Offset.ofChars? (cs : List Char) : Option (Option Offset) :=
  match cs with
  | [] => some Option.none
  | ['Z'] | ['z'] => some (some none)
  | c :: cs => do
    let sign : Int ← if c = '+' then some 1 else if c = '-' then some (-1) else failure
    let (hour, cs) ← fixed? 2 cs
    let (minute, cs) ← fixed? 2 (← behind? ':' cs)
    if 23 < hour ∨ 59 < minute ∨ !cs.isEmpty then failure
    return some (minutes (sign * ((60 * hour + minute : Nat) : Int)))

/-- A moment that takes all of the characters. -/
def Moment.ofChars? (cs : List Char) : Option Moment :=
  match Date.ofChars? cs with
  | some (d, []) => some (.date d)
  | some (d, c :: rest) => do
    if c ≠ 'T' ∧ c ≠ 't' ∧ c ≠ ' ' then failure
    let (t, rest) ← Time.ofChars? rest
    return .both d t (← Offset.ofChars? rest)
  | none => do
    let (t, rest) ← Time.ofChars? cs
    if rest.isEmpty then return .time t else failure

/-! ## Writing -/

def zeroPadded (width n : Nat) : String :=
  let digits := Decimal.digits n
  String.ofList (List.replicate (width - digits.length) '0' ++ digits)

def Date.text (d : Date) : String :=
  zeroPadded 4 d.year ++ "-" ++ zeroPadded 2 d.month ++ "-" ++ zeroPadded 2 d.day

def Time.text (t : Time) : String :=
  let fraction := (zeroPadded 9 t.nanosecond).toList.reverse.dropWhile (· == '0')
  zeroPadded 2 t.hour ++ ":" ++ zeroPadded 2 t.minute ++ ":" ++ zeroPadded 2 t.second ++
    (if fraction.isEmpty then "" else "." ++ String.ofList fraction.reverse)

def Offset.text : Offset → String
  | none => "Z"
  | minutes n =>
    (if n < 0 then "-" else "+") ++ zeroPadded 2 (n.natAbs / 60) ++ ":" ++
      zeroPadded 2 (n.natAbs % 60)

def Moment.text : Moment → String
  | date d => d.text
  | time t => t.text
  | both d t offset => d.text ++ "T" ++ t.text ++ ((offset.map Offset.text).getD "")

end Throttle.Toml
