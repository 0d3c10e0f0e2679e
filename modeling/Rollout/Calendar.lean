import Rollout.Text.Decimal

/-!
Dates of the Gregorian calendar and seconds since the start of 1970, without leap seconds. The days
of a year are counted from the first of March, so that the day that is sometimes missing comes last.
-/
namespace Rollout

structure DateTime where
  year : Nat
  month : Nat
  day : Nat
  hour : Nat
  minute : Nat
  second : Nat
  deriving DecidableEq, Repr

namespace DateTime
open Text

def isLeapYear (year : Nat) : Bool :=
  year % 4 == 0 && (year % 100 != 0 || year % 400 == 0)

def daysInMonth (year : Nat) : Nat → Nat
  | 1 | 3 | 5 | 7 | 8 | 10 | 12 => 31
  | 4 | 6 | 9 | 11 => 30
  | 2 => if isLeapYear year then 29 else 28
  | _ => 0

def isValid (t : DateTime) : Bool :=
  1 ≤ t.day && t.day ≤ daysInMonth t.year t.month && t.hour < 24 && t.minute < 60 &&
    t.second < 60

def daysBeforeYear (year : Nat) : Nat :=
  year * 365 + year / 4 - year / 100 + year / 400

def daysBeforeMonth (month : Nat) : Nat :=
  (month * 153 + 2) / 5

def days (t : DateTime) : Int :=
  -- January and February belong to the year that began in March before
  let (year, month) :=
    if t.month < 3 then (t.year + 399, t.month + 9) else (t.year + 400, t.month - 3)
  (daysBeforeYear year + daysBeforeMonth month + t.day : Nat) - (719469 + 146097 : Nat)

def seconds (t : DateTime) : Int :=
  t.days * 86400 + (t.hour * 3600 + t.minute * 60 + t.second : Nat)

def ofMarchDays (n : Nat) : Nat × Nat × Nat :=
  let era := n / 146097
  let rest := n % 146097
  let yearOfEra := (rest - rest / 1460 + rest / 36524 - rest / 146096) / 365
  let dayOfYear := rest - daysBeforeYear yearOfEra
  let month := (5 * dayOfYear + 2) / 153
  let day := dayOfYear - daysBeforeMonth month + 1
  let year := era * 400 + yearOfEra
  if month < 10 then (year, month + 3, day) else (year + 1, month - 9, day)

def ofSeconds (s : Int) : DateTime :=
  let (year, month, day) := ofMarchDays (s / 86400 + 719468).toNat
  let rest := (s % 86400).toNat
  ⟨year, month, day, rest / 3600, rest / 60 % 60, rest % 60⟩

def padded (width n : Nat) : List Char :=
  List.replicate (width - (digits n).length) '0' ++ digits n

def render (t : DateTime) : List Char :=
  padded 4 t.year ++ '-' :: padded 2 t.month ++ '-' :: padded 2 t.day ++ 'T' ::
    padded 2 t.hour ++ ':' :: padded 2 t.minute ++ ':' :: padded 2 t.second ++ ['Z']

def readNumber (width : Nat) (cs : List Char) : Option (Nat × List Char) :=
  let ds := cs.take width
  if ds.length = width && ds.all Char.isDigit then some (ofDigits ds, cs.drop width) else none

def readMark (marks : List Char) : List Char → Option (List Char)
  | [] => none
  | c :: rest => if marks.contains c then some rest else none

def readZone : List Char → Option Int
  | ['Z'] | ['z'] => some 0
  | sign :: rest => do
    let (hour, rest) ← readNumber 2 rest
    let rest ← readMark [':'] rest
    let (minute, rest) ← readNumber 2 rest
    let ahead : Int := (hour * 3600 + minute * 60 : Nat)
    if !rest.isEmpty || 23 < hour || 59 < minute then none
    else if sign = '+' then some ahead
    else if sign = '-' || sign = '\u2212' then some (-ahead)
    else none
  | [] => none

def skipFraction : List Char → Option (List Char)
  | '.' :: cs =>
    if (cs.takeWhile Char.isDigit).isEmpty then none else some (cs.dropWhile Char.isDigit)
  | cs => some cs

/-- The point of time that a text in the written form stands for. Other zones are allowed, and any
minute may end in a leap second. -/
def parse? (cs : List Char) : Option DateTime := do
  let (year, cs) ← readNumber 4 cs
  let cs ← readMark ['-'] cs
  let (month, cs) ← readNumber 2 cs
  let cs ← readMark ['-'] cs
  let (day, cs) ← readNumber 2 cs
  let cs ← readMark ['T', 't', ' '] cs
  let (hour, cs) ← readNumber 2 cs
  let cs ← readMark [':'] cs
  let (minute, cs) ← readNumber 2 cs
  let cs ← readMark [':'] cs
  let (second, cs) ← readNumber 2 cs
  let ahead ← readZone (← skipFraction cs)
  let point : DateTime := ⟨year, month, day, hour, minute, min second 59⟩
  if !point.isValid || 60 < second then none
  else
    let point := ofSeconds (point.seconds - ahead)
    return if second = 60 then { point with second } else point

end DateTime
end Rollout
