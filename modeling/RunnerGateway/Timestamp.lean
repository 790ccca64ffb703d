import RunnerGateway.Text.Blank
import RunnerGateway.Text.Numeral

/-!
# Timestamps

The Unix time of a date and a time of day, in two notations.  The strict one has fields of fixed
width and ends with an offset from UTC; the lenient one has no offset, stands for UTC, allows blanks
before numbers and fewer digits, and reaches beyond the years of four digits.  Fractions of a second
are dropped, and the second 60 of a leap second counts as 59.
-/

namespace RunnerGateway
namespace Timestamp

/-- A day of the proleptic Gregorian calendar and a time of that day. -/
structure Civil where
  year : Int
  month : Nat
  day : Nat
  hour : Nat
  minute : Nat
  second : Nat
  deriving DecidableEq, Repr

/-- The year has a day more than others. -/
def isLeap (year : Int) : Bool :=
  year % 4 = 0 && (year % 100 ≠ 0 || year % 400 = 0)

/-- How many days a month has. -/
def monthDays (year : Int) (month : Nat) : Nat :=
  if month = 2 then (if isLeap year then 29 else 28)
  else if month = 4 ∨ month = 6 ∨ month = 9 ∨ month = 11 then 30
  else 31

/-- The days from the beginning of the year 0 to the beginning of a year. -/
def yearDays (year : Int) : Int :=
  let last := year - 1
  365 * year + last / 4 - last / 100 + last / 400 + 1

/-- The days from the beginning of a year to the beginning of a month. -/
def monthStart (year : Int) : Nat → Nat
  | 0 => 0
  | 1 => 0
  | month + 1 => monthStart year month + monthDays year month

/-- The days from the first of January 1970. -/
def Civil.days (c : Civil) : Int :=
  yearDays c.year - yearDays 1970 + monthStart c.year c.month + ((c.day : Int) - 1)

/-- The seconds from the beginning of 1970, as if the time were in UTC. -/
def Civil.seconds (c : Civil) : Int :=
  c.days * 86400 + (c.hour * 3600 + c.minute * 60 + min c.second 59 : Nat)

/-- The least and the greatest year of a date. -/
def yearRange : Int × Int := (-262143, 262142)

/-- There is such a day, and such a time of day. -/
def Civil.isValid (c : Civil) : Bool :=
  yearRange.1 ≤ c.year && c.year ≤ yearRange.2 && 1 ≤ c.month && c.month ≤ 12 && 1 ≤ c.day &&
    c.day ≤ monthDays c.year c.month && c.hour ≤ 23 && c.minute ≤ 59 && c.second ≤ 60

/-- The number of the first `count` characters, which have to be digits, and what follows. -/
def fixedDigits? : (count value : Nat) → List Char → Option (Nat × List Char)
  | 0, value, cs => some (value, cs)
  | _ + 1, _, [] => none
  | count + 1, value, c :: cs =>
    match Text.digit? c with
    | some d => fixedDigits? count (value * 10 + d) cs
    | none => none

/-- What follows the character `c`. -/
def skip? (c : Char) : List Char → Option (List Char)
  | [] => none
  | d :: cs => if d = c then some cs else none

/-- What follows a fraction of at least one digit, if a point announces one. -/
def skipFraction? : List Char → Option (List Char)
  | '.' :: c :: cs =>
    if (Text.digit? c).isSome then some (cs.dropWhile fun d => (Text.digit? d).isSome) else none
  | ['.'] => none
  | cs => some cs

/-- The minus sign of typography, which may stand for a hyphen in an offset. -/
def minusSign : Char := Char.ofNat 0x2212

/-- The offset from UTC in seconds that ends a strict timestamp. -/
def offset? (cs : List Char) : Option Int :=
  match cs with
  | ['Z'] => some 0
  | ['z'] => some 0
  | sign :: cs =>
    let direction : Option Int :=
      if sign = '+' then some 1 else if sign = '-' ∨ sign = minusSign then some (-1) else none
    match direction, fixedDigits? 2 0 cs with
    | some direction, some (hours, cs) =>
      match (skip? ':' cs).bind (fixedDigits? 2 0) with
      | some (minutes, []) =>
        if hours ≤ 23 ∧ minutes ≤ 59 then some (direction * (hours * 3600 + minutes * 60 : Nat))
        else none
      | _ => none
    | _, _ => none
  | [] => none

/-- What follows the character between the date and the time of a strict timestamp. -/
def skipDivider? : List Char → Option (List Char)
  | c :: cs => if c = 'T' ∨ c = 't' ∨ c = ' ' then some cs else none
  | [] => none

/-- The date and time of a strict timestamp, and what follows the seconds. -/
def strictCivil? (cs : List Char) : Option (Civil × List Char) := do
  let (year, cs) ← fixedDigits? 4 0 cs
  let (month, cs) ← (skip? '-' cs).bind (fixedDigits? 2 0)
  let (day, cs) ← (skip? '-' cs).bind (fixedDigits? 2 0)
  let (hour, cs) ← (skipDivider? cs).bind (fixedDigits? 2 0)
  let (minute, cs) ← (skip? ':' cs).bind (fixedDigits? 2 0)
  let (second, cs) ← (skip? ':' cs).bind (fixedDigits? 2 0)
  return (⟨year, month, day, hour, minute, second⟩, cs)

/-- The Unix time of a strict timestamp. -/
def readStrict? (cs : List Char) : Option Int := do
  let (civil, cs) ← strictCivil? cs
  let offset ← (skipFraction? cs).bind offset?
  if civil.isValid then some (civil.seconds - offset) else none

/-- The number of at most `limit` digits after blanks, at least one, and what follows. -/
def looseDigits? (limit : Nat) (cs : List Char) : Option (Nat × List Char) :=
  let cs := cs.dropWhile Text.isBlank
  let digits := (cs.take limit).takeWhile fun c => (Text.digit? c).isSome
  if digits.isEmpty then none
  else (fixedDigits? digits.length 0 digits).map fun (n, _) => (n, cs.drop digits.length)

/-- The year of a lenient timestamp after blanks; only a sign allows more than four digits. -/
def looseYear? (cs : List Char) : Option (Int × List Char) :=
  match cs.dropWhile Text.isBlank with
  | '+' :: c :: cs =>
    if (Text.digit? c).isSome then
      (looseDigits? (cs.length + 1) (c :: cs)).map fun (n, cs) => ((n : Int), cs)
    else none
  | '-' :: c :: cs =>
    if (Text.digit? c).isSome then
      (looseDigits? (cs.length + 1) (c :: cs)).map fun (n, cs) => (-(n : Int), cs)
    else none
  | cs => (looseDigits? 4 cs).map fun (n, cs) => ((n : Int), cs)

/-- The date and time of a lenient timestamp, and what follows the seconds. -/
def lenientCivil? (cs : List Char) : Option (Civil × List Char) := do
  let (year, cs) ← looseYear? cs
  let (month, cs) ← (skip? '-' cs).bind (looseDigits? 2)
  let (day, cs) ← (skip? '-' cs).bind (looseDigits? 2)
  let (hour, cs) ← (skip? 'T' cs).bind (looseDigits? 2)
  let (minute, cs) ← (skip? ':' cs).bind (looseDigits? 2)
  let (second, cs) ← (skip? ':' cs).bind (looseDigits? 2)
  return (⟨year, month, day, hour, minute, second⟩, cs)

/-- The Unix time of a lenient timestamp. -/
def readLenient? (cs : List Char) : Option Int := do
  let (civil, cs) ← lenientCivil? cs
  let rest ← skipFraction? cs
  if rest.isEmpty && civil.isValid then some civil.seconds else none

/-- The Unix time of a timestamp: strict if possible, and else lenient. -/
def read? (raw : String) : Option Int :=
  (readStrict? raw.toList).or (readLenient? raw.toList)

end Timestamp
end RunnerGateway
