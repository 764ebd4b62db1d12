import ContractLaunch.Text.Blank
import ContractLaunch.Text.Numeral
import ContractLaunch.Text.Search
/-!
Points in time as records hold them: read from a date, a time of day and an offset from UTC, and
written in UTC with as many groups of three decimals as the fraction needs.
-/
namespace ContractLaunch

/-- A point in time: seconds since the start of 1970 in UTC, and nanoseconds within the second. In a
leap second the nanoseconds run on from 10⁹. -/
structure Timestamp where
  seconds : Int
  nanos : Nat
  deriving DecidableEq

namespace Timestamp

structure Date where
  year : Int
  month : Nat
  day : Nat

def isLeapYear (year : Int) : Bool :=
  year % 4 == 0 && (year % 100 != 0 || year % 400 == 0)

def daysInMonth (year : Int) (month : Nat) : Nat :=
  if month = 2 then (if isLeapYear year then 29 else 28)
  else if month = 4 || month = 6 || month = 9 || month = 11 then 30
  else 31

def isHeldYear (year : Int) : Bool := -262143 ≤ year && year ≤ 262142

def Date.isValid (d : Date) : Bool :=
  isHeldYear d.year && 1 ≤ d.month && d.month ≤ 12 &&
    1 ≤ d.day && d.day ≤ daysInMonth d.year d.month

/-- The number of days from the start of 1970. Years are counted from March, so that the leap day is
the last of its year. -/
def Date.toDays (d : Date) : Int :=
  let year := if d.month ≤ 2 then d.year - 1 else d.year
  let era := Int.fdiv year 400
  let yearOfEra := year - era * 400
  let monthFromMarch : Int := (d.month + 9 : Nat) % 12
  let dayOfYear := (153 * monthFromMarch + 2) / 5 + d.day - 1
  let dayOfEra := yearOfEra * 365 + yearOfEra / 4 - yearOfEra / 100 + dayOfYear
  era * 146097 + dayOfEra - 719468

def Date.ofDays (days : Int) : Date :=
  let z := days + 719468
  let era := Int.fdiv z 146097
  let dayOfEra := z - era * 146097
  let yearOfEra := (dayOfEra - dayOfEra / 1460 + dayOfEra / 36524 - dayOfEra / 146096) / 365
  let dayOfYear := dayOfEra - (365 * yearOfEra + yearOfEra / 4 - yearOfEra / 100)
  let monthFromMarch := (5 * dayOfYear + 2) / 153
  let day := dayOfYear - (153 * monthFromMarch + 2) / 5 + 1
  let month := if monthFromMarch < 10 then monthFromMarch + 3 else monthFromMarch - 9
  let year := yearOfEra + era * 400 + (if month ≤ 2 then 1 else 0)
  ⟨year, month.toNat, day.toNat⟩

def date (t : Timestamp) : Date := Date.ofDays (Int.fdiv t.seconds 86400)

def scanNumber? (width : Nat) (cs : List Char) : Option (Nat × List Char) :=
  let start := Text.trimStart cs
  let digits := (start.take width).takeWhile Char.isDigit
  (Numeral.read? digits).map (·, start.drop digits.length)

def scanYear? (cs : List Char) : Option (Int × List Char) :=
  match Text.trimStart cs with
  | '-' :: rest =>
    (Numeral.read? (rest.takeWhile Char.isDigit)).map fun n =>
      (-(n : Int), rest.dropWhile Char.isDigit)
  | '+' :: rest =>
    (Numeral.read? (rest.takeWhile Char.isDigit)).map fun n =>
      ((n : Int), rest.dropWhile Char.isDigit)
  | start => (scanNumber? 4 start).map fun (n, rest) => ((n : Int), rest)

def scanMark? (mark : Char) (cs : List Char) : Option (List Char) :=
  match Text.trimStart cs with
  | c :: rest => if c = mark then some rest else none
  | [] => none

/-- The nanoseconds written after a point; digits beyond the ninth are ignored. -/
def scanFraction? : List Char → Option (Nat × List Char)
  | '.' :: rest =>
    let digits := rest.takeWhile Char.isDigit
    (Numeral.read? ((digits ++ List.replicate 9 '0').take 9)).bind fun n =>
      if digits.isEmpty then none else some (n, rest.drop digits.length)
  | cs => some (0, cs)

/-- An offset from UTC in seconds: `Z`, `UTC`, or a sign, two digits of hours, separators, and two
digits of minutes. -/
def scanOffset? (cs : List Char) : Option (Int × List Char) :=
  let start := Text.trimStart cs
  let afterUtc? := Text.afterStart? ['u', 't', 'c'] ((start.take 3).map Char.toLower)
  match start with
  | [] => none
  | c :: rest =>
    if afterUtc?.isSome then some (0, start.drop 3)
    else if c = 'Z' || c = 'z' then some (0, rest)
    else
      let sign : Option Int :=
        if c = '+' then some 1 else if c = '-' || c = '\u2212' then some (-1) else none
      match sign, rest with
      | some sign, h1 :: h2 :: rest =>
        let rest := rest.dropWhile fun c => c = ':' || Text.isBlank c
        match Numeral.read? [h1, h2], rest with
        | some hours, m1 :: m2 :: rest =>
          match Numeral.read? [m1, m2] with
          | some minutes =>
            if minutes < 60 then some (sign * (hours * 3600 + minutes * 60 : Nat), rest) else none
          | none => none
        | _, _ => none
      | _, _ => none

/-- The point in time that a text writes: a date, the letter T or a space, a time of day, and an
offset. Blanks may stand between the parts. Records must hold the date as written and in UTC. -/
def read? (s : String) : Option Timestamp := do
  let (year, cs) ← scanYear? s.toList
  let (month, cs) ← scanNumber? 2 (← scanMark? '-' cs)
  let (day, cs) ← scanNumber? 2 (← scanMark? '-' cs)
  let cs ← match cs with
    | c :: rest => if c = 'T' || c = 't' || c = ' ' then some rest else none
    | [] => none
  let (hour, cs) ← scanNumber? 2 cs
  let (minute, cs) ← scanNumber? 2 (← scanMark? ':' cs)
  let (second, cs) ← scanNumber? 2 (← scanMark? ':' cs)
  let (nanos, cs) ← scanFraction? cs
  let (offset, cs) ← scanOffset? cs
  let date : Date := ⟨year, month, day⟩
  if !(Text.trimStart cs).isEmpty || !date.isValid || 23 < hour || 59 < minute || 60 < second ||
      86400 ≤ offset.natAbs then
    none
  else
    let leap := second = 60
    let time : Nat := hour * 3600 + minute * 60 + (if leap then 59 else second)
    let t : Timestamp :=
      ⟨date.toDays * 86400 + time - offset, nanos + (if leap then 1000000000 else 0)⟩
    if isHeldYear t.date.year then some t else none

def padded (width n : Nat) : List Char :=
  let digits := Nat.toDigits 10 n
  List.replicate (width - digits.length) '0' ++ digits

/-- The year: four digits, or a sign and at least four digits outside the years 0 to 9999. -/
def yearChars (year : Int) : List Char :=
  if 0 ≤ year && year ≤ 9999 then padded 4 year.toNat
  else (if year < 0 then '-' else '+') :: padded 4 year.natAbs

def fractionChars (nanos : Nat) : List Char :=
  if nanos = 0 then []
  else if nanos % 1000000 = 0 then '.' :: padded 3 (nanos / 1000000)
  else if nanos % 1000 = 0 then '.' :: padded 6 (nanos / 1000)
  else '.' :: padded 9 nanos

def written (t : Timestamp) : String :=
  let date := t.date
  let time := (t.seconds - Int.fdiv t.seconds 86400 * 86400).toNat
  let second := time % 60 + t.nanos / 1000000000
  String.ofList <|
    yearChars date.year ++ '-' :: padded 2 date.month ++ '-' :: padded 2 date.day ++
      'T' :: padded 2 (time / 3600) ++ ':' :: padded 2 (time / 60 % 60) ++
      ':' :: padded 2 second ++ fractionChars (t.nanos % 1000000000) ++ ['Z']

end Timestamp

end ContractLaunch
