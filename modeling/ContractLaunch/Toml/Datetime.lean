import ContractLaunch.Text.Numeral
import ContractLaunch.Timestamp
/-!
Dates and times in TOML: a date, a time of day, or a date with a time and perhaps an offset from UTC.
The normal form separates date and time by `T`, keeps at most nine decimals of a second without
trailing zeros, and writes the offset of UTC itself as `Z` only where the text does.
-/
namespace ContractLaunch.Toml.Datetime

def pair? (low high : Nat) : List Char → Option (List Char × List Char)
  | a :: b :: rest => do
    let n ← Numeral.read? [a, b]
    if low ≤ n && n ≤ high then some ([a, b], rest) else none
  | _ => none

def mark? (c : Char) : List Char → Option (List Char)
  | [] => none
  | d :: rest => if c = d then some rest else none

def date? (cs : List Char) : Option (List Char × List Char) := do
  let year := cs.take 4
  let y ← if year.length = 4 then Numeral.read? year else none
  let rest ← mark? '-' (cs.drop 4)
  let (month, rest) ← pair? 1 12 rest
  let rest ← mark? '-' rest
  let m ← Numeral.read? month
  let (day, rest) ← pair? 1 (Timestamp.daysInMonth y m) rest
  return (year ++ '-' :: month ++ '-' :: day, rest)

/-- The decimals of a second in normal form, with their point; none are left of zeros only. -/
def decimals (digits : List Char) : List Char :=
  let kept := ((digits.take 9).reverse.dropWhile (· = '0')).reverse
  if kept.isEmpty then [] else '.' :: kept

def time? (cs : List Char) : Option (List Char × List Char) := do
  let (hour, rest) ← pair? 0 23 cs
  let rest ← mark? ':' rest
  let (minute, rest) ← pair? 0 59 rest
  let rest ← mark? ':' rest
  let (second, rest) ← pair? 0 60 rest
  let whole := hour ++ ':' :: minute ++ ':' :: second
  match rest with
  | '.' :: fraction =>
    let digits := fraction.takeWhile Char.isDigit
    if digits.isEmpty then none else some (whole ++ decimals digits, fraction.dropWhile Char.isDigit)
  | _ => return (whole, rest)

def offset? : List Char → Option (List Char)
  | [] => some []
  | ['Z'] | ['z'] => some ['Z']
  | sign :: cs => do
    if sign = '+' || sign = '-' then
      let (hour, rest) ← pair? 0 23 cs
      let rest ← mark? ':' rest
      let (minute, rest) ← pair? 0 59 rest
      if !rest.isEmpty then none
      else
        let isZero := (hour ++ minute).all (· = '0')
        some ((if isZero then '+' else sign) :: hour ++ ':' :: minute)
    else none

def normal? (cs : List Char) : Option (List Char) :=
  match date? cs with
  | some (date, []) => some date
  | some (date, c :: rest) =>
    if c = 'T' || c = 't' || c = ' ' then do
      let (time, rest) ← time? rest
      let offset ← offset? rest
      return date ++ 'T' :: time ++ offset
    else none
  | none =>
    match time? cs with
    | some (time, []) => some time
    | _ => none

end ContractLaunch.Toml.Datetime
