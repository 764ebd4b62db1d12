import ContractLaunch.Toml.Basic
import ContractLaunch.Toml.Datetime
/-!
The TOML values that are written as one word: numbers, truth values, dates and times. Digits may be
grouped by single underscores.
-/
namespace ContractLaunch.Toml.Scalar

/-- The digits of a grouped numeral: not empty, and every underscore stands between two digits. -/
def ungrouped? (isDigit : Char → Bool) (cs : List Char) : Option (List Char) :=
  let groups := cs.splitOn '_'
  if groups.any fun g => g.isEmpty || !g.all isDigit then none else some groups.flatten

def decimal? (cs : List Char) : Option (List Char) :=
  if 1 < cs.length && cs.head? = some '0' then none else ungrouped? Char.isDigit cs

def isInt64 (n : Int) : Bool := -0x8000000000000000 ≤ n && n < 0x8000000000000000

def splitSign : List Char → Bool × List Char
  | '-' :: cs => (true, cs)
  | '+' :: cs => (false, cs)
  | cs => (false, cs)

def based? (base : Nat) (cs : List Char) : Option Int := do
  let isDigit (c : Char) : Bool := ((Numeral.hexDigit? c).filter (· < base)).isSome
  let n ← Numeral.digits? base (← ungrouped? isDigit cs)
  if isInt64 n then some n else none

def integer? : List Char → Option Int
  | '0' :: 'x' :: cs => based? 16 cs
  | '0' :: 'o' :: cs => based? 8 cs
  | '0' :: 'b' :: cs => based? 2 cs
  | cs => do
    let (negative, cs) := splitSign cs
    let n ← Numeral.read? (← decimal? cs)
    let n : Int := if negative then -n else n
    if isInt64 n then some n else none

def exponent? (cs : List Char) : Option Int := do
  let (negative, cs) := splitSign cs
  let n ← Numeral.read? (← ungrouped? Char.isDigit cs)
  return if negative then -n else n

/-- The finite number, or `some none` for an infinity, that a word with a fraction or an exponent
writes. Only a negative number may be too large. -/
def finite? (cs : List Char) : Option (Option Binary64) := do
  let (negative, cs) := splitSign cs
  let isExponentLetter (c : Char) : Bool := c = 'e' || c = 'E'
  let mantissa := cs.takeWhile (!isExponentLetter ·)
  let power := (cs.dropWhile (!isExponentLetter ·)).drop 1
  let hasExponent := cs.any isExponentLetter
  let hasPoint := mantissa.contains '.'
  let whole ← decimal? (mantissa.takeWhile (· ≠ '.'))
  let fraction ←
    if hasPoint then ungrouped? Char.isDigit ((mantissa.dropWhile (· ≠ '.')).drop 1) else some []
  let exponent ← if hasExponent then exponent? power else some 0
  if hasPoint || hasExponent then
    let digits := Nat.ofDigitChars 10 (whole ++ fraction) 0
    match Binary64.ofDecimal? digits (exponent - fraction.length) with
    | some x => some (some (x.withSign negative))
    | none => if negative then some none else none
  else none

/-- The words for infinities and for a value that is no number, after a sign. -/
def specialWords : List (List Char) := [['i', 'n', 'f'], ['n', 'a', 'n']]

def read? (word : List Char) : Option Toml :=
  if word = ['t', 'r', 'u', 'e'] then some (.bool true)
  else if word = ['f', 'a', 'l', 's', 'e'] then some (.bool false)
  else if specialWords.contains (splitSign word).2 then some (.float none)
  else
    match Datetime.normal? word with
    | some written => some (.datetime (String.ofList written))
    | none =>
      match integer? word with
      | some n => some (.integer n)
      | none => (finite? word).map .float

def isWordChar (c : Char) : Bool := c.isAlphanum || ['_', '+', '-', '.', ':'].contains c

/-- The word at the start of a text, and what follows it. A date takes in a time of day that stands
after one space. -/
def word (cs : List Char) : List Char × List Char :=
  let first := cs.takeWhile isWordChar
  let rest := cs.dropWhile isWordChar
  match Datetime.date? first, rest with
  | some (_, []), ' ' :: c :: more =>
    if c.isDigit then
      (first ++ ' ' :: (c :: more).takeWhile isWordChar, (c :: more).dropWhile isWordChar)
    else (first, rest)
  | _, _ => (first, rest)

end ContractLaunch.Toml.Scalar
