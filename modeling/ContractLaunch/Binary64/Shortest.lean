import ContractLaunch.Binary64.Basic
/-!
The decimal text of a binary64 number: the fewest digits that read back as the same number, and of
those the nearest. A number is written positionally while its decimal exponent lies in a given range
and with an exponent outside it.
-/
namespace ContractLaunch.Binary64

/-- The reals that round to a magnitude, in quarter steps. The ends belong to it when the mantissa is
even. -/
structure Interval where
  low : Nat
  value : Nat
  high : Nat
  closed : Bool

/-- The interval of a magnitude. The lower half is narrower just above a power of two, except at the
bottom of the range. -/
def interval (x : Binary64) : Interval :=
  let unit := 1 <<< x.power
  let value := 4 * x.steps
  let below := if x.mantissa = leastNormal && 0 < x.power then unit else 2 * unit
  ⟨value - below, value, value + 2 * unit, x.mantissa % 2 == 0⟩

def Interval.contains (i : Interval) (num den : Nat) : Bool :=
  if i.closed then i.low * den ≤ num && num ≤ i.high * den
  else i.low * den < num && num < i.high * den

/-- The number of zeros between the point and the first digit of `num / den`, which is below one; at
most `fuel`. -/
def leadingZeros (num den : Nat) : Nat → Nat
  | 0 => 0
  | fuel + 1 => if den ≤ num * 10 then 0 else leadingZeros (num * 10) den fuel + 1

/-- The position of the decimal point of a magnitude that is not zero, counted from before its first
digit. -/
def pointPosition (x : Binary64) : Int :=
  if one ≤ x.steps then (Nat.toDigits 10 (x.steps / one)).length
  else -(leadingZeros x.steps one 400 : Int)

/-- The point of the grid of `count` digits that lies in the interval, if there is one; of two the
nearer, and the even one at a tie. `point` is the position of the decimal point. -/
def gridPoint? (i : Interval) (point : Int) (count : Nat) : Option Nat :=
  let quarter := 4 * one
  let shift : Int := point - count
  let up := Nat.pow 10 shift.toNat
  let down := Nat.pow 10 (-shift).toNat
  -- the value on the grid is `value * down / (quarter * up)`
  let floor := i.value * down / (quarter * up)
  let inside (d : Nat) : Bool := i.contains (d * quarter * up) down
  let rest := i.value * down - floor * (quarter * up)
  match inside floor, inside (floor + 1) with
  | true, true =>
    if 2 * rest < quarter * up || (2 * rest == quarter * up && floor % 2 == 0) then some floor
    else some (floor + 1)
  | true, false => some floor
  | false, true => some (floor + 1)
  | false, false => none

/-- The fewest digits that read back as the magnitude, without trailing zeros, and the position of
the decimal point. Seventeen digits always suffice. -/
def shortestDigits (x : Binary64) : List Char × Int :=
  let point := x.pointPosition
  let found := (List.range 17).findSome? fun n =>
    (gridPoint? x.interval point (n + 1)).map fun d => (n + 1, d)
  match found with
  | none => (['0'], 1)
  | some (count, d) =>
    let digits := Nat.toDigits 10 d
    ((digits.reverse.dropWhile (· = '0')).reverse, point + (digits.length - count : Int))

structure PositionalRange where
  least : Int
  greatest : Int

/-- Numbers in messages are positional from 10⁻⁵ up to below 10¹⁶. -/
def messageRange : PositionalRange := ⟨-5, 15⟩

/-- The text of a magnitude with these shortest digits: at least one decimal when positional, the
sign of the exponent always written otherwise. -/
def layout (style : PositionalRange) (digits : List Char) (point : Int) : List Char :=
  let exponent := point - 1
  if style.least ≤ exponent && exponent ≤ style.greatest then
    if point ≤ 0 then '0' :: '.' :: (List.replicate (-point).toNat '0' ++ digits)
    else
      let whole := digits.take point.toNat
      let fraction := digits.drop point.toNat
      whole ++ List.replicate (point.toNat - digits.length) '0' ++
        '.' :: (if fraction.isEmpty then ['0'] else fraction)
  else
    let sign := if exponent < 0 then '-' else '+'
    digits.take 1 ++ (if digits.length ≤ 1 then [] else '.' :: digits.drop 1) ++
      'e' :: sign :: Nat.toDigits 10 exponent.natAbs

def written (x : Binary64) : List Char :=
  let magnitude :=
    if x.mantissa = 0 then ['0', '.', '0']
    else
      let (digits, point) := x.shortestDigits
      layout messageRange digits point
  if x.negative then '-' :: magnitude else magnitude

end ContractLaunch.Binary64
