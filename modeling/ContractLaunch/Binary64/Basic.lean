/-!
Finite binary64 numbers in exact arithmetic. A magnitude is a whole number of steps of 2⁻¹⁰⁷⁴, held
as a mantissa below 2⁵³ and a power of two, so every operation is an operation on natural numbers
followed by one rounding to nearest, ties to even.
-/
namespace ContractLaunch

/-- A finite binary64 number: a sign and `mantissa * 2 ^ power` steps of 2⁻¹⁰⁷⁴. Both zeros are
there. -/
structure Binary64 where
  negative : Bool
  mantissa : Nat
  power : Nat
  deriving DecidableEq

namespace Binary64

def one : Nat := 1 <<< 1074

/-- The least mantissa of a number that is not too small for all 53 bits. -/
def leastNormal : Nat := 0x10000000000000

def maxPower : Nat := 2045

def steps (x : Binary64) : Nat := x.mantissa <<< x.power

/-- The quotient rounded to a whole number, a half going to the even neighbour. -/
def roundQuotient (num den : Nat) : Nat :=
  let floor := num / den
  let twice := 2 * (num % den)
  if den < twice || (twice == den && floor % 2 == 1) then floor + 1 else floor

/-- The number nearest to `num / den`, ties to even; `none` beyond the largest finite number. -/
def nearest? (num den : Nat) : Option Binary64 :=
  let power := (num * one / den).log2 - 52
  let mantissa := roundQuotient (num * one) (den <<< power)
  let (mantissa, power) := if mantissa = 2 * leastNormal then (leastNormal, power + 1) else (mantissa, power)
  if maxPower < power then none else some ⟨false, mantissa, power⟩

def mul? (x y : Binary64) : Option Binary64 := nearest? (x.steps * y.steps) (one * one)

def div? (x y : Binary64) : Option Binary64 := nearest? x.steps y.steps

def powerOfTen? (k : Nat) : Option Binary64 := nearest? (Nat.pow 10 k) 1

def withSign (negative : Bool) (x : Binary64) : Binary64 := { x with negative }

/-- The number nearest to `digits * 10 ^ exponent`, rounded once; `none` beyond the largest finite
number. Exponents far outside the range are settled without computing the power. -/
def ofDecimal? (digits : Nat) (exponent : Int) : Option Binary64 :=
  if digits = 0 then nearest? 0 1
  else
    match exponent with
    | .ofNat k => if 400 < k then none else nearest? (digits * Nat.pow 10 k) 1
    | .negSucc k =>
      if digits.log2 + 1100 < 3 * k then nearest? 0 1 else nearest? digits (Nat.pow 10 (k + 1))

end Binary64

end ContractLaunch
