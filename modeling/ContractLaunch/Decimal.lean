import ContractLaunch.Text.Numeral
import ContractLaunch.Text.Quoted
/-!
Unsigned decimals with eighteen places. A decimal is a whole number of atoms, one atom being
10⁻¹⁸; it is read from digits with at most one point, and printed without superfluous zeros. Amounts
have 128 bits: what could pass them in reading is checked, and the rest would wrap around.
-/
namespace ContractLaunch

abbrev Amount.size : Nat := 0x100000000000000000000000000000000

abbrev Amount := Fin Amount.size

namespace Amount

def ofNat? (n : Nat) : Option Amount := if h : n < size then some ⟨n, h⟩ else none

theorem ofNat?_eq_some_iff {n : Nat} {a : Amount} : ofNat? n = some a ↔ a.val = n := by
  have bound := a.isLt
  unfold ofNat?
  split
  · rw [Option.some.injEq, Fin.ext_iff, eq_comm]
  · constructor
    · exact nofun
    · intro same
      omega

def mul? (a b : Amount) : Option Amount := ofNat? (a.val * b.val)

def add? (a b : Amount) : Option Amount := ofNat? (a.val + b.val)

/-- The number in 128 bits, less what does not fit. -/
def wrap (n : Nat) : Amount := Fin.ofNat size n

def powerOfTen (k : Nat) : Amount := wrap (Nat.pow 10 k)

def extend? (n : Amount) (digit : Char) : Option Amount :=
  (mul? n 10).bind (add? · (wrap (digit.toNat - '0'.toNat)))

def ofDigits? (digits : List Char) : Option Amount := digits.foldlM extend? 0

end Amount

/-- An unsigned decimal with eighteen places, counted in atoms. -/
structure Decimal where
  atoms : Amount
  deriving DecidableEq

namespace Decimal

def places : Nat := 18

def one : Nat := Nat.pow 10 places

instance : Ord Decimal := ⟨fun a b => compare a.atoms b.atoms⟩

def isZero (d : Decimal) : Bool := d.atoms.val == 0

/-- What stands before the first point of a text, and what stands after it. -/
def parts (cs : List Char) : List Char × List Char :=
  (cs.takeWhile (· ≠ '.'), (cs.dropWhile (· ≠ '.')).drop 1)

/-- The atoms that fraction digits write. Their product is not checked. -/
def fractionAtoms? (fraction : List Char) : Option Amount :=
  (Amount.ofDigits? fraction).map (· * Amount.powerOfTen (places - fraction.length))

def ofParts? (whole fraction : List Char) : Option Decimal := do
  let units ← Amount.ofDigits? whole
  let rest ← fractionAtoms? fraction
  let atoms ← (Amount.mul? units (Amount.powerOfTen places)).bind (Amount.add? · rest)
  return ⟨atoms⟩

/-- The decimal that a text writes: digits, then perhaps a point and at most eighteen digits, with at
least one digit in all. -/
def read? (cs : List Char) : Option Decimal :=
  let (whole, fraction) := parts cs
  if whole.isEmpty && fraction.isEmpty then none
  else if !whole.all Char.isDigit || !fraction.all Char.isDigit || places < fraction.length then none
  else ofParts? whole fraction

/-- The fraction digits of a number of atoms below one, without trailing zeros. -/
def fractionDigits (atoms : Nat) : List Char :=
  let digits := Nat.toDigits 10 atoms
  let padded := List.replicate (places - digits.length) '0' ++ digits
  (padded.reverse.dropWhile (· = '0')).reverse

/-- The whole digits, and the fraction digits after a point if there is a fraction. -/
def written (d : Decimal) : List Char :=
  let whole := Nat.toDigits 10 (d.atoms.val / one)
  let fraction := d.atoms.val % one
  if fraction = 0 then whole else whole ++ '.' :: fractionDigits fraction

instance : ToString Decimal := ⟨fun d => String.ofList d.written⟩

end Decimal

end ContractLaunch
