/-!
Numerals: reading texts of ASCII digits as natural numbers, in decimal with and without a bound, and
in other bases. Writing is `Nat.toDigits 10` (or `toString`), and a written number reads back.
-/
namespace ContractLaunch.Numeral

def read? (cs : List Char) : Option Nat :=
  if cs.isEmpty || !cs.all Char.isDigit then none else some (Nat.ofDigitChars 10 cs 0)

/-- The number written by ASCII digits after at most one plus sign, when it is below `bound`. -/
def readBelow? (bound : Nat) (cs : List Char) : Option Nat :=
  let digits := match cs with
    | '+' :: rest => rest
    | _ => cs
  (read? digits).filter (· < bound)

def readUInt64? (cs : List Char) : Option UInt64 := (readBelow? UInt64.size cs).map UInt64.ofNat

def hexDigit? (c : Char) : Option Nat :=
  if c.isDigit then some (c.toNat - '0'.toNat)
  else if 'a' ≤ c ∧ c ≤ 'f' then some (c.toNat - 'a'.toNat + 10)
  else if 'A' ≤ c ∧ c ≤ 'F' then some (c.toNat - 'A'.toNat + 10)
  else none

/-- The number written by digits of a base up to sixteen; no digits write zero. -/
def digits? (base : Nat) (cs : List Char) : Option Nat :=
  cs.foldlM (fun n c => ((hexDigit? c).filter (· < base)).map (n * base + ·)) 0

@[simp] theorem read?_toDigits (n : Nat) : read? (Nat.toDigits 10 n) = some n := by
  have nonempty : Nat.toDigits 10 n ≠ [] :=
    List.ne_nil_of_length_pos Nat.length_toDigits_pos
  have digits : (Nat.toDigits 10 n).all Char.isDigit = true :=
    List.all_eq_true.mpr fun _ h => Nat.isDigit_of_mem_toDigits (by omega) (by omega) h
  simp [read?, nonempty, digits, Nat.ofDigitChars_ten_toDigits]

end ContractLaunch.Numeral
