import ContractLaunch.Text.Numeral
import Mathlib
/-!
The number that digits write, place by place: digits put before others count by the power of ten of
their place, and zeros in front count nothing. What is written for a number has a zero in front only
if it is zero itself. A text is read as the number that it writes, as long as that is in range.
-/
namespace ContractLaunch.Numeral

def value (digits : List Char) : Nat := Nat.ofDigitChars 10 digits 0

theorem ofDigitChars_eq (digits : List Char) (start : Nat) :
    Nat.ofDigitChars 10 digits start = start * 10 ^ digits.length + value digits := by
  unfold value
  induction digits generalizing start with
  | nil => simp
  | cons c rest ih =>
    rw [Nat.ofDigitChars_cons, Nat.ofDigitChars_cons, ih, ih (10 * 0 + _), List.length_cons, pow_succ]
    ring

theorem value_append (before after : List Char) :
    value (before ++ after) = value before * 10 ^ after.length + value after := by
  rw [value, Nat.ofDigitChars_append, ofDigitChars_eq]
  rfl

theorem value_cons (c : Char) (rest : List Char) :
    value (c :: rest) = (c.toNat - '0'.toNat) * 10 ^ rest.length + value rest := by
  rw [value, Nat.ofDigitChars_cons, ofDigitChars_eq, Nat.mul_zero, Nat.zero_add]

theorem value_zeros (k : Nat) : value (List.replicate k '0') = 0 := by
  induction k with
  | zero => rfl
  | succ k ih => rw [List.replicate_succ, value_cons, ih, Nat.sub_self, Nat.zero_mul]

theorem value_toDigits (n : Nat) : value (Nat.toDigits 10 n) = n := Nat.ofDigitChars_ten_toDigits

theorem sub_le_of_isDigit {c : Char} (digit : c.isDigit = true) : c.toNat - '0'.toNat ≤ 9 := by
  simp only [Char.isDigit, Bool.and_eq_true, decide_eq_true_eq, UInt32.le_iff_toNat_le] at digit
  change c.val.toNat - 48 ≤ 9
  have upper := digit.2
  change c.val.toNat ≤ 57 at upper
  omega

theorem value_lt {digits : List Char} (all : ∀ c ∈ digits, c.isDigit = true) :
    value digits < 10 ^ digits.length := by
  induction digits with
  | nil => decide
  | cons c rest ih =>
    obtain ⟨digit, others⟩ := List.forall_mem_cons.mp all
    have first := sub_le_of_isDigit digit
    have below := ih others
    rw [value_cons, List.length_cons, pow_succ]
    nlinarith only [first, below]

theorem head?_toDigits {n : Nat} (positive : 0 < n) : (Nat.toDigits 10 n).head? ≠ some '0' := by
  induction n using Nat.strongRecOn with
  | ind n ih =>
    by_cases small : n < 10
    · have single : ∀ n < 10, 0 < n → [n.digitChar].head? ≠ some '0' := by decide
      rw [Nat.toDigits_of_lt_base small]
      exact single n small positive
    · have shorter := ih (n / 10) (by omega) (by omega)
      rw [Nat.toDigits_of_base_le (by omega) (by omega)]
      rwa [List.head?_append_of_ne_nil _ (List.ne_nil_of_length_pos Nat.length_toDigits_pos)]

theorem toDigits_lead (n : Nat) :
    (Nat.toDigits 10 n).head? = some '0' → Nat.toDigits 10 n = ['0'] := by
  intro lead
  rcases Nat.eq_zero_or_pos n with rfl | positive
  · rfl
  · exact absurd lead (head?_toDigits positive)

theorem isDigit_of_mem_toDigits {n : Nat} : ∀ c ∈ Nat.toDigits 10 n, c.isDigit = true :=
  fun _ inside => Nat.isDigit_of_mem_toDigits (by omega) (by omega) inside

theorem toDigits_ne_nil (n : Nat) : Nat.toDigits 10 n ≠ [] :=
  List.ne_nil_of_length_pos Nat.length_toDigits_pos

/-- A text that writes a number: digits, perhaps with a plus sign in front. -/
inductive Writes (n : Nat) : List Char → Prop
  | digits (ds) (all : ∀ c ∈ ds, c.isDigit = true) (filled : ds ≠ []) (number : value ds = n) :
      Writes n ds
  | signed (ds) (all : ∀ c ∈ ds, c.isDigit = true) (filled : ds ≠ []) (number : value ds = n) :
      Writes n ('+' :: ds)

theorem read?_eq_some_iff {cs : List Char} {n : Nat} :
    read? cs = some n ↔ (∀ c ∈ cs, c.isDigit = true) ∧ cs ≠ [] ∧ value cs = n := by
  unfold read? value
  by_cases filled : cs = []
  · simp [filled]
  · simp [filled]

theorem readBelow?_eq_some_iff {bound n : Nat} {cs : List Char} :
    readBelow? bound cs = some n ↔ Writes n cs ∧ n < bound := by
  unfold readBelow?
  rw [Option.filter_eq_some_iff, read?_eq_some_iff, decide_eq_true_eq]
  refine and_congr_left fun _ => ?_
  split
  next ds =>
    constructor
    · rintro ⟨all, filled, number⟩
      exact .signed ds all filled number
    · intro writes
      cases writes with
      | digits _ all =>
        have sign := all '+' List.mem_cons_self
        contradiction
      | signed _ all filled number => exact ⟨all, filled, number⟩
  next unsigned =>
    constructor
    · rintro ⟨all, filled, number⟩
      exact .digits cs all filled number
    · intro writes
      cases writes with
      | digits _ all filled number => exact ⟨all, filled, number⟩
      | signed ds => exact absurd rfl (unsigned ds)

theorem readUInt64?_eq_some_iff {n : UInt64} {cs : List Char} :
    readUInt64? cs = some n ↔ Writes n.toNat cs := by
  unfold readUInt64?
  rw [Option.map_eq_some_iff]
  constructor
  · rintro ⟨m, read, rfl⟩
    obtain ⟨writes, below⟩ := readBelow?_eq_some_iff.mp read
    rwa [UInt64.toNat_ofNat_of_lt' below]
  · intro writes
    exact ⟨n.toNat, readBelow?_eq_some_iff.mpr ⟨writes, n.toNat_lt⟩, UInt64.ofNat_toNat⟩

theorem toList_toString (n : UInt64) : (toString n).toList = Nat.toDigits 10 n.toNat := Nat.toList_repr

theorem toString_inj {n m : UInt64} : toString n = toString m ↔ n = m :=
  ⟨fun same => UInt64.toNat_inj.mp (Nat.repr_injective same), congrArg _⟩

theorem writes_toDigits (n : Nat) : Writes n (Nat.toDigits 10 n) :=
  .digits _ isDigit_of_mem_toDigits (toDigits_ne_nil n) (value_toDigits n)

theorem readUInt64?_toDigits (n : UInt64) : readUInt64? (Nat.toDigits 10 n.toNat) = some n :=
  readUInt64?_eq_some_iff.mpr (writes_toDigits n.toNat)

end ContractLaunch.Numeral
