import ContractLaunch.Settings.Validation
import Mathlib.Algebra.Order.Floor.Div
import Mathlib.Order.Bounds.Basic
/-!
The fee of a gas limit. Its amount is the least whole number of coins that covers the cost, so a gas
limit that is paid in two parts costs the same or one coin more. A fee is refused for the size of its
cost in atoms, though, of which there are 10¹⁸ to a coin: so there are fees that are refused and would
fit.
-/
namespace ContractLaunch.Fee

section Rounding

variable {unit m n k : Nat}

theorem ceilDiv_le_iff (positive : 0 < unit) : n ⌈/⌉ unit ≤ k ↔ n ≤ k * unit := by
  rw [ceilDiv_le_iff_le_mul positive, Nat.mul_comm]

theorem le_ceilDiv_mul (positive : 0 < unit) (n : Nat) : n ≤ n ⌈/⌉ unit * unit :=
  (ceilDiv_le_iff positive).mp le_rfl

theorem ceilDiv_mul_lt (positive : 0 < unit) (n : Nat) : n ⌈/⌉ unit * unit < n + unit := by
  rw [Nat.ceilDiv_eq_add_pred_div]
  have floor := Nat.div_mul_le_self (n + unit - 1) unit
  omega

theorem ceilDiv_mono (positive : 0 < unit) (le : m ≤ n) : m ⌈/⌉ unit ≤ n ⌈/⌉ unit := by
  apply (ceilDiv_le_iff positive).mpr
  exact le.trans (le_ceilDiv_mul positive n)

theorem ceilDiv_add_le (positive : 0 < unit) (m n : Nat) :
    (m + n) ⌈/⌉ unit ≤ m ⌈/⌉ unit + n ⌈/⌉ unit := by
  apply (ceilDiv_le_iff positive).mpr
  rw [Nat.add_mul]
  exact Nat.add_le_add (le_ceilDiv_mul positive m) (le_ceilDiv_mul positive n)

theorem ceilDiv_add (positive : 0 < unit) (m n : Nat) :
    m ⌈/⌉ unit + n ⌈/⌉ unit = (m + n) ⌈/⌉ unit ∨ m ⌈/⌉ unit + n ⌈/⌉ unit = (m + n) ⌈/⌉ unit + 1 := by
  have least := ceilDiv_add_le positive m n
  have most : (m ⌈/⌉ unit + n ⌈/⌉ unit) * unit < ((m + n) ⌈/⌉ unit + 2) * unit := by
    have first := ceilDiv_mul_lt positive m
    have second := ceilDiv_mul_lt positive n
    have whole := le_ceilDiv_mul positive (m + n)
    simp only [Nat.add_mul]
    omega
  have bound := Nat.lt_of_mul_lt_mul_right most
  omega

theorem ceilDiv_add_of_dvd (positive : 0 < unit) (whole : unit ∣ m) (n : Nat) :
    m ⌈/⌉ unit + n ⌈/⌉ unit = (m + n) ⌈/⌉ unit := by
  obtain ⟨k, rfl⟩ := whole
  have exact : unit * k ⌈/⌉ unit = k := by
    apply le_antisymm
    · simp [ceilDiv_le_iff positive, Nat.mul_comm]
    · apply Nat.le_of_mul_le_mul_right _ positive
      simpa [Nat.mul_comm] using le_ceilDiv_mul positive (unit * k)
  have sum := le_ceilDiv_mul positive (unit * k + n)
  have fits : k ≤ (unit * k + n) ⌈/⌉ unit := by
    apply Nat.le_of_mul_le_mul_right _ positive
    rw [Nat.mul_comm k]
    omega
  have rest : n ⌈/⌉ unit ≤ (unit * k + n) ⌈/⌉ unit - k := by
    apply (ceilDiv_le_iff positive).mpr
    rw [Nat.sub_mul, Nat.mul_comm k]
    omega
  have least := ceilDiv_add_le positive (unit * k) n
  omega

end Rounding

/-- What a gas limit costs at a price, in atoms. -/
def cost (gasLimit : UInt64) (price : GasPrice) : Nat := price.amount.atoms.val * gasLimit.toNat

/-- What a gas limit costs at a price, in coins, rounded up. -/
def due (gasLimit : UInt64) (price : GasPrice) : Nat := cost gasLimit price ⌈/⌉ 10 ^ 18

/-- A fee for a gas limit in the token of a price: one coin, the least amount that covers the cost. -/
structure Covers (gasLimit : UInt64) (price : GasPrice) (fee : Fee) (amount : Nat) : Prop where
  limit : fee.gasLimit = gasLimit
  coin : ∃ coin : Coin, fee.amount = [coin] ∧ coin.denom = price.denom ∧ coin.amount.val = amount
  least : IsLeast {n | cost gasLimit price ≤ n * 10 ^ 18} amount

variable {gasLimit gasLimit' : UInt64} {price price' : GasPrice} {fee : Fee}

theorem cost_add {first second : UInt64} (fits : first.toNat + second.toNat ≤ 2 ^ 64 - 1)
    (price : GasPrice) : cost (first + second) price = cost first price + cost second price := by
  have sum : (first + second).toNat = first.toNat + second.toNat := by
    rw [UInt64.toNat_add]
    omega
  simp [cost, sum, Nat.mul_add]

theorem cost_mono (limits : gasLimit ≤ gasLimit') (prices : price.amount.atoms ≤ price'.amount.atoms) :
    cost gasLimit price ≤ cost gasLimit' price' :=
  Nat.mul_le_mul prices limits

theorem due_isLeast (gasLimit : UInt64) (price : GasPrice) :
    IsLeast {n | cost gasLimit price ≤ n * 10 ^ 18} (due gasLimit price) := by
  constructor
  · exact le_ceilDiv_mul (by simp) _
  · intro n covers
    exact (ceilDiv_le_iff (by simp)).mpr covers

theorem due_le_cost (gasLimit : UInt64) (price : GasPrice) : due gasLimit price ≤ cost gasLimit price := by
  apply (ceilDiv_le_iff (by simp)).mpr
  omega

theorem due_eq (gasLimit : UInt64) (price : GasPrice) :
    due gasLimit price = (cost gasLimit price + (Decimal.one - 1)) / Decimal.one := by
  have one : Decimal.one = 10 ^ 18 := rfl
  rw [due, Nat.ceilDiv_eq_add_pred_div, one, Nat.add_sub_assoc (by simp)]

theorem compute_of_lt (positive : 0 < gasLimit) (fits : cost gasLimit price < Amount.size) :
    ∃ amount : Amount, amount.val = due gasLimit price ∧
      compute gasLimit price = .ok ⟨gasLimit, [⟨price.denom, amount⟩]⟩ := by
  have bound := (due_le_cost gasLimit price).trans_lt fits
  refine ⟨⟨due gasLimit price, bound⟩, rfl, ?_⟩
  rw [compute, if_neg (UInt64.pos_iff_ne_zero.mp positive)]
  simp only [cost] at fits
  simp [fits, due_eq, cost]

theorem compute_of_le (positive : 0 < gasLimit) (large : Amount.size ≤ cost gasLimit price) :
    compute gasLimit price = .error (.overflow gasLimit) := by
  rw [compute, if_neg (UInt64.pos_iff_ne_zero.mp positive)]
  simp only [cost] at large
  simp [Nat.not_lt.mpr large]

theorem pos_of_compute (computed : compute gasLimit price = .ok fee) : 0 < gasLimit := by
  apply UInt64.pos_iff_ne_zero.mpr
  intro zero
  simp [compute, zero] at computed

theorem compute_eq_overflow_iff (positive : 0 < gasLimit) :
    compute gasLimit price = .error (.overflow gasLimit) ↔ Amount.size ≤ cost gasLimit price := by
  constructor
  · intro refused
    by_contra fits
    obtain ⟨amount, -, computed⟩ := compute_of_lt positive (Nat.not_le.mp fits)
    rw [refused] at computed
    contradiction
  · exact compute_of_le positive

theorem compute_eq_ok_iff : compute gasLimit price = .ok fee ↔
    0 < gasLimit ∧ cost gasLimit price < Amount.size ∧
      ∃ amount : Amount, amount.val = due gasLimit price ∧ fee = ⟨gasLimit, [⟨price.denom, amount⟩]⟩ := by
  constructor
  · intro computed
    have positive := pos_of_compute computed
    have fits : cost gasLimit price < Amount.size := by
      by_contra large
      rw [compute_of_le positive (Nat.not_lt.mp large)] at computed
      contradiction
    obtain ⟨amount, same, found⟩ := compute_of_lt positive fits
    rw [found] at computed
    exact ⟨positive, fits, amount, same, (Except.ok.inj computed).symm⟩
  · intro given
    obtain ⟨positive, fits, amount, same, rfl⟩ := given
    obtain ⟨found, exact, computed⟩ := compute_of_lt positive fits
    rw [computed, Fin.ext (same.trans exact.symm)]

theorem exists_compute_iff (positive : 0 < gasLimit) :
    (∃ fee, compute gasLimit price = .ok fee) ↔ cost gasLimit price < Amount.size := by
  constructor
  · intro given
    obtain ⟨fee, computed⟩ := given
    exact (compute_eq_ok_iff.mp computed).2.1
  · intro fits
    obtain ⟨amount, -, computed⟩ := compute_of_lt positive fits
    exact ⟨_, computed⟩

theorem covers_of_compute (computed : compute gasLimit price = .ok fee) :
    Covers gasLimit price fee (due gasLimit price) := by
  obtain ⟨-, -, amount, same, rfl⟩ := compute_eq_ok_iff.mp computed
  exact ⟨rfl, ⟨_, rfl, rfl, same⟩, due_isLeast gasLimit price⟩

/-- A gas limit can be paid in two parts whenever it can be paid at once. The parts cost as many coins
as the whole or one coin more, and no more if one of them costs a whole number of coins. A larger gas
limit or a higher price never costs less. -/
theorem compute_in_parts (price : GasPrice) :
    (∀ first second : UInt64, 0 < first → 0 < second → first.toNat + second.toNat ≤ 2 ^ 64 - 1 →
      ∀ whole, compute (first + second) price = .ok whole →
        ∃ fee fee' a b c, compute first price = .ok fee ∧ compute second price = .ok fee' ∧
          Covers first price fee a ∧ Covers second price fee' b ∧ Covers (first + second) price whole c ∧
          (a + b = c ∨ a + b = c + 1) ∧ (10 ^ 18 ∣ cost first price → a + b = c)) ∧
    ∀ gasLimit gasLimit' price' fee fee', compute gasLimit price = .ok fee →
      compute gasLimit' price' = .ok fee' → gasLimit ≤ gasLimit' →
      price.amount.atoms ≤ price'.amount.atoms →
        ∃ a b, Covers gasLimit price fee a ∧ Covers gasLimit' price' fee' b ∧ a ≤ b := by
  have unit : 0 < 10 ^ 18 := by simp
  constructor
  · intro first second positive positive' fits whole computed
    obtain ⟨-, below, -⟩ := compute_eq_ok_iff.mp computed
    have sum := cost_add fits price
    obtain ⟨a, -, paid⟩ := compute_of_lt positive (show cost first price < Amount.size by omega)
    obtain ⟨b, -, paid'⟩ := compute_of_lt positive' (show cost second price < Amount.size by omega)
    refine ⟨_, _, _, _, _, paid, paid', covers_of_compute paid, covers_of_compute paid',
      covers_of_compute computed, ?_, ?_⟩
    · simp only [due, sum]
      exact ceilDiv_add unit _ _
    · intro exact
      simp only [due, sum]
      exact ceilDiv_add_of_dvd unit exact _
  · intro gasLimit gasLimit' price' fee fee' computed computed' limits prices
    exact ⟨_, _, covers_of_compute computed, covers_of_compute computed',
      ceilDiv_mono unit (cost_mono limits prices)⟩

def halfPrice : GasPrice := ⟨⟨⟨500000000000000000, by decide⟩⟩, "uatom"⟩

def doublePrice : GasPrice := ⟨⟨⟨2000000000000000000, by decide⟩⟩, "uatom"⟩

/-- At half a coin for a unit of gas, three units and five cost two coins and three, and eight cost
four. -/
theorem compute_in_parts_halves :
    ((3 : UInt64).toNat + (5 : UInt64).toNat ≤ 2 ^ 64 - 1 ∧
      compute (3 + 5) halfPrice = .ok ⟨8, [⟨"uatom", 4⟩]⟩ ∧
      ∃ fee fee' a b c, compute 3 halfPrice = .ok fee ∧ compute 5 halfPrice = .ok fee' ∧
        Covers 3 halfPrice fee a ∧ Covers 5 halfPrice fee' b ∧
        Covers (3 + 5) halfPrice ⟨8, [⟨"uatom", 4⟩]⟩ c ∧
        (a + b = c ∨ a + b = c + 1) ∧ (10 ^ 18 ∣ cost 3 halfPrice → a + b = c)) ∧
    (compute 3 halfPrice = .ok ⟨3, [⟨"uatom", 2⟩]⟩ ∧ compute 5 doublePrice = .ok ⟨5, [⟨"uatom", 10⟩]⟩ ∧
      ∃ a b, Covers 3 halfPrice ⟨3, [⟨"uatom", 2⟩]⟩ a ∧ Covers 5 doublePrice ⟨5, [⟨"uatom", 10⟩]⟩ b ∧
        a ≤ b) := by
  have fits : (3 : UInt64).toNat + (5 : UInt64).toNat ≤ 2 ^ 64 - 1 := by simp
  have eight : compute (3 + 5) halfPrice = .ok ⟨8, [⟨"uatom", 4⟩]⟩ := by decide
  have three : compute 3 halfPrice = .ok ⟨3, [⟨"uatom", 2⟩]⟩ := by decide
  have five : compute 5 doublePrice = .ok ⟨5, [⟨"uatom", 10⟩]⟩ := by decide
  obtain ⟨parts, mono⟩ := compute_in_parts halfPrice
  exact ⟨⟨fits, eight, parts 3 5 (by simp) (by simp) fits _ eight⟩,
    three, five, mono 3 5 doublePrice _ _ three five (by simp) (by decide)⟩

/-- The atoms that a gas limit costs do not fit in 128 bits, although its coins do. -/
def FitsInCoinsOnly (gasLimit : UInt64) (price : GasPrice) : Prop :=
  Amount.size ≤ cost gasLimit price ∧ cost gasLimit price ≤ (Amount.size - 1) * 10 ^ 18

theorem due_lt_size_iff :
    due gasLimit price < Amount.size ↔ cost gasLimit price ≤ (Amount.size - 1) * 10 ^ 18 := by
  have unit : 0 < 10 ^ 18 := by simp
  rw [← ceilDiv_le_iff unit]
  exact Nat.lt_iff_le_pred (by simp)

theorem due_upload_lt (price : GasPrice) : due uploadGasLimit price < Amount.size := by
  have bound := price.amount.atoms.isLt
  have limit : uploadGasLimit.toNat = 3000000 := rfl
  rw [due_lt_size_iff, cost, limit]
  simp only [Amount.size] at *
  omega

/-- A fee is refused as too large, and else computed, exactly as its amount tells, unless the atoms that
it costs do not fit in 128 bits and its coins do. The coins of an upload always fit, and yet it cannot
be paid for at every price. -/
theorem overflow_right_iff (gasLimit : UInt64) (price : GasPrice) (positive : 0 < gasLimit) :
    IsLeast {n | cost gasLimit price ≤ n * 10 ^ 18} (due gasLimit price) ∧
    ((compute gasLimit price = .error (.overflow gasLimit) ↔ Amount.size ≤ due gasLimit price) ↔
      ¬ FitsInCoinsOnly gasLimit price) ∧
    ((due gasLimit price < Amount.size →
        ∃ fee, compute gasLimit price = .ok fee ∧ Covers gasLimit price fee (due gasLimit price)) ↔
      ¬ FitsInCoinsOnly gasLimit price) ∧
    due uploadGasLimit price < Amount.size ∧
    ((∃ fee, compute uploadGasLimit price = .ok fee) ↔
      price.amount.atoms.val * 3000000 < 2 ^ 128) := by
  have coins : due gasLimit price < Amount.size ↔ _ := due_lt_size_iff
  have below := due_le_cost gasLimit price
  refine ⟨due_isLeast gasLimit price, ?_, ?_, due_upload_lt price, ?_⟩
  · rw [compute_eq_overflow_iff positive, FitsInCoinsOnly, ← coins]
    omega
  · have covered : (∃ fee, compute gasLimit price = .ok fee ∧
        Covers gasLimit price fee (due gasLimit price)) ↔ cost gasLimit price < Amount.size := by
      rw [← exists_compute_iff positive]
      apply exists_congr
      intro fee
      exact and_iff_left_of_imp covers_of_compute
    rw [covered, FitsInCoinsOnly, ← coins]
    omega
  · apply exists_compute_iff
    simp [uploadGasLimit]

def costly : Configuration where
  settings := { Settings.standard with gasPrice := "200000000000000" }
  deployerMnemonic := none
  testerMnemonic := none

def costlyPrice : GasPrice := ⟨⟨⟨200000000000000000000000000000000, by decide⟩⟩, "ustake"⟩

theorem costly_valid : costly.validate = .ok () := by decide +kernel

theorem costly_price : costly.settings.price = .ok costlyPrice := by decide +kernel

theorem costly_overflow : compute uploadGasLimit costlyPrice = .error (.overflow uploadGasLimit) := by
  decide

theorem costly_due : due uploadGasLimit costlyPrice = 600000000000000000000 := by
  rw [due_eq]
  decide

theorem overflow_right_iff_costly :
    0 < uploadGasLimit ∧
    IsLeast {n | cost uploadGasLimit costlyPrice ≤ n * 10 ^ 18} (due uploadGasLimit costlyPrice) ∧
    ((compute uploadGasLimit costlyPrice = .error (.overflow uploadGasLimit) ↔
        Amount.size ≤ due uploadGasLimit costlyPrice) ↔
      ¬ FitsInCoinsOnly uploadGasLimit costlyPrice) ∧
    ((due uploadGasLimit costlyPrice < Amount.size →
        ∃ fee, compute uploadGasLimit costlyPrice = .ok fee ∧
          Covers uploadGasLimit costlyPrice fee (due uploadGasLimit costlyPrice)) ↔
      ¬ FitsInCoinsOnly uploadGasLimit costlyPrice) ∧
    due uploadGasLimit costlyPrice < Amount.size ∧
    ((∃ fee, compute uploadGasLimit costlyPrice = .ok fee) ↔
      costlyPrice.amount.atoms.val * 3000000 < 2 ^ 128) := by
  have positive : 0 < uploadGasLimit := by decide
  exact ⟨positive, overflow_right_iff uploadGasLimit costlyPrice positive⟩

/-- So a fee can be refused as too large although it is not, and a configuration that passes its checks
can hold a price at which no upload can be paid for. -/
theorem overflow_not_always_right :
    (¬ ∀ (gasLimit : UInt64) (price : GasPrice), 0 < gasLimit →
      (compute gasLimit price = .error (.overflow gasLimit) ↔ Amount.size ≤ due gasLimit price)) ∧
    ¬ ∀ c : Configuration, c.validate = .ok () → ∀ price, c.settings.price = .ok price →
      ∃ fee, compute uploadGasLimit price = .ok fee := by
  constructor
  · intro always
    have large := (always uploadGasLimit costlyPrice (by decide)).mp costly_overflow
    rw [costly_due] at large
    revert large
    decide
  · intro always
    obtain ⟨fee, computed⟩ := always costly costly_valid costlyPrice costly_price
    rw [costly_overflow] at computed
    contradiction

end ContractLaunch.Fee
