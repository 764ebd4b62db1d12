import ContractLaunch.Fee
import ContractLaunch.Proofs.Text.Numeral
import Mathlib
/-!
Reading decimals. The texts that write one are given by their grammar, each with the number of atoms
and the rational number that it writes; a text is read exactly if it is one of them and its atoms fit in
128 bits, and what is read are those atoms, although reading computes with 128 bits at every step.
-/
namespace ContractLaunch

namespace Amount

theorem lt_size_of_isDigit {c : Char} (digit : c.isDigit = true) : c.toNat - '0'.toNat < size :=
  (Numeral.sub_le_of_isDigit digit).trans_lt (by decide)

theorem extend?_eq_some_iff {n a : Amount} {c : Char} (digit : c.isDigit = true) :
    extend? n c = some a ↔ a.val = 10 * n.val + (c.toNat - '0'.toNat) := by
  have exact : (wrap (c.toNat - '0'.toNat)).val = c.toNat - '0'.toNat :=
    Nat.mod_eq_of_lt (lt_size_of_isDigit digit)
  have ten : (10 : Amount).val = 10 := rfl
  unfold extend? mul? add?
  rw [Option.bind_eq_some_iff, ten, exact]
  constructor
  · rintro ⟨tens, multiplied, added⟩
    rw [ofNat?_eq_some_iff] at multiplied added
    omega
  · intro same
    have bound := a.isLt
    refine ⟨⟨n.val * 10, by omega⟩, ofNat?_eq_some_iff.mpr rfl, ofNat?_eq_some_iff.mpr ?_⟩
    dsimp only
    omega

theorem foldlM_extend?_eq_some_iff {digits : List Char} (all : ∀ c ∈ digits, c.isDigit = true)
    {n a : Amount} : digits.foldlM extend? n = some a ↔ a.val = Nat.ofDigitChars 10 digits n.val := by
  induction digits generalizing n with
  | nil => simp [Fin.ext_iff, eq_comm]
  | cons c rest ih =>
    obtain ⟨digit, others⟩ := List.forall_mem_cons.mp all
    rw [List.foldlM_cons, Nat.ofDigitChars_cons, Option.bind_eq_bind, Option.bind_eq_some_iff]
    constructor
    · rintro ⟨m, extended, read⟩
      rw [(ih others).mp read, (extend?_eq_some_iff digit).mp extended]
    · intro same
      have bound := a.isLt
      -- the number only grows from here on, so that it fits now if it fits in the end
      have grown : 10 * n.val + (c.toNat - '0'.toNat) ≤ a.val := by
        rw [same, Numeral.ofDigitChars_eq]
        have place := Nat.one_le_pow rest.length 10 (by decide)
        nlinarith only [place]
      refine ⟨⟨_, grown.trans_lt bound⟩, (extend?_eq_some_iff digit).mpr rfl, ?_⟩
      exact (ih others).mpr same

theorem ofDigits?_eq_some_iff {digits : List Char} (all : ∀ c ∈ digits, c.isDigit = true)
    {a : Amount} : ofDigits? digits = some a ↔ a.val = Numeral.value digits :=
  foldlM_extend?_eq_some_iff all

theorem val_powerOfTen {k : Nat} (small : k ≤ 38) : (powerOfTen k).val = 10 ^ k :=
  Nat.mod_eq_of_lt ((Nat.pow_le_pow_right (by decide) small).trans_lt (by decide))

end Amount

namespace Decimal

/-- A text that writes a decimal with these digits before and after the point. -/
structure Writes (cs whole fraction : List Char) : Prop where
  form : cs = whole ∧ fraction = [] ∨ cs = whole ++ '.' :: fraction
  digits : ∀ c ∈ whole ++ fraction, c.isDigit = true
  filled : whole ++ fraction ≠ []
  short : fraction.length ≤ 18

/-- The number of atoms that digits before and after the point write. -/
def atomsOf (whole fraction : List Char) : Nat :=
  (Numeral.value whole * 10 ^ fraction.length + Numeral.value fraction) *
    10 ^ (18 - fraction.length)

def valueOf (whole fraction : List Char) : ℚ :=
  Numeral.value whole + Numeral.value fraction / 10 ^ fraction.length

section Parts

variable {cs whole fraction : List Char}

theorem ne_point_of_isDigit (digits : ∀ c ∈ whole, c.isDigit = true) :
    ∀ c ∈ whole, decide (c ≠ '.') = true := by
  intro c inside
  have digit := digits c inside
  rw [decide_eq_true_eq]
  rintro rfl
  contradiction

theorem parts_eq_of_point (digits : ∀ c ∈ whole, c.isDigit = true) :
    parts (whole ++ '.' :: fraction) = (whole, fraction) := by
  have apart := ne_point_of_isDigit digits
  unfold parts
  rw [List.takeWhile_append_of_pos apart, List.dropWhile_append_of_pos apart]
  simp

theorem parts_eq_of_digits (digits : ∀ c ∈ whole, c.isDigit = true) : parts whole = (whole, []) := by
  have apart := ne_point_of_isDigit digits
  unfold parts
  rw [List.takeWhile_eq_self_iff.mpr apart, List.dropWhile_eq_nil_iff.mpr apart]
  rfl

theorem parts_form (cs : List Char) :
    cs = (parts cs).1 ∧ (parts cs).2 = [] ∨ cs = (parts cs).1 ++ '.' :: (parts cs).2 := by
  have split := List.takeWhile_append_dropWhile (p := (· ≠ '.')) (l := cs)
  have point := List.head?_dropWhile_not (· ≠ '.') cs
  unfold parts
  cases left : cs.dropWhile (· ≠ '.') with
  | nil =>
    rw [left, List.append_nil] at split
    exact .inl ⟨split.symm, rfl⟩
  | cons first rest =>
    rw [left] at split point
    obtain rfl : first = '.' := by simpa using point
    exact .inr split.symm

theorem Writes.parts_eq (writes : Writes cs whole fraction) : parts cs = (whole, fraction) := by
  obtain ⟨before, -⟩ := List.forall_mem_append.mp writes.digits
  rcases writes.form with ⟨rfl, rfl⟩ | rfl
  · exact parts_eq_of_digits before
  · exact parts_eq_of_point before

end Parts

section Values

variable {whole fraction : List Char}

theorem one_eq_mul (short : fraction.length ≤ 18) :
    10 ^ fraction.length * 10 ^ (18 - fraction.length) = 10 ^ 18 := by
  rw [← pow_add, Nat.add_sub_cancel' short]

theorem atomsOf_eq (short : fraction.length ≤ 18) :
    atomsOf whole fraction =
      Numeral.value whole * 10 ^ 18 + Numeral.value fraction * 10 ^ (18 - fraction.length) := by
  rw [atomsOf, Nat.add_mul, Nat.mul_assoc, one_eq_mul short]

theorem atomsOf_eq_valueOf (short : fraction.length ≤ 18) :
    (atomsOf whole fraction : ℚ) = valueOf whole fraction * 10 ^ 18 := by
  have scale : (10 : ℚ) ^ 18 = 10 ^ fraction.length * 10 ^ (18 - fraction.length) := by
    exact_mod_cast (one_eq_mul short).symm
  have place : (10 : ℚ) ^ fraction.length ≠ 0 := by positivity
  rw [atomsOf, valueOf, scale]
  push_cast
  field_simp

/-- What reading a fraction computes with 128 bits: its digits, the power of ten of the places that are
left, and their product, none of which wraps around. -/
structure Unwrapped (fraction : List Char) (digits : Amount) : Prop where
  read : Amount.ofDigits? fraction = some digits
  digits_exact : digits.val = Numeral.value fraction
  power_exact : (Amount.powerOfTen (places - fraction.length)).val = 10 ^ (18 - fraction.length)
  product_exact : (digits * Amount.powerOfTen (places - fraction.length)).val =
    Numeral.value fraction * 10 ^ (18 - fraction.length)

theorem exists_unwrapped (all : ∀ c ∈ fraction, c.isDigit = true) (short : fraction.length ≤ 18) :
    ∃ digits, Unwrapped fraction digits := by
  have below := Numeral.value_lt all
  have product : Numeral.value fraction * 10 ^ (18 - fraction.length) < 10 ^ 18 := by
    rw [← one_eq_mul short]
    exact Nat.mul_lt_mul_of_pos_right below (by positivity)
  have fits : Numeral.value fraction < Amount.size :=
    (below.trans_le (Nat.pow_le_pow_right (by decide) short)).trans (by decide)
  have power := Amount.val_powerOfTen (k := places - fraction.length) (by unfold places; omega)
  refine ⟨⟨_, fits⟩, (Amount.ofDigits?_eq_some_iff all).mpr rfl, rfl, power, ?_⟩
  rw [Fin.val_mul, power]
  exact Nat.mod_eq_of_lt (product.trans (by decide))

end Values

section Reading

variable {cs whole fraction : List Char} {d : Decimal}

theorem ofParts?_eq_some : ofParts? whole fraction = some d ↔
    ∃ units rest scaled, Amount.ofDigits? whole = some units ∧ fractionAtoms? fraction = some rest ∧
      Amount.mul? units (Amount.powerOfTen places) = some scaled ∧
      Amount.add? scaled rest = some d.atoms := by
  unfold ofParts?
  simp only [Option.bind_eq_bind, Option.bind_eq_some_iff, Option.pure_def, Option.some.injEq]
  constructor
  · rintro ⟨units, whole, rest, fraction, atoms, ⟨scaled, product, sum⟩, rfl⟩
    exact ⟨units, rest, scaled, whole, fraction, product, sum⟩
  · rintro ⟨units, rest, scaled, whole, fraction, product, sum⟩
    exact ⟨units, whole, rest, fraction, d.atoms, ⟨scaled, product, sum⟩, rfl⟩

theorem ofParts?_eq_some_iff (digits : ∀ c ∈ whole ++ fraction, c.isDigit = true)
    (short : fraction.length ≤ 18) :
    ofParts? whole fraction = some d ↔ d.atoms.val = atomsOf whole fraction := by
  obtain ⟨before, after⟩ := List.forall_mem_append.mp digits
  obtain ⟨digits, unwrapped⟩ := exists_unwrapped after short
  have one : (Amount.powerOfTen places).val = 10 ^ 18 := by
    rw [places, Amount.val_powerOfTen (by decide)]
  rw [ofParts?_eq_some, atomsOf_eq short, ← unwrapped.product_exact]
  constructor
  · rintro ⟨units, rest, scaled, read, fractional, product, sum⟩
    rw [fractionAtoms?, unwrapped.read, Option.map_some, Option.some.injEq] at fractional
    rw [Amount.ofDigits?_eq_some_iff before] at read
    rw [Amount.mul?, Amount.ofNat?_eq_some_iff, one, read] at product
    rw [Amount.add?, Amount.ofNat?_eq_some_iff, product, ← fractional] at sum
    exact sum
  · intro same
    have bound := d.atoms.isLt
    have scaled : Numeral.value whole * 10 ^ 18 < Amount.size :=
      (Nat.le_add_right _ _).trans_lt (same ▸ bound)
    have units : Numeral.value whole < Amount.size := (Nat.le_mul_of_pos_right _ (by decide)).trans_lt scaled
    refine ⟨⟨_, units⟩, _, ⟨_, scaled⟩, (Amount.ofDigits?_eq_some_iff before).mpr rfl,
      by rw [fractionAtoms?, unwrapped.read, Option.map_some], ?_, ?_⟩
    · rw [Amount.mul?, Amount.ofNat?_eq_some_iff, one]
    · rw [Amount.add?, Amount.ofNat?_eq_some_iff, same]

theorem Writes.read?_eq (writes : Writes cs whole fraction) : read? cs = ofParts? whole fraction := by
  obtain ⟨before, after⟩ := List.forall_mem_append.mp writes.digits
  have filled : ¬ (whole.isEmpty && fraction.isEmpty) = true := by
    simpa [List.isEmpty_iff] using writes.filled
  have checked : ¬ (!whole.all Char.isDigit || !fraction.all Char.isDigit ||
      decide (places < fraction.length)) = true := by
    have short : ¬ places < fraction.length := Nat.not_lt.mpr writes.short
    simp [List.all_eq_true.mpr before, List.all_eq_true.mpr after, short]
  unfold read?
  rw [writes.parts_eq]
  dsimp only
  rw [if_neg filled, if_neg checked]

theorem writes_of_read? (read : read? cs = some d) : ∃ whole fraction, Writes cs whole fraction := by
  have form := parts_form cs
  unfold read? at read
  generalize parts cs = both at form read
  obtain ⟨whole, fraction⟩ := both
  dsimp only at form read
  split at read
  · cases read
  next filled =>
  split at read
  · cases read
  next checked =>
  simp only [Bool.or_eq_true, Bool.not_eq_true', decide_eq_true_eq, not_or, Bool.not_eq_false,
    List.all_eq_true, not_lt] at checked
  obtain ⟨⟨before, after⟩, short⟩ := checked
  exact ⟨whole, fraction, form, List.forall_mem_append.mpr ⟨before, after⟩, by simpa using filled, short⟩

/-- A text is read exactly if it writes a decimal whose atoms fit in 128 bits. -/
theorem read?_eq_some_iff :
    read? cs = some d ↔
      ∃ whole fraction, Writes cs whole fraction ∧ d.atoms.val = atomsOf whole fraction := by
  constructor
  · intro read
    obtain ⟨whole, fraction, writes⟩ := writes_of_read? read
    rw [writes.read?_eq, ofParts?_eq_some_iff writes.digits writes.short] at read
    exact ⟨whole, fraction, writes, read⟩
  · rintro ⟨whole, fraction, writes, atoms⟩
    rw [writes.read?_eq, ofParts?_eq_some_iff writes.digits writes.short, atoms]

end Reading

def Denotes (cs : List Char) (q : ℚ) : Prop :=
  ∃ whole fraction, Writes cs whole fraction ∧ q = valueOf whole fraction

theorem Writes.unique {cs whole fraction whole' fraction' : List Char}
    (writes : Writes cs whole fraction) (also : Writes cs whole' fraction') :
    whole = whole' ∧ fraction = fraction' := by
  have same := writes.parts_eq.symm.trans also.parts_eq
  exact Prod.mk.inj same

theorem Denotes.unique {cs : List Char} {p q : ℚ} (denotes : Denotes cs p) (also : Denotes cs q) :
    p = q := by
  obtain ⟨_, _, writes, rfl⟩ := denotes
  obtain ⟨_, _, other, rfl⟩ := also
  obtain ⟨rfl, rfl⟩ := writes.unique other
  rfl

theorem atoms_eq_of_denotes {cs : List Char} {d : Decimal} {q : ℚ} (read : read? cs = some d)
    (denotes : Denotes cs q) : (d.atoms.val : ℚ) = q * 10 ^ 18 := by
  obtain ⟨whole, fraction, writes, rfl⟩ := denotes
  rw [writes.read?_eq, ofParts?_eq_some_iff writes.digits writes.short] at read
  rw [read, atomsOf_eq_valueOf writes.short]

theorem denotes_of_read? {cs : List Char} {d : Decimal} (read : read? cs = some d) :
    ∃ q, Denotes cs q := by
  obtain ⟨whole, fraction, writes, -⟩ := read?_eq_some_iff.mp read
  exact ⟨_, whole, fraction, writes, rfl⟩

theorem Writes.zeros {cs whole fraction : List Char} (writes : Writes cs whole fraction) (k : Nat) :
    Writes (List.replicate k '0' ++ cs) (List.replicate k '0' ++ whole) fraction where
  form := by
    rcases writes.form with ⟨rfl, rfl⟩ | rfl
    · exact .inl ⟨rfl, rfl⟩
    · exact .inr (List.append_assoc _ _ _).symm
  digits := by
    intro c inside
    rw [List.append_assoc] at inside
    rcases List.mem_append.mp inside with zero | inside
    · rw [List.eq_of_mem_replicate zero]
      rfl
    · exact writes.digits c inside
  filled := by simp [writes.filled]
  short := writes.short

theorem atomsOf_zeros (k : Nat) (whole fraction : List Char) :
    atomsOf (List.replicate k '0' ++ whole) fraction = atomsOf whole fraction := by
  rw [atomsOf, atomsOf, Numeral.value_append, Numeral.value_zeros, Nat.zero_mul, Nat.zero_add]

theorem read?_zeros {cs : List Char} {d : Decimal} (read : read? cs = some d) (k : Nat) :
    read? (List.replicate k '0' ++ cs) = some d := by
  obtain ⟨whole, fraction, writes, atoms⟩ := read?_eq_some_iff.mp read
  exact read?_eq_some_iff.mpr
    ⟨_, _, writes.zeros k, atoms.trans (atomsOf_zeros k whole fraction).symm⟩

section Order

variable {a b : Decimal} {p q : ℚ}

theorem compare_eq (a b : Decimal) : compare a b = compare a.atoms.val b.atoms.val := rfl

theorem atoms_lt_iff (left : (a.atoms.val : ℚ) = p * 10 ^ 18) (right : (b.atoms.val : ℚ) = q * 10 ^ 18) :
    a.atoms.val < b.atoms.val ↔ p < q := by
  have one : (0 : ℚ) < 10 ^ 18 := by positivity
  have rational : a.atoms.val < b.atoms.val ↔ (a.atoms.val : ℚ) < b.atoms.val := Nat.cast_lt.symm
  rw [rational, left, right]
  exact mul_lt_mul_iff_of_pos_right one

theorem atoms_eq_iff (left : (a.atoms.val : ℚ) = p * 10 ^ 18) (right : (b.atoms.val : ℚ) = q * 10 ^ 18) :
    a.atoms.val = b.atoms.val ↔ p = q := by
  have one : (10 : ℚ) ^ 18 ≠ 0 := by positivity
  have rational : a.atoms.val = b.atoms.val ↔ (a.atoms.val : ℚ) = b.atoms.val := Nat.cast_inj.symm
  rw [rational, left, right]
  exact mul_left_inj' one

theorem compare_of_atoms (left : (a.atoms.val : ℚ) = p * 10 ^ 18)
    (right : (b.atoms.val : ℚ) = q * 10 ^ 18) :
    (compare a b = .lt ↔ p < q) ∧ (compare a b = .eq ↔ p = q) ∧ (compare a b = .gt ↔ q < p) := by
  rw [compare_eq, compare_lt_iff_lt, compare_eq_iff_eq, compare_gt_iff_gt]
  exact ⟨atoms_lt_iff left right, atoms_eq_iff left right, atoms_lt_iff right left⟩

end Order

theorem parse_eq_ok_iff {s : String} {d : Decimal} : parse s = .ok d ↔ read? s.toList = some d := by
  unfold parse
  cases read? s.toList <;> simp

theorem parse_eq_error_iff {s : String} :
    parse s = .error (.invalidDecimal s) ↔ read? s.toList = none := by
  unfold parse
  cases read? s.toList <;> simp

/-- What a decimal may be is decided by its grammar and by the size of an amount alone: of what is
computed on the way nothing wraps around, zeros in front do not matter, and decimals are in the order of
the numbers that were written. -/
theorem parse_exact (s : String) :
    (∀ d, parse s = .ok d ↔ ∃ whole fraction, Writes s.toList whole fraction ∧
      atomsOf whole fraction ≤ 2 ^ 128 - 1 ∧ d.atoms.val = atomsOf whole fraction) ∧
    (parse s = .error (.invalidDecimal s) ↔ ¬ ∃ whole fraction, Writes s.toList whole fraction ∧
      atomsOf whole fraction ≤ 2 ^ 128 - 1) ∧
    (∀ whole fraction, Writes s.toList whole fraction → ∃ digits, Unwrapped fraction digits) ∧
    (∀ k d, parse s = .ok d → parse (String.ofList (List.replicate k '0') ++ s) = .ok d) ∧
    ∀ t a b p q, parse s = .ok a → parse t = .ok b → Denotes s.toList p → Denotes t.toList q →
      (compare a b = .lt ↔ p < q) ∧ (compare a b = .eq ↔ p = q) ∧ (compare a b = .gt ↔ q < p) := by
  have size : Amount.size = 2 ^ 128 := rfl
  refine ⟨?_, ?_, ?_, ?_, ?_⟩
  · intro d
    rw [parse_eq_ok_iff, read?_eq_some_iff]
    have bound := d.atoms.isLt
    constructor
    · rintro ⟨whole, fraction, writes, atoms⟩
      exact ⟨whole, fraction, writes, by omega, atoms⟩
    · rintro ⟨whole, fraction, writes, -, atoms⟩
      exact ⟨whole, fraction, writes, atoms⟩
  · rw [parse_eq_error_iff]
    constructor
    · rintro refused ⟨whole, fraction, writes, fits⟩
      have fits : atomsOf whole fraction < Amount.size := by omega
      have read : read? s.toList = some ⟨⟨_, fits⟩⟩ := read?_eq_some_iff.mpr ⟨_, _, writes, rfl⟩
      rw [refused] at read
      cases read
    · intro none_written
      cases read : read? s.toList with
      | none => rfl
      | some d =>
        obtain ⟨whole, fraction, writes, atoms⟩ := read?_eq_some_iff.mp read
        have bound := d.atoms.isLt
        exact absurd ⟨whole, fraction, writes, by omega⟩ none_written
  · intro whole fraction writes
    exact exists_unwrapped (List.forall_mem_append.mp writes.digits).2 writes.short
  · intro k d parsed
    rw [parse_eq_ok_iff] at parsed ⊢
    rw [String.toList_append, String.toList_ofList]
    exact read?_zeros parsed k
  · intro t a b p q first second left right
    exact compare_of_atoms (atoms_eq_of_denotes (parse_eq_ok_iff.mp first) left)
      (atoms_eq_of_denotes (parse_eq_ok_iff.mp second) right)

/-- The largest decimal is read, and the text of the next one is refused. -/
theorem parse_exact_largest :
    parse "340282366920938463463.374607431768211455" = .ok ⟨⟨2 ^ 128 - 1, by decide⟩⟩ ∧
    parse "340282366920938463463.374607431768211456" =
      .error (.invalidDecimal "340282366920938463463.374607431768211456") := by
  have whole : Numeral.value "340282366920938463463".toList = 340282366920938463463 := by
    decide +kernel
  have atoms {fraction : List Char} (places : fraction.length = 18) :
      atomsOf "340282366920938463463".toList fraction =
        340282366920938463463000000000000000000 + Numeral.value fraction := by
    rw [atomsOf, whole, places]
    norm_num
  have writes (cs fraction : List Char) (form : cs = "340282366920938463463".toList ++ '.' :: fraction)
      (digits : fraction.all Char.isDigit = true) (places : fraction.length = 18) :
      Writes cs "340282366920938463463".toList fraction := by
    refine ⟨.inr form, List.forall_mem_append.mpr ⟨?_, List.all_eq_true.mp digits⟩, ?_, places.le⟩
    · exact List.all_eq_true.mp (by decide +kernel)
    · simp
  constructor
  · have fraction : Numeral.value "374607431768211455".toList = 374607431768211455 := by
      decide +kernel
    have largest := writes "340282366920938463463.374607431768211455".toList
      "374607431768211455".toList (by decide +kernel) (by decide +kernel) (by decide +kernel)
    refine ((parse_exact _).1 _).mpr ⟨_, _, largest, ?_, ?_⟩
    · rw [atoms (by decide +kernel), fraction]
      decide
    · rw [atoms (by decide +kernel), fraction]
      rfl
  · have fraction : Numeral.value "374607431768211456".toList = 374607431768211456 := by
      decide +kernel
    have next := writes "340282366920938463463.374607431768211456".toList
      "374607431768211456".toList (by decide +kernel) (by decide +kernel) (by decide +kernel)
    refine (parse_exact _).2.1.mpr ?_
    rintro ⟨_, _, other, fits⟩
    obtain ⟨rfl, rfl⟩ := next.unique other
    rw [atoms (by decide +kernel), fraction] at fits
    revert fits
    decide

end Decimal

end ContractLaunch
