import ContractLaunch.Proofs.Decimal.Reading
import Mathlib.Data.List.DropRight
/-!
Printing decimals. A fraction is padded to eighteen digits and loses its zeros at the end; what is left
writes the same atoms, so the text of a decimal reads back as the decimal, and it is the same for all
texts that write one number.
-/
namespace ContractLaunch.Decimal

/-- A text that writes a decimal and has nothing superfluous: a whole digit at least, no zero before
another whole digit, a point only before a fraction, and no zero at the end of a fraction. -/
structure IsCanonical (cs whole fraction : List Char) : Prop extends Writes cs whole fraction where
  whole_filled : whole ≠ []
  whole_lead : whole.head? = some '0' → whole = ['0']
  point_needed : '.' ∈ cs → fraction ≠ []
  fraction_end : fraction.getLast? ≠ some '0'

section Fraction

variable {n : Nat}

def padded (n : Nat) : List Char :=
  List.replicate (18 - (Nat.toDigits 10 n).length) '0' ++ Nat.toDigits 10 n

theorem fractionDigits_eq (n : Nat) : fractionDigits n = List.rdropWhile (· = '0') (padded n) := rfl

theorem length_padded (below : n < 10 ^ 18) : (padded n).length = 18 := by
  have short : (Nat.toDigits 10 n).length ≤ 18 :=
    (Nat.length_toDigits_le_iff (by decide) (by decide)).mpr below
  rw [padded, List.length_append, List.length_replicate, Nat.sub_add_cancel short]

theorem value_padded (n : Nat) : Numeral.value (padded n) = n := by
  rw [padded, Numeral.value_append, Numeral.value_zeros, Numeral.value_toDigits, Nat.zero_mul,
    Nat.zero_add]

theorem padded_eq (n : Nat) :
    ∃ k, padded n = fractionDigits n ++ List.replicate k '0' := by
  have zeros : ∀ c ∈ List.rtakeWhile (· = '0') (padded n), c = '0' := by
    intro c inside
    simpa using List.mem_rtakeWhile_imp inside
  refine ⟨(List.rtakeWhile (· = '0') (padded n)).length, ?_⟩
  rw [← List.eq_replicate_of_mem zeros]
  exact List.rdropWhile_append_rtakeWhile.symm

theorem isDigit_of_mem_padded : ∀ c ∈ padded n, c.isDigit = true := by
  intro c inside
  rcases List.mem_append.mp inside with zero | digit
  · rw [List.eq_of_mem_replicate zero]
    rfl
  · exact Numeral.isDigit_of_mem_toDigits c digit

/-- The digits of a fraction count the same atoms whether or not zeros follow them. -/
theorem value_fractionDigits (below : n < 10 ^ 18) : (fractionDigits n).length ≤ 18 ∧
    Numeral.value (fractionDigits n) * 10 ^ (18 - (fractionDigits n).length) = n := by
  obtain ⟨k, split⟩ := padded_eq n
  have length := congrArg List.length split
  have value := congrArg Numeral.value split
  rw [length_padded below, List.length_append, List.length_replicate] at length
  rw [value_padded, Numeral.value_append, Numeral.value_zeros, List.length_replicate, Nat.add_zero] at value
  have rest : 18 - (fractionDigits n).length = k := by omega
  exact ⟨by omega, by rw [rest, ← value]⟩

end Fraction

theorem fractionDigits_ne_nil {n : Nat} (positive : 0 < n) : fractionDigits n ≠ [] := by
  intro nothing
  obtain ⟨k, split⟩ := padded_eq n
  have value := congrArg Numeral.value split
  rw [value_padded, nothing, List.nil_append, Numeral.value_zeros] at value
  omega

theorem isDigit_of_mem_fractionDigits {n : Nat} : ∀ c ∈ fractionDigits n, c.isDigit = true :=
  fun c inside => isDigit_of_mem_padded c ((List.rdropWhile_prefix _ _).mem inside)

theorem getLast?_fractionDigits (n : Nat) : (fractionDigits n).getLast? ≠ some '0' := by
  intro zero
  have filled : List.rdropWhile (· = '0') (padded n) ≠ [] := by
    rintro nothing
    rw [fractionDigits_eq, nothing] at zero
    cases zero
  have stopped := List.rdropWhile_last_not (· = '0') (padded n) filled
  rw [fractionDigits_eq, List.getLast?_eq_getLast_of_ne_nil filled, Option.some.injEq] at zero
  simp [zero] at stopped

theorem writes_whole (n : Nat) : IsCanonical (Nat.toDigits 10 n) (Nat.toDigits 10 n) [] where
  form := .inl ⟨rfl, rfl⟩
  digits := by
    rw [List.append_nil]
    exact Numeral.isDigit_of_mem_toDigits
  filled := by simp
  short := by decide
  whole_filled := Numeral.toDigits_ne_nil n
  whole_lead := Numeral.toDigits_lead n
  point_needed point := by
    have digit := Numeral.isDigit_of_mem_toDigits _ point
    contradiction
  fraction_end := nofun

theorem writes_fraction (n : Nat) {rest : Nat} (positive : 0 < rest) (below : rest < 10 ^ 18) :
    IsCanonical (Nat.toDigits 10 n ++ '.' :: fractionDigits rest) (Nat.toDigits 10 n)
      (fractionDigits rest) where
  form := .inr rfl
  digits := List.forall_mem_append.mpr
    ⟨Numeral.isDigit_of_mem_toDigits, isDigit_of_mem_fractionDigits⟩
  filled := by simp
  short := (value_fractionDigits below).1
  whole_filled := Numeral.toDigits_ne_nil n
  whole_lead := Numeral.toDigits_lead n
  point_needed _ := fractionDigits_ne_nil positive
  fraction_end := getLast?_fractionDigits rest

theorem canonical_written (d : Decimal) : ∃ whole fraction,
    IsCanonical d.written whole fraction ∧ atomsOf whole fraction = d.atoms.val := by
  have sum : d.atoms.val / one * 10 ^ 18 + d.atoms.val % one = d.atoms.val :=
    Nat.div_add_mod' d.atoms.val one
  have below : d.atoms.val % one < 10 ^ 18 := Nat.mod_lt _ (by decide)
  rcases Nat.eq_zero_or_pos (d.atoms.val % one) with round | positive
  · have text : d.written = Nat.toDigits 10 (d.atoms.val / one) := if_pos round
    rw [round] at sum
    rw [text]
    refine ⟨_, [], writes_whole _, ?_⟩
    rw [atomsOf_eq (by decide), Numeral.value_toDigits]
    exact sum
  · have text : d.written =
        Nat.toDigits 10 (d.atoms.val / one) ++ '.' :: fractionDigits (d.atoms.val % one) :=
      if_neg positive.ne'
    obtain ⟨short, value⟩ := value_fractionDigits below
    rw [text]
    refine ⟨_, _, writes_fraction _ positive below, ?_⟩
    rw [atomsOf_eq short, Numeral.value_toDigits, value, sum]

theorem toList_toString (d : Decimal) : (toString d).toList = d.written := String.toList_ofList

theorem read?_written (d : Decimal) : read? d.written = some d := by
  obtain ⟨whole, fraction, canonical, atoms⟩ := canonical_written d
  exact read?_eq_some_iff.mpr ⟨whole, fraction, canonical.toWrites, atoms.symm⟩

theorem parse_toString (d : Decimal) : parse (toString d) = .ok d := by
  rw [parse_eq_ok_iff, toList_toString]
  exact read?_written d

theorem toString_inj {a b : Decimal} : toString a = toString b ↔ a = b := by
  constructor
  · intro same
    have read := parse_toString a
    rw [same, parse_toString] at read
    exact (Except.ok.inj read).symm
  · rintro rfl
    rfl

/-- Every decimal reads back from its text, and the text has nothing superfluous; so texts that are read
are printed alike exactly if they write one number. -/
theorem printing_canonical :
    (∀ d : Decimal, parse (toString d) = .ok d ∧
      ∃ whole fraction, IsCanonical (toString d).toList whole fraction) ∧
    ∀ s t a b, parse s = .ok a → parse t = .ok b →
      (toString a = toString b ↔ ∃ q, Denotes s.toList q ∧ Denotes t.toList q) := by
  constructor
  · intro d
    obtain ⟨whole, fraction, canonical, -⟩ := canonical_written d
    exact ⟨parse_toString d, whole, fraction, toList_toString d ▸ canonical⟩
  · intro s t a b first second
    rw [parse_eq_ok_iff] at first second
    obtain ⟨p, left⟩ := denotes_of_read? first
    obtain ⟨q, right⟩ := denotes_of_read? second
    have same : a = b ↔ p = q := by
      rw [← atoms_eq_iff (atoms_eq_of_denotes first left) (atoms_eq_of_denotes second right),
        Decimal.mk.injEq, Fin.ext_iff]
    rw [toString_inj, same]
    constructor
    · rintro rfl
      exact ⟨p, left, right⟩
    · rintro ⟨common, onLeft, onRight⟩
      rw [left.unique onLeft, right.unique onRight]

end ContractLaunch.Decimal
