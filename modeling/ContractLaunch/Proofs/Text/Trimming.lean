import ContractLaunch.Text.Blank
import Mathlib.Data.List.DropRight
/-!
Trimming. It takes nothing off a text that has no blanks at its ends, so nothing off one that is
trimmed already; it leaves all words of a text, and it leaves nothing only of a text that is all blank.
-/
namespace ContractLaunch.Text

def wordsIn (cs : List Char) : List (List Char) := (cs.splitOnP isBlank).filter (!·.isEmpty)

theorem wordsIn_append_blank {c : Char} (blank : isBlank c = true) (before after : List Char) :
    wordsIn (before ++ c :: after) = wordsIn before ++ wordsIn after := by
  unfold wordsIn
  rw [List.splitOnP_append_cons before after blank, List.filter_append]

theorem wordsIn_nil : wordsIn [] = [] := rfl

theorem wordsIn_trimStart (cs : List Char) : wordsIn (trimStart cs) = wordsIn cs := by
  induction cs with
  | nil => rfl
  | cons c rest ih =>
    by_cases blank : isBlank c = true
    · have skipped : trimStart (c :: rest) = trimStart rest := List.dropWhile_cons_of_pos blank
      rw [skipped, ih]
      exact (wordsIn_append_blank blank [] rest).symm
    · have kept : trimStart (c :: rest) = c :: rest := List.dropWhile_cons_of_neg blank
      rw [kept]

theorem wordsIn_trimEnd (cs : List Char) : wordsIn (trimEnd cs) = wordsIn cs := by
  induction cs using List.reverseRecOn with
  | nil => rfl
  | append_singleton rest c ih =>
    by_cases blank : isBlank c = true
    · have skipped : trimEnd (rest ++ [c]) = trimEnd rest := List.rdropWhile_concat_pos _ _ _ blank
      rw [skipped, ih, wordsIn_append_blank blank, wordsIn_nil, List.append_nil]
    · have kept : trimEnd (rest ++ [c]) = rest ++ [c] := List.rdropWhile_concat_neg _ _ _ blank
      rw [kept]

theorem words_trimmed (s : String) : words (trimmed s) = words s := by
  change wordsIn (String.ofList (trim s.toList)).toList = wordsIn s.toList
  rw [String.toList_ofList]
  exact (wordsIn_trimEnd _).trans (wordsIn_trimStart _)

theorem trimStart_trim (cs : List Char) : trimStart (trim cs) = trim cs := by
  refine List.dropWhile_eq_self_iff.mpr fun some => ?_
  have within : trim cs <+: trimStart cs := List.rdropWhile_prefix _ _
  have started := List.dropWhile_eq_self_iff.mp (List.dropWhile_idempotent isBlank cs)
  rw [within.getElem some]
  exact started (some.trans_le within.length_le)

theorem trim_eq_nil_iff {cs : List Char} : trim cs = [] ↔ cs.all isBlank = true := by
  rw [List.all_eq_true, ← List.dropWhile_eq_nil_iff (p := isBlank)]
  constructor
  · intro nothing
    have blanks := (List.rdropWhile_eq_nil_iff (p := isBlank)).mp nothing
    by_contra some
    exact List.dropWhile_eq_self_iff.mp (List.dropWhile_idempotent isBlank cs)
      (List.length_pos_iff.mpr some) (blanks _ (List.getElem_mem _))
  · intro nothing
    unfold trim trimStart
    rw [nothing]
    rfl

theorem isEmpty_trimmed (s : String) : (trimmed s).isEmpty = isAllBlank s := by
  rw [Bool.eq_iff_iff]
  refine Iff.trans ?_ trim_eq_nil_iff
  rw [String.isEmpty_iff]
  exact String.ofList_eq_empty_iff

theorem isBlank_of_printable {c : Char} (low : 0x21 ≤ c.toNat) (high : c.toNat ≤ 0x7E) :
    isBlank c = false := by
  simp only [isBlank, Bool.or_eq_false_iff, Bool.and_eq_false_iff, decide_eq_false_iff_not,
    beq_eq_false_iff_ne]
  omega

theorem isBlank_of_isDigit {c : Char} (digit : c.isDigit = true) : isBlank c = false := by
  simp only [Char.isDigit, Bool.and_eq_true, decide_eq_true_eq, ge_iff_le,
    UInt32.le_iff_toNat_le, Char.reduceVal, UInt32.reduceToNat] at digit
  have low : 0x21 ≤ c.toNat := by
    change 0x21 ≤ c.val.toNat
    omega
  have high : c.toNat ≤ 0x7E := by
    change c.val.toNat ≤ 0x7E
    omega
  exact isBlank_of_printable low high

theorem trim_eq_self {cs : List Char} (begun : ∀ c ∈ cs.head?, isBlank c = false)
    (ended : ∀ c ∈ cs.getLast?, isBlank c = false) : trim cs = cs := by
  have started : trimStart cs = cs := by
    cases cs with
    | nil => rfl
    | cons c rest => exact List.dropWhile_cons_of_neg (by simp [begun c rfl])
  unfold trim
  rw [started]
  rcases List.eq_nil_or_concat' cs with rfl | ⟨front, last, rfl⟩
  · rfl
  · have visible : isBlank last = false := ended last (by simp)
    exact List.rdropWhile_concat_neg _ _ _ (by simp [visible])

theorem head?_trim (cs : List Char) : ∀ c ∈ (trim cs).head?, isBlank c = false := by
  intro c first
  have stopped := List.head?_dropWhile_not isBlank (trim cs)
  have kept : (trim cs).dropWhile isBlank = trim cs := trimStart_trim cs
  rw [kept, Option.mem_def.mp first] at stopped
  exact stopped

theorem getLast?_trim (cs : List Char) : ∀ c ∈ (trim cs).getLast?, isBlank c = false := by
  intro c last
  have some : trim cs ≠ [] := by
    intro nothing
    rw [nothing] at last
    cases last
  rw [List.getLast?_eq_some_getLast some] at last
  obtain rfl := Option.some.inj last
  have stopped : ¬ isBlank ((trim cs).getLast some) = true :=
    List.rdropWhile_last_not isBlank (trimStart cs) some
  simpa using stopped

end ContractLaunch.Text
