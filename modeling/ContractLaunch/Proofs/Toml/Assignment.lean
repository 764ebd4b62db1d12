import ContractLaunch.Proofs.Text.Numeral
import ContractLaunch.Proofs.Toml.Tables
import Mathlib
/-!
A line that gives a number to a name, as the first line of a document. Its numeral is read as a 64-bit
integer with a sign, and as nothing at all when it is too large for one; if it is read, the rest of the
document is read as it was without the line.
-/
namespace ContractLaunch.Toml

/-- The text of a positive number: digits, and the first of them is not zero. -/
structure IsNumeral (cs : List Char) : Prop where
  digits : ∀ c ∈ cs, c.isDigit = true
  filled : cs ≠ []
  leading : cs.head? ≠ some '0'

theorem isNumeral_toDigits {n : Nat} (positive : 0 < n) : IsNumeral (Nat.toDigits 10 n) where
  digits := Numeral.isDigit_of_mem_toDigits
  filled := Numeral.toDigits_ne_nil n
  leading := Numeral.head?_toDigits positive

namespace IsNumeral

variable {cs : List Char} (numeral : IsNumeral cs)
include numeral

theorem not_mem {c : Char} (other : c.isDigit = false) : c ∉ cs := by
  intro inside
  rw [numeral.digits c inside] at other
  contradiction

theorem ne {c d : Char} (inside : c ∈ cs) (other : d.isDigit = false) : c ≠ d := by
  rintro rfl
  exact numeral.not_mem other inside

theorem ungrouped? : Scalar.ungrouped? Char.isDigit cs = some cs := by
  unfold Scalar.ungrouped?
  rw [List.splitOn_eq_singleton (numeral.not_mem rfl)]
  simp [numeral.filled, List.all_eq_true.mpr numeral.digits]

theorem decimal? : Scalar.decimal? cs = some cs := by
  unfold Scalar.decimal?
  rw [if_neg (by simp [numeral.leading])]
  exact numeral.ungrouped?

theorem splitSign : Scalar.splitSign cs = (false, cs) := by
  unfold Scalar.splitSign
  split
  · exact absurd List.mem_cons_self (numeral.not_mem rfl)
  · exact absurd List.mem_cons_self (numeral.not_mem rfl)
  · rfl

theorem integer? : Scalar.integer? cs =
    (Numeral.read? cs).bind fun n => if Scalar.isInt64 n then some (n : Int) else none := by
  unfold Scalar.integer?
  split
  · exact absurd rfl numeral.leading
  · exact absurd rfl numeral.leading
  · exact absurd rfl numeral.leading
  · rw [numeral.splitSign]
    simp [numeral.decimal?]

theorem finite? : Scalar.finite? cs = none := by
  have plain : ∀ c ∈ cs, c ≠ '.' ∧ c ≠ 'e' ∧ c ≠ 'E' := fun c inside =>
    ⟨numeral.ne inside rfl, numeral.ne inside rfl, numeral.ne inside rfl⟩
  have mantissa : cs.takeWhile (fun c => !(c = 'e' || c = 'E' : Bool)) = cs :=
    List.takeWhile_eq_self_iff.mpr fun c inside => by simp [plain c inside]
  have whole : cs.takeWhile (· ≠ '.') = cs :=
    List.takeWhile_eq_self_iff.mpr fun c inside => by simp [plain c inside]
  have exponent : cs.any (fun c => c = 'e' || c = 'E') = false :=
    List.any_eq_false.mpr fun c inside => by simp [plain c inside]
  have point : cs.contains '.' = false := by simpa using numeral.not_mem rfl
  unfold Scalar.finite?
  rw [numeral.splitSign]
  dsimp only
  rw [mantissa, whole, exponent, point, numeral.decimal?]
  rfl

theorem mark? {c : Char} (other : c.isDigit = false) (n : Nat) : Datetime.mark? c (cs.drop n) = none := by
  unfold Datetime.mark?
  split
  · rfl
  next d rest dropped =>
    have inside : d ∈ cs := List.mem_of_mem_drop (dropped ▸ List.mem_cons_self)
    exact if_neg (numeral.ne inside other).symm

theorem date? : Datetime.date? cs = none := by
  unfold Datetime.date?
  simp [numeral.mark? (c := '-') rfl 4]

theorem time? : Datetime.time? cs = none := by
  unfold Datetime.time?
  have later : ∀ hour rest, Datetime.pair? 0 23 cs = some (hour, rest) → rest = cs.drop 2 := by
    intro hour rest read
    unfold Datetime.pair? at read
    split at read
    · obtain ⟨n, -, bounded⟩ := Option.bind_eq_some_iff.mp read
      split at bounded
      · cases bounded
        rfl
      · contradiction
    · contradiction
  cases read : Datetime.pair? 0 23 cs with
  | none => rfl
  | some found =>
    obtain ⟨hour, rest⟩ := found
    obtain rfl := later hour rest read
    simp [numeral.mark? (c := ':') rfl 2]

theorem read? : Scalar.read? cs = (Scalar.integer? cs).map .integer := by
  have apart : ∀ c others, c.isDigit = false → cs ≠ c :: others := by
    rintro c others other rfl
    exact numeral.not_mem other List.mem_cons_self
  have normal : Datetime.normal? cs = none := by
    unfold Datetime.normal?
    rw [numeral.date?, numeral.time?]
  have plain : cs ∉ Scalar.specialWords := by
    intro inside
    rcases List.mem_pair.mp inside with same | same
    · exact apart _ _ rfl same
    · exact apart _ _ rfl same
  unfold Scalar.read?
  rw [if_neg (apart _ _ rfl), if_neg (apart _ _ rfl), numeral.splitSign, normal, numeral.finite?,
    if_neg fun contained => plain (List.contains_iff_mem.mp contained)]
  cases Scalar.integer? cs <;> rfl

end IsNumeral

theorem isInt64_natCast {n : Nat} : Scalar.isInt64 n = decide (n < 2 ^ 63) := by
  unfold Scalar.isInt64
  rw [Bool.eq_iff_iff]
  simp only [Bool.and_eq_true, decide_eq_true_eq]
  omega

theorem read?_toDigits {n : Nat} (positive : 0 < n) :
    Scalar.read? (Nat.toDigits 10 n) = if n < 2 ^ 63 then some (.integer n) else none := by
  have numeral := isNumeral_toDigits positive
  rw [numeral.read?, numeral.integer?, Numeral.read?_toDigits, Option.bind_some, isInt64_natCast]
  by_cases small : n < 2 ^ 63
  · simp only [small, decide_true, if_true, Option.map_some]
  · simp only [small, decide_false, Bool.false_eq_true, if_false, Option.map_none]

section Line

variable {cs rest : List Char} {name : List Char}

theorem IsNumeral.isWordChar (numeral : IsNumeral cs) : ∀ c ∈ cs, Scalar.isWordChar c = true := by
  intro c inside
  simp [Scalar.isWordChar, Char.isAlphanum, numeral.digits c inside]

theorem IsNumeral.word (numeral : IsNumeral cs) (rest : List Char) :
    Scalar.word (cs ++ '\n' :: rest) = (cs, '\n' :: rest) := by
  have taken : (cs ++ '\n' :: rest).takeWhile Scalar.isWordChar = cs := by
    rw [List.takeWhile_append_of_pos numeral.isWordChar, List.takeWhile_cons_of_neg (by decide),
      List.append_nil]
  have left : (cs ++ '\n' :: rest).dropWhile Scalar.isWordChar = '\n' :: rest := by
    rw [List.dropWhile_append_of_pos numeral.isWordChar, List.dropWhile_cons_of_neg (by decide)]
  unfold Scalar.word
  dsimp only
  rw [taken, left, numeral.date?]

theorem IsNumeral.value? (numeral : IsNumeral cs) :
    Toml.value? (cs ++ '\n' :: rest) = (Scalar.read? cs).map (·, '\n' :: rest) := by
  have started : startValue? [] (cs ++ '\n' :: rest) =
      (Scalar.read? cs).map fun v => (.next v, '\n' :: rest) := by
    have word := numeral.word rest
    obtain ⟨c, others, rfl⟩ := List.exists_cons_of_ne_nil numeral.filled
    have digit := numeral.digits c List.mem_cons_self
    rw [List.cons_append] at word ⊢
    unfold startValue?
    split
    case h_1 first | h_2 first | h_3 first | h_4 first =>
      cases first
      contradiction
    case h_5 => rw [word]
  unfold Toml.value? readValue?
  rw [started]
  cases Scalar.read? cs with
  | none => rfl
  | some v =>
    have longer : (cs ++ '\n' :: rest).length = cs.length + rest.length + 1 := by
      rw [List.length_append, List.length_cons]
      omega
    rw [longer]
    rfl

theorem bare_ne {c d : Char} (bare : isBareChar c = true) (other : isBareChar d = false) : c ≠ d := by
  rintro rfl
  rw [bare] at other
  contradiction

theorem not_isBlank_of_bare {c : Char} (bare : isBareChar c = true) : ¬ isBlank c = true := by
  simp [isBlank, bare_ne bare (d := ' ') rfl, bare_ne bare (d := '\t') rfl]

theorem isBareChar_of_isDigit {c : Char} (digit : c.isDigit = true) : isBareChar c = true := by
  simp [isBareChar, Char.isAlphanum, digit]

theorem key?_bare (bare : ∀ c ∈ name, isBareChar c = true) (filled : name ≠ []) (rest : List Char) :
    key? (name ++ ' ' :: '=' :: rest) = some (⟨[], String.ofList name⟩, '=' :: rest) := by
  have taken : (name ++ ' ' :: '=' :: rest).takeWhile isBareChar = name := by
    rw [List.takeWhile_append_of_pos bare, List.takeWhile_cons_of_neg (by decide), List.append_nil]
  have left : (name ++ ' ' :: '=' :: rest).dropWhile isBareChar = ' ' :: '=' :: rest := by
    rw [List.dropWhile_append_of_pos bare, List.dropWhile_cons_of_neg (by decide)]
  have step : keyStep? (name ++ ' ' :: '=' :: rest) = some (String.ofList name, ' ' :: '=' :: rest) := by
    have unquoted : Quoted.line? (name ++ ' ' :: '=' :: rest) = none := by
      obtain ⟨c, others, rfl⟩ := List.exists_cons_of_ne_nil filled
      have first := bare c List.mem_cons_self
      unfold Quoted.line?
      split
      next same => exact absurd (List.cons.inj same).1 (bare_ne first rfl)
      next same => exact absurd (List.cons.inj same).1 (bare_ne first rfl)
      next => rfl
    unfold keyStep?
    rw [unquoted, taken, left]
    simp [filled]
  have start : (name ++ ' ' :: '=' :: rest).dropWhile isBlank = name ++ ' ' :: '=' :: rest := by
    obtain ⟨c, others, rfl⟩ := List.exists_cons_of_ne_nil filled
    exact List.dropWhile_cons_of_neg (not_isBlank_of_bare (bare c List.mem_cons_self))
  unfold key? nestingLimit keySteps?
  rw [start, step]
  rfl

theorem change?_numeral (bare : ∀ c ∈ name, isBareChar c = true) (filled : name ≠ [])
    (numeral : IsNumeral cs) (rest : List Char) :
    change? (name ++ ' ' :: '=' :: ' ' :: (cs ++ '\n' :: rest)) =
      (Scalar.read? cs).map fun v => (.assign ⟨[], String.ofList name⟩ v, rest) := by
  have key := key?_bare bare filled (' ' :: (cs ++ '\n' :: rest))
  have assigned : assignment? (name ++ ' ' :: '=' :: ' ' :: (cs ++ '\n' :: rest)) =
      (Scalar.read? cs).map fun v => (.assign ⟨[], String.ofList name⟩ v, rest) := by
    have value : (' ' :: (cs ++ '\n' :: rest)).dropWhile isBlank = cs ++ '\n' :: rest := by
      obtain ⟨c, others, rfl⟩ := List.exists_cons_of_ne_nil numeral.filled
      have digit := numeral.digits c List.mem_cons_self
      rw [List.dropWhile_cons_of_pos (by decide)]
      exact List.dropWhile_cons_of_neg (not_isBlank_of_bare (isBareChar_of_isDigit digit))
    unfold assignment?
    rw [key]
    simp only [Option.bind_eq_bind, Option.bind_some]
    rw [value, numeral.value?]
    cases Scalar.read? cs with
    | none => rfl
    | some v => rfl
  obtain ⟨c, others, rfl⟩ := List.exists_cons_of_ne_nil filled
  have first := bare c List.mem_cons_self
  rw [← assigned, List.cons_append, change?]
  all_goals
    intro others same
    exact absurd (List.cons.inj same).1 (bare_ne first rfl)

end Line

theorem lookup_closeMembers (ms : Members) (key : String) :
    (closeMembers ms).lookup key = (ms.lookup key).map Draft.close := by
  induction ms with
  | nil => rfl
  | cons first rest ih =>
    obtain ⟨k, d⟩ := first
    rw [closeMembers, List.lookup_cons, List.lookup_cons]
    split
    · rfl
    · exact ih

section Document

variable {name cs : List Char} {document edited : String}

/-- The first line gives the number to the name, and the others follow. -/
theorem read?_numeral_line (bare : ∀ c ∈ name, isBareChar c = true) (filled : name ≠ [])
    (numeral : IsNumeral cs)
    (first : withoutMark edited.toList =
      name ++ ' ' :: '=' :: ' ' :: (cs ++ '\n' :: withoutMark document.toList)) :
    Toml.read? edited = (Scalar.read? cs).bind fun v =>
      (Document.lines? (withoutMark edited.toList).length
        (Document.front ⟨[], []⟩ (String.ofList name) (.value v)) (withoutMark document.toList)).map
          fun d => closeMembers d.top := by
  have changed := change?_numeral bare filled numeral (withoutMark document.toList)
  rw [← first] at changed
  have shown : ∃ c others, withoutMark edited.toList = c :: others ∧ ¬ isBlank c = true := by
    obtain ⟨c, others, rfl⟩ := List.exists_cons_of_ne_nil filled
    exact ⟨c, _, first, not_isBlank_of_bare (bare c List.mem_cons_self)⟩
  obtain ⟨c, others, same, visible⟩ := shown
  unfold Toml.read? Document.lines?
  dsimp only
  rw [same] at changed ⊢
  rw [List.dropWhile_cons_of_neg visible]
  dsimp only
  rw [Document.line?_eq, changed]
  cases Scalar.read? cs <;> rfl

/-- A document that does not use a name, with a numeral given to it in front, reads as before and has
the number in addition. -/
theorem read?_numeral_first (bare : ∀ c ∈ name, isBareChar c = true) (filled : name ≠ [])
    (numeral : IsNumeral cs)
    (first : withoutMark edited.toList =
      name ++ ' ' :: '=' :: ' ' :: (cs ++ '\n' :: withoutMark document.toList)) {v : Toml}
    (value : Scalar.read? cs = some v) {members : List (String × Toml)}
    (read : Toml.read? document = some members) (unused : members.lookup (String.ofList name) = none) :
    Toml.read? edited = some ((String.ofList name, v) :: members) := by
  obtain ⟨later, lines, rfl⟩ := Option.map_eq_some_iff.mp read
  rw [lookup_closeMembers, Option.map_eq_none_iff] at unused
  have enough : (withoutMark document.toList).length + 1 ≤ (withoutMark edited.toList).length := by
    rw [first]
    simp
    omega
  obtain ⟨-, moved⟩ := Document.lines?_front lines unused enough
  rw [read?_numeral_line bare filled numeral first, value, Option.bind_some, moved]
  rfl

end Document

end ContractLaunch.Toml
