import ContractLaunch.Json.Token
import Mathlib
/-!
How numbers and texts may be spelled in JSON. A number has a whole part without superfluous zeros, and
perhaps a fraction and an exponent; in a text characters stand for themselves or are escaped. Every
spelling is scanned as what it spells, up to where it ends.
-/
namespace ContractLaunch

namespace NumberLiteral

structure IsDigits (cs : List Char) : Prop where
  digits : ∀ c ∈ cs, c.isDigit = true
  filled : cs ≠ []

inductive FractionSpelled : (fraction cs : List Char) → Prop
  | none : FractionSpelled [] []
  | some (digits) (isDigits : IsDigits digits) : FractionSpelled digits ('.' :: digits)

inductive ExponentSpelled : (exponent : Option (Bool × List Char)) → (cs : List Char) → Prop
  | none : ExponentSpelled none []
  | negative (mark digits) (isMark : mark = 'e' ∨ mark = 'E') (isDigits : IsDigits digits) :
      ExponentSpelled (some (true, digits)) (mark :: '-' :: digits)
  | positive (mark digits) (isMark : mark = 'e' ∨ mark = 'E') (isDigits : IsDigits digits) :
      ExponentSpelled (some (false, digits)) (mark :: '+' :: digits)
  | unsigned (mark digits) (isMark : mark = 'e' ∨ mark = 'E') (isDigits : IsDigits digits) :
      ExponentSpelled (some (false, digits)) (mark :: digits)

/-- A spelling of a number. A whole part of more than one digit does not start with a zero. -/
structure Spelled (n : NumberLiteral) (cs : List Char) : Prop where
  whole : IsDigits n.whole
  lead : n.whole.head? = some '0' → n.whole = ['0']
  parts : ∃ fraction exponent, FractionSpelled n.fraction fraction ∧
    ExponentSpelled n.exponent exponent ∧
    cs = (if n.negative then ['-'] else []) ++ (n.whole ++ (fraction ++ exponent))

/-- What may follow a number: nothing that would go on with it. -/
def Stops (rest : List Char) : Prop :=
  ∀ c ∈ rest.head?, c.isDigit = false ∧ c ≠ '.' ∧ c ≠ 'e' ∧ c ≠ 'E'

theorem spanDigits_append {digits rest : List Char} (all : ∀ c ∈ digits, c.isDigit = true)
    (boundary : ∀ c ∈ rest.head?, c.isDigit = false) : spanDigits (digits ++ rest) = (digits, rest) := by
  have stop : rest.takeWhile Char.isDigit = [] ∧ rest.dropWhile Char.isDigit = rest := by
    cases rest with
    | nil => exact ⟨rfl, rfl⟩
    | cons c rest => simp [boundary c rfl]
  rw [spanDigits, List.takeWhile_append_of_pos all, List.dropWhile_append_of_pos all, stop.1, stop.2,
    List.append_nil]

section Scan

variable {n : NumberLiteral} {cs digits rest : List Char}

theorem IsDigits.exists_cons (isDigits : IsDigits digits) :
    ∃ d ds, digits = d :: ds ∧ d.isDigit = true ∧ d ≠ '-' ∧ d ≠ '+' := by
  obtain ⟨d, ds, rfl⟩ := List.exists_cons_of_ne_nil isDigits.filled
  have digit := isDigits.digits d List.mem_cons_self
  refine ⟨d, ds, rfl, digit, ?_, ?_⟩
  · rintro rfl
    contradiction
  · rintro rfl
    contradiction

theorem scanExponent?_spelled {mark : Char} {exponent : Bool × List Char}
    (spelled : ExponentSpelled (some exponent) (mark :: cs)) (stops : Stops rest) :
    scanExponent? (cs ++ rest) = some (exponent, rest) := by
  cases spelled with
  | negative _ digits _ isDigits | positive _ digits _ isDigits =>
    have span := spanDigits_append isDigits.digits fun c first => (stops c first).1
    simp [scanExponent?, span, isDigits.filled]
  | unsigned _ digits _ isDigits =>
    have span := spanDigits_append isDigits.digits fun c first => (stops c first).1
    obtain ⟨d, ds, rfl, -, minus, plus⟩ := isDigits.exists_cons
    rw [List.cons_append] at span ⊢
    simp [scanExponent?, span, minus, plus]

theorem scanFraction?_spelled {fraction : List Char} (spelled : FractionSpelled fraction cs)
    (boundary : ∀ c ∈ rest.head?, c.isDigit = false ∧ c ≠ '.') :
    scanFraction? (cs ++ rest) = some (fraction, rest) := by
  cases spelled with
  | none =>
    rw [List.nil_append]
    cases rest with
    | nil => rfl
    | cons c rest => simp [scanFraction?, (boundary c rfl).2]
  | some digits isDigits =>
    have span := spanDigits_append isDigits.digits fun c first => (boundary c first).1
    simp [scanFraction?, span, isDigits.filled]

theorem head?_exponent {exponent : Option (Bool × List Char)} (spelled : ExponentSpelled exponent cs)
    (stops : Stops rest) : ∀ c ∈ (cs ++ rest).head?, c.isDigit = false ∧ c ≠ '.' := by
  have ofMark {mark : Char} (isMark : mark = 'e' ∨ mark = 'E') : mark.isDigit = false ∧ mark ≠ '.' := by
    rcases isMark with rfl | rfl <;> decide
  cases spelled with
  | none => exact fun c first => ⟨(stops c first).1, (stops c first).2.1⟩
  | negative mark _ isMark | positive mark _ isMark | unsigned mark _ isMark =>
    intro c first
    obtain rfl := Option.some.inj first
    exact ofMark isMark

theorem scanTail?_spelled (negative : Bool) (whole : List Char)
    {fraction fractionText exponentText : List Char} {exponent : Option (Bool × List Char)}
    (fractional : FractionSpelled fraction fractionText)
    (scaled : ExponentSpelled exponent exponentText) (stops : Stops rest) :
    scanTail? negative whole (fractionText ++ (exponentText ++ rest)) =
      some (⟨negative, whole, fraction, exponent⟩, rest) := by
  have scanned := scanFraction?_spelled fractional (head?_exponent scaled stops)
  unfold scanTail?
  rw [scanned]
  cases exponent with
  | none =>
    cases scaled
    rw [List.nil_append]
    cases rest with
    | nil => rfl
    | cons c rest =>
      obtain ⟨-, -, lower, upper⟩ := stops c rfl
      simp [lower, upper]
  | some exponent =>
    obtain ⟨mark, signed, rfl, isMark⟩ : ∃ mark signed, exponentText = mark :: signed ∧
        (mark = 'e' ∨ mark = 'E') := by
      cases scaled with
      | negative mark _ isMark | positive mark _ isMark | unsigned mark _ isMark =>
        exact ⟨mark, _, rfl, isMark⟩
    have read := scanExponent?_spelled scaled stops
    rcases isMark with rfl | rfl <;> simp [read]

theorem head?_fraction {fraction exponentText : List Char} {exponent : Option (Bool × List Char)}
    (fractional : FractionSpelled fraction cs) (scaled : ExponentSpelled exponent exponentText)
    (stops : Stops rest) : ∀ c ∈ (cs ++ (exponentText ++ rest)).head?, c.isDigit = false := by
  cases fractional with
  | none => exact fun c first => (head?_exponent scaled stops c first).1
  | some =>
    intro c first
    obtain rfl := Option.some.inj first
    rfl

theorem Spelled.scan? (spelled : n.Spelled cs) (stops : Stops rest) :
    NumberLiteral.scan? (cs ++ rest) = some (n, rest) := by
  obtain ⟨negative, whole, fraction, exponent⟩ := n
  obtain ⟨isDigits, lead, fractionText, exponentText, fractional, scaled, rfl⟩ := spelled
  have tail := scanTail?_spelled negative whole fractional scaled stops
  have span := spanDigits_append isDigits.digits (head?_fraction fractional scaled stops)
  dsimp only at tail span isDigits lead
  obtain ⟨d, ds, rfl, -, minus, -⟩ := isDigits.exists_cons
  rw [List.cons_append] at span
  -- a zero in front is the whole part alone; the scanner refuses any digit after it
  by_cases zero : d = '0'
  · subst zero
    obtain ⟨-, rfl⟩ := List.cons.inj (lead rfl)
    rw [List.nil_append] at span
    cases negative <;> simp [NumberLiteral.scan?, span, tail]
  · cases negative <;> simp [NumberLiteral.scan?, span, tail, zero, minus]

end Scan

def ofInt (i : Int) : NumberLiteral := ⟨i < 0, Nat.toDigits 10 i.natAbs, [], none⟩

theorem natural?_ofInt (n : Nat) : (ofInt n).natural? = some n := by
  have positive : ¬ (n : Int) < 0 := by omega
  simp [natural?, ofInt, positive, Nat.ofDigitChars_ten_toDigits]

end NumberLiteral

namespace Json

inductive Piece.Spelled : Piece → List Char → Prop
  | plain (c) (printable : 0x20 ≤ c.toNat) (quote : c ≠ '"') (backslash : c ≠ '\\') :
      Piece.Spelled (.char c) [c]
  | escaped (letter c) (named : unescape? letter = some c) : Piece.Spelled (.char c) ['\\', letter]
  | unit (a b c d u) (digits : unit? a b c d = some u) :
      Piece.Spelled (.unit u) ['\\', 'u', a, b, c, d]

theorem scanText?_spelled {pieces : List Piece} {spellings : List (List Char)}
    (spelled : List.Forall₂ Piece.Spelled pieces spellings) (rest : List Char) :
    scanText? (spellings.flatten ++ '"' :: rest) = some (pieces, rest) := by
  induction spelled with
  | nil => rfl
  | cons piece _ ih =>
    rw [List.flatten_cons, List.append_assoc]
    cases piece with
    | plain c printable quote backslash =>
      have visible : ¬ c.toNat < 0x20 := Nat.not_lt.mpr printable
      simp [scanText?, backslash, visible, ih]
    | escaped letter c named =>
      have other : letter ≠ 'u' := by
        rintro rfl
        cases named
      simp [scanText?, other, named, ih]
    | unit a b c d u digits => simp [scanText?, digits, ih]

end Json

end ContractLaunch
