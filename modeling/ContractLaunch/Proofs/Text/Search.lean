import ContractLaunch.Text.Search
import Mathlib.Data.List.Infix
/-!
Where a mark stands in a text. A search succeeds exactly if the mark is part of the text; what it
gives is the place where no other occurrence stands before, or after. A mark whose first character
does not come again in some part of a text cannot begin there, and one without a certain character
cannot reach across it.
-/
namespace ContractLaunch.Text

variable {c : Char} {mark tail s before after : List Char}

theorem afterStart?_eq_none_iff : afterStart? mark s = none ↔ ¬ mark <+: s := by
  rw [Option.eq_none_iff_forall_ne_some]
  constructor
  · intro none given
    obtain ⟨rest, rfl⟩ := given
    exact none rest (afterStart?_append mark rest)
  · intro absent rest found
    exact absent ⟨rest, (eq_append_of_afterStart? found).symm⟩

theorem isSome_afterStart? : (afterStart? mark s).isSome = true ↔ mark <+: s := by
  rw [← not_iff_not, ← afterStart?_eq_none_iff]
  simp

theorem occurs_iff : occurs mark s = true ↔ mark <:+: s := by
  unfold occurs
  induction s with
  | nil =>
    simp only [splitFirst?, Option.isSome_map, isSome_afterStart?, List.prefix_nil, List.infix_nil]
  | cons d others ih =>
    rw [List.infix_cons_iff, ← ih, ← isSome_afterStart?]
    simp only [splitFirst?]
    split
    next found => simp [found]
    next absent => simp [absent]

theorem splitLast?_eq_none_iff : splitLast? mark s = none ↔ ¬ mark <:+: s := by
  induction s with
  | nil =>
    simp only [splitLast?, Option.map_eq_none_iff, afterStart?_eq_none_iff, List.prefix_nil,
      List.infix_nil]
  | cons d others ih =>
    rw [List.infix_cons_iff, not_or, ← ih, ← afterStart?_eq_none_iff]
    simp only [splitLast?]
    split
    next found => simp [found]
    next absent => simp [absent]

section Begin

/-- A mark cannot begin where its first character does not stand. -/
theorem infix_append_of_not_mem (absent : c ∉ before) :
    c :: tail <:+: before ++ after ↔ c :: tail <:+: after := by
  induction before with
  | nil => rfl
  | cons d others ih =>
    obtain ⟨other, further⟩ := not_or.mp (List.mem_cons.not.mp absent)
    rw [List.cons_append, List.infix_cons_iff, ih further, List.cons_prefix_cons]
    simp [other]

/-- The last occurrence of a mark is the one after whose beginning there is no other. -/
theorem splitLast?_of_last (unique : c ∉ tail) (last : ¬ c :: tail <:+: after) :
    splitLast? (c :: tail) (before ++ c :: tail ++ after) = some (before, after) := by
  induction before with
  | nil =>
    have none : splitLast? (c :: tail) (tail ++ after) = none :=
      splitLast?_eq_none_iff.mpr ((infix_append_of_not_mem unique).not.mpr last)
    have here : afterStart? (c :: tail) (c :: (tail ++ after)) = some after :=
      afterStart?_append (c :: tail) after
    simp only [List.nil_append, List.cons_append, splitLast?, none, here, Option.map_some]
  | cons d others ih => simp only [List.cons_append, splitLast?, ih]

theorem splitFirst?_of_first (absent : c ∉ before) :
    splitFirst? (c :: tail) (before ++ c :: tail ++ after) = some (before, after) := by
  induction before with
  | nil =>
    have here : afterStart? (c :: tail) (c :: (tail ++ after)) = some after :=
      afterStart?_append (c :: tail) after
    simp only [List.nil_append, List.cons_append, splitFirst?, here]
  | cons d others ih =>
    obtain ⟨other, further⟩ := not_or.mp (List.mem_cons.not.mp absent)
    have elsewhere : afterStart? (c :: tail) (d :: (others ++ c :: tail ++ after)) = none := by
      rw [afterStart?_eq_none_iff, List.cons_prefix_cons]
      simp [other]
    simp only [List.cons_append] at elsewhere ih ⊢
    simp only [splitFirst?, elsewhere, ih further, Option.map_some]

end Begin

section Break

theorem prefix_append_of_not_mem (absent : c ∉ mark) :
    mark <+: before ++ c :: after ↔ mark <+: before := by
  induction before generalizing mark with
  | nil =>
    cases mark with
    | nil => simp
    | cons m others =>
      have other : m ≠ c := fun same => absent (by simp [same])
      simp [List.cons_prefix_cons, other]
  | cons d others ih =>
    cases mark with
    | nil => simp
    | cons m further =>
      rw [List.cons_append, List.cons_prefix_cons, List.cons_prefix_cons,
        ih fun inside => absent (List.mem_cons_of_mem m inside)]

theorem afterStart?_append_of_not_mem (absent : c ∉ mark) :
    afterStart? mark (before ++ c :: after) = (afterStart? mark before).map (· ++ c :: after) := by
  cases found : afterStart? mark before with
  | none =>
    rw [afterStart?_eq_none_iff, ← prefix_append_of_not_mem absent] at found
    exact afterStart?_eq_none_iff.mpr found
  | some rest =>
    obtain rfl := eq_append_of_afterStart? found
    rw [List.append_assoc, afterStart?_append]
    rfl

/-- A mark does not reach across a character that it does not have. -/
theorem infix_around_of_not_mem (absent : c ∉ mark) :
    mark <:+: before ++ c :: after ↔ mark <:+: before ∨ mark <:+: after := by
  induction before with
  | nil =>
    have start : mark <+: [] ++ c :: after ↔ mark <:+: [] := by
      rw [prefix_append_of_not_mem absent, List.prefix_nil, List.infix_nil]
    rw [List.nil_append] at start ⊢
    rw [List.infix_cons_iff, start]
  | cons d others ih =>
    have start : mark <+: d :: others ++ c :: after ↔ mark <+: d :: others :=
      prefix_append_of_not_mem absent
    rw [List.cons_append] at start ⊢
    rw [List.infix_cons_iff, List.infix_cons_iff, ih, start, or_assoc]

end Break

/-- No mark of the list begins in the text before all of `before` has passed. -/
def NoneBefore (marks : List (List Char)) (s before : List Char) : Prop :=
  ∀ mark ∈ marks, ∀ front back, s = front ++ mark ++ back → before.length ≤ front.length

theorem NoneBefore.within {marks : List (List Char)} {outer : List Char}
    (first : NoneBefore marks (outer ++ s ++ after) (outer ++ before)) : NoneBefore marks s before := by
  intro mark member front back same
  have long := first mark member (outer ++ front) (back ++ after) (by simp [same])
  simpa using long

/-- Marks that begin alike, and nowhere else so, do not begin in one another: before one of them there
is none unless one is part of what stands before. -/
theorem noneBefore_of_not_infix {marks : List (List Char)}
    (alike : ∀ mark ∈ marks, mark.head? = some c ∧ c ∉ mark.tail)
    (none : ∀ mark ∈ marks, ¬ mark <:+: before) :
    NoneBefore marks (before ++ c :: after) before := by
  intro mark member front back same
  obtain ⟨begins, unique⟩ := alike mark member
  obtain ⟨tail, rfl⟩ := List.head?_eq_some_iff.mp begins
  by_contra short
  rw [List.append_assoc] at same
  rcases List.append_eq_append_iff.mp same with ⟨middle, rfl, -⟩ | ⟨middle, rfl, whole⟩
  · simp at short
  · cases middle with
    | nil => simp at short
    | cons d others =>
      obtain ⟨rfl, further⟩ := List.cons.inj whole
      have within : tail <+: others :=
        (prefix_append_of_not_mem unique).mp ⟨back, further⟩
      have part : c :: tail <:+: front ++ c :: others :=
        (List.cons_prefix_cons.mpr ⟨rfl, within⟩).isInfix.trans (List.suffix_append _ _).isInfix
      exact none _ member part

theorem beforeAny?_of_first {marks : List (List Char)} (member : mark ∈ marks)
    (first : NoneBefore marks (before ++ mark ++ after) before) :
    beforeAny? marks (before ++ mark ++ after) = some before := by
  induction before with
  | nil =>
    have here : startsWithAny marks (mark ++ after) = true :=
      List.any_eq_true.mpr ⟨mark, member, isSome_afterStart?.mpr (List.prefix_append _ _)⟩
    rw [List.nil_append]
    cases text : mark ++ after with
    | nil => simp [beforeAny?, ← text, here]
    | cons d others => simp [beforeAny?, ← text, here]
  | cons d others ih =>
    have elsewhere : startsWithAny marks (d :: others ++ mark ++ after) = false := by
      rw [startsWithAny, List.any_eq_false]
      intro other inside found
      obtain ⟨back, same⟩ := isSome_afterStart?.mp found
      have long := first other inside [] back same.symm
      simp at long
    have later : NoneBefore marks (others ++ mark ++ after) others := by
      intro other inside front back same
      have long := first other inside (d :: front) back (by simp [← same])
      simpa using long
    simp only [List.cons_append] at elsewhere ⊢
    simp only [beforeAny?, elsewhere, Bool.false_eq_true, if_false, ih later, Option.map_some]

end ContractLaunch.Text
