import ContractLaunch.Proofs.Text.Search
import Mathlib
/-!
Offsets in a text, counted in bytes of UTF-8. A text can be cut at an offset that lies in it, between
two characters; where a search found something is such an offset. The least of the offsets at which
marks are first found is the length of what stands before all of them.
-/
namespace ContractLaunch.Text

def byteLength (cs : List Char) : Nat := (cs.map Char.utf8Size).sum

/-- The parts of a text before and after an offset; `none` for one beyond the end or inside a character. -/
def cut? (offset : Nat) (cs : List Char) : Option (List Char × List Char) :=
  match cs with
  | [] => if offset = 0 then some ([], []) else none
  | c :: rest =>
    if offset = 0 then some ([], c :: rest)
    else if c.utf8Size ≤ offset then
      (cut? (offset - c.utf8Size) rest).map fun (before, after) => (c :: before, after)
    else none

/-- Where the first occurrence of a mark begins. -/
def offset? (mark s : List Char) : Option Nat :=
  (splitFirst? mark s).map fun (before, _) => byteLength before

def lastOffset? (mark s : List Char) : Option Nat :=
  (splitLast? mark s).map fun (before, _) => byteLength before

variable {mark s before after front back : List Char} {marks : List (List Char)}

theorem byteLength_append (before after : List Char) :
    byteLength (before ++ after) = byteLength before + byteLength after := by
  simp [byteLength]

theorem byteLength_le_of_prefix (within : before <+: s) : byteLength before ≤ byteLength s := by
  obtain ⟨after, rfl⟩ := within
  rw [byteLength_append]
  exact Nat.le_add_right _ _

theorem cut?_byteLength (before after : List Char) :
    cut? (byteLength before) (before ++ after) = some (before, after) := by
  induction before with
  | nil => cases after <;> rfl
  | cons c before ih =>
    have size : byteLength (c :: before) = c.utf8Size + byteLength before := rfl
    have filled : byteLength (c :: before) ≠ 0 := by
      have positive := c.utf8Size_pos
      omega
    rw [List.cons_append, cut?, if_neg filled, if_pos (by omega), size, Nat.add_sub_cancel_left, ih]
    rfl

theorem eq_append_of_splitFirst? (found : splitFirst? mark s = some (before, after)) :
    s = before ++ mark ++ after := by
  induction s generalizing before with
  | nil =>
    obtain ⟨rest, here, same⟩ := Option.map_eq_some_iff.mp found
    obtain ⟨rfl, rfl⟩ := Prod.mk.inj same
    exact eq_append_of_afterStart? here
  | cons c s ih =>
    rw [splitFirst?] at found
    split at found
    next rest here =>
      obtain ⟨rfl, rfl⟩ := Prod.mk.inj (Option.some.inj found)
      exact eq_append_of_afterStart? here
    next =>
      obtain ⟨⟨before, _⟩, later, same⟩ := Option.map_eq_some_iff.mp found
      obtain ⟨rfl, rfl⟩ := Prod.mk.inj same
      exact congrArg (c :: ·) (ih later)

theorem length_le_of_splitFirst? (found : splitFirst? mark s = some (before, after))
    (occurs : s = front ++ mark ++ back) : before.length ≤ front.length := by
  induction s generalizing before front with
  | nil =>
    obtain ⟨rest, -, same⟩ := Option.map_eq_some_iff.mp found
    obtain ⟨rfl, -⟩ := Prod.mk.inj same
    exact Nat.zero_le _
  | cons c s ih =>
    rw [splitFirst?] at found
    split at found
    next rest here =>
      obtain ⟨rfl, -⟩ := Prod.mk.inj (Option.some.inj found)
      exact Nat.zero_le _
    next absent =>
      obtain ⟨⟨before, _⟩, later, same⟩ := Option.map_eq_some_iff.mp found
      obtain ⟨rfl, rfl⟩ := Prod.mk.inj same
      cases front with
      | nil => exact absurd ⟨back, occurs.symm⟩ (afterStart?_eq_none_iff.mp absent)
      | cons d front =>
        obtain ⟨-, further⟩ := List.cons.inj occurs
        exact Nat.succ_le_succ (ih later further)

theorem eq_append_of_splitLast? (found : splitLast? mark s = some (before, after)) :
    s = before ++ mark ++ after := by
  induction s generalizing before with
  | nil =>
    obtain ⟨rest, here, same⟩ := Option.map_eq_some_iff.mp found
    obtain ⟨rfl, rfl⟩ := Prod.mk.inj same
    exact eq_append_of_afterStart? here
  | cons c s ih =>
    rw [splitLast?] at found
    split at found
    next before' after' later =>
      obtain ⟨rfl, rfl⟩ := Prod.mk.inj (Option.some.inj found)
      exact congrArg (c :: ·) (ih later)
    next =>
      obtain ⟨rest, here, same⟩ := Option.map_eq_some_iff.mp found
      obtain ⟨rfl, rfl⟩ := Prod.mk.inj same
      exact eq_append_of_afterStart? here

theorem infix_of_splitFirst? (found : splitFirst? mark s = some (before, after)) : after <:+: s := by
  rw [eq_append_of_splitFirst? found]
  exact (List.suffix_append _ _).isInfix

theorem infix_of_splitLast? (found : splitLast? mark s = some (before, after)) : after <:+: s := by
  rw [eq_append_of_splitLast? found]
  exact (List.suffix_append _ _).isInfix

section Marks

theorem startsWithAny_iff : startsWithAny marks s = true ↔ ∃ mark ∈ marks, mark <+: s := by
  simp [startsWithAny, isSome_afterStart?]

theorem beforeAny?_eq_none (absent : beforeAny? marks s = none) : ∀ mark ∈ marks, ¬ mark <:+: s := by
  induction s with
  | nil =>
    rw [beforeAny?] at absent
    split at absent
    next => cases absent
    next none =>
      intro mark member inside
      exact none (startsWithAny_iff.mpr ⟨mark, member, (List.infix_nil.mp inside) ▸ List.nil_prefix⟩)
  | cons c s ih =>
    rw [beforeAny?] at absent
    split at absent
    next => cases absent
    next none =>
      intro mark member inside
      rcases List.infix_cons_iff.mp inside with starts | later
      · exact none (startsWithAny_iff.mpr ⟨mark, member, starts⟩)
      · exact ih (Option.map_eq_none_iff.mp absent) mark member later

/-- What stands before any mark ends where one of them begins, and none begins earlier. -/
theorem beforeAny?_eq_some (found : beforeAny? marks s = some before) :
    (∃ mark ∈ marks, before ++ mark <+: s) ∧ NoneBefore marks s before := by
  induction s generalizing before with
  | nil =>
    rw [beforeAny?] at found
    split at found
    next some =>
      obtain rfl := Option.some.inj found
      exact ⟨startsWithAny_iff.mp some, fun _ _ _ _ _ => Nat.zero_le _⟩
    next => cases found
  | cons c s ih =>
    rw [beforeAny?] at found
    split at found
    next some =>
      obtain rfl := Option.some.inj found
      exact ⟨startsWithAny_iff.mp some, fun _ _ _ _ _ => Nat.zero_le _⟩
    next none =>
      obtain ⟨before, later, rfl⟩ := Option.map_eq_some_iff.mp found
      obtain ⟨⟨mark, member, starts⟩, first⟩ := ih later
      refine ⟨⟨mark, member, List.cons_prefix_cons.mpr ⟨rfl, starts⟩⟩, ?_⟩
      intro other inside front back same
      cases front with
      | nil => exact absurd (startsWithAny_iff.mpr ⟨other, inside, back, same.symm⟩) none
      | cons d front =>
        obtain ⟨-, further⟩ := List.cons.inj same
        exact Nat.succ_le_succ (first other inside front back further)

/-- No mark is part of what stands before the first of them: it would begin earlier. -/
theorem NoneBefore.absent (first : NoneBefore marks s before) (within : before <+: s)
    (filled : ∀ mark ∈ marks, mark ≠ []) : ∀ mark ∈ marks, ¬ mark <:+: before := by
  rintro mark member ⟨front, back, rfl⟩
  obtain ⟨after, rfl⟩ := within
  have late := first mark member front (back ++ after) (by simp)
  have size := List.length_pos_iff.mpr (filled mark member)
  simp only [List.length_append] at late
  omega

theorem min?_offsets (marks : List (List Char)) (s : List Char) :
    (marks.filterMap (offset? · s)).min? = (beforeAny? marks s).map byteLength := by
  cases found : beforeAny? marks s with
  | none =>
    have nowhere : marks.filterMap (offset? · s) = [] := by
      refine List.filterMap_eq_nil_iff.mpr fun mark member => ?_
      have absent := beforeAny?_eq_none found mark member
      rw [← occurs_iff, occurs, Bool.not_eq_true, Option.isSome_eq_false_iff,
        Option.isNone_iff_eq_none] at absent
      rw [offset?, absent]
      rfl
    rw [nowhere]
    rfl
  | some before =>
    obtain ⟨⟨mark, member, back, split⟩, first⟩ := beforeAny?_eq_some found
    have within : before <+: s := ⟨mark ++ back, by rw [← split, List.append_assoc]⟩
    refine List.min?_eq_some_iff.mpr ⟨List.mem_filterMap.mpr ⟨mark, member, ?_⟩, ?_⟩
    · have occurring : mark <:+: s := ⟨before, back, split⟩
      obtain ⟨⟨front, rest⟩, here⟩ := Option.isSome_iff_exists.mp (occurs_iff.mpr occurring)
      have around := eq_append_of_splitFirst? here
      -- the first occurrence of this mark is no later than the one at hand, and no earlier than all marks
      have early := length_le_of_splitFirst? here split.symm
      have late := first mark member front rest around
      have same : front = before := by
        refine List.prefix_of_prefix_length_le ⟨mark ++ rest, ?_⟩ within early |>.eq_of_length (by omega)
        rw [around, List.append_assoc]
      rw [offset?, here, Option.map_some, same]
    · intro offset listed
      obtain ⟨other, inside, located⟩ := List.mem_filterMap.mp listed
      obtain ⟨⟨front, rest⟩, here, rfl⟩ := Option.map_eq_some_iff.mp located
      have around := eq_append_of_splitFirst? here
      have late := first other inside front rest around
      refine byteLength_le_of_prefix (List.prefix_of_prefix_length_le within ⟨other ++ rest, ?_⟩ late)
      rw [around, List.append_assoc]

end Marks

end ContractLaunch.Text
