import ContractLaunch.Json.Basic
import Mathlib
/-!
The members of objects. Whatever the order in which members are listed, sorting them gives the one list
that has each key once, in order, with the last value listed for it.
-/
namespace ContractLaunch.Json

variable {α : Type} {key name : String} {value : α} {listed members others : List (String × α)}

/-- Members in the order of their keys, each key once. -/
def Ascending (members : List (String × α)) : Prop := members.Pairwise fun m n => m.1 < n.1

/-- The members that listed ones come to. -/
structure Sorts (listed members : List (String × α)) : Prop where
  ascending : Ascending members
  last : ∀ key, members.lookup key = listed.reverse.lookup key

theorem lookup_cons_eq (key name : String) (value : α) (members : List (String × α)) :
    ((key, value) :: members).lookup name = if name = key then some value else members.lookup name := by
  rw [List.lookup_cons]
  split <;> simp_all

theorem lookup_eq_none_of_lt (less : ∀ m ∈ members, key < m.1) : members.lookup key = none := by
  rw [List.lookup_eq_none_iff]
  intro m member
  simpa using (less m member).ne

theorem mem_insert {m : String × α} (member : m ∈ insert key value members) :
    m = (key, value) ∨ m ∈ members := by
  induction members with
  | nil => exact .inl (List.mem_singleton.mp member)
  | cons n members ih =>
    obtain ⟨k, v⟩ := n
    rw [insert] at member
    split at member
    next =>
      rcases List.mem_cons.mp member with rfl | other
      · exact .inl rfl
      · exact .inr (List.mem_cons_of_mem _ other)
    next =>
      split at member
      next => exact List.mem_cons.mp member
      next =>
        rcases List.mem_cons.mp member with rfl | other
        · exact .inr List.mem_cons_self
        · exact (ih other).imp_right (List.mem_cons_of_mem _)

theorem lookup_insert (key name : String) (value : α) (members : List (String × α)) :
    (insert key value members).lookup name = if name = key then some value else members.lookup name := by
  induction members with
  | nil => exact lookup_cons_eq key name value []
  | cons m members ih =>
    obtain ⟨k, v⟩ := m
    rw [insert]
    split
    next same =>
      subst same
      rw [lookup_cons_eq, lookup_cons_eq]
      split <;> rfl
    next differs =>
      split
      next => rw [lookup_cons_eq]
      next =>
        rw [lookup_cons_eq, ih, lookup_cons_eq]
        split
        next here =>
          rw [if_neg fun same => differs (same.symm.trans here)]
        next => rfl

theorem Ascending.insert (ascending : Ascending members) : Ascending (insert key value members) := by
  induction members with
  | nil => exact List.pairwise_singleton _ _
  | cons m members ih =>
    obtain ⟨k, v⟩ := m
    obtain ⟨first, rest⟩ := List.pairwise_cons.mp ascending
    rw [Json.insert]
    split
    next same =>
      subst same
      exact List.pairwise_cons.mpr ⟨first, rest⟩
    next differs =>
      split
      next less =>
        refine List.pairwise_cons.mpr ⟨?_, ascending⟩
        exact List.forall_mem_cons.mpr ⟨less, fun n member => less.trans (first n member)⟩
      next notLess =>
        refine List.pairwise_cons.mpr ⟨fun n member => ?_, ih rest⟩
        rcases mem_insert member with rfl | other
        · exact lt_of_le_of_ne (not_lt.mp notLess) (Ne.symm differs)
        · exact first n other

theorem sorted_concat (listed : List (String × α)) (m : String × α) :
    sorted (listed ++ [m]) = insert m.1 m.2 (sorted listed) := by
  rw [sorted, List.foldl_append]
  rfl

theorem sorts_sorted (listed : List (String × α)) : Sorts listed (sorted listed) := by
  induction listed using List.reverseRecOn with
  | nil => exact ⟨List.Pairwise.nil, fun _ => rfl⟩
  | append_singleton listed m ih =>
    rw [sorted_concat]
    refine ⟨ih.ascending.insert, fun name => ?_⟩
    rw [lookup_insert, ih.last, List.reverse_append, List.reverse_singleton, List.singleton_append,
      lookup_cons_eq]

theorem Ascending.eq_of_lookup (ascending : Ascending members) (ascending' : Ascending others)
    (same : ∀ key, members.lookup key = others.lookup key) : members = others := by
  induction members generalizing others with
  | nil =>
    cases others with
    | nil => rfl
    | cons n others =>
      have missing := same n.1
      rw [lookup_cons_eq, if_pos rfl] at missing
      cases missing
  | cons m members ih =>
    obtain ⟨k, v⟩ := m
    obtain ⟨first, rest⟩ := List.pairwise_cons.mp ascending
    cases others with
    | nil =>
      have missing := same k
      rw [lookup_cons_eq, if_pos rfl] at missing
      cases missing
    | cons n others =>
      obtain ⟨k', v'⟩ := n
      obtain ⟨first', rest'⟩ := List.pairwise_cons.mp ascending'
      have keys : k = k' := by
        -- the lesser of two first keys would be missing on the other side
        rcases lt_trichotomy k k' with less | equal | less
        · have missing : ((k', v') :: others).lookup k = none := lookup_eq_none_of_lt
            (List.forall_mem_cons.mpr ⟨less, fun n member => less.trans (first' n member)⟩)
          rw [← same k, lookup_cons_eq, if_pos rfl] at missing
          cases missing
        · exact equal
        · have missing : ((k, v) :: members).lookup k' = none := lookup_eq_none_of_lt
            (List.forall_mem_cons.mpr ⟨less, fun n member => less.trans (first n member)⟩)
          rw [same k', lookup_cons_eq, if_pos rfl] at missing
          cases missing
      subst keys
      have values := same k
      rw [lookup_cons_eq, lookup_cons_eq, if_pos rfl, if_pos rfl] at values
      rw [Option.some.inj values, ih rest rest' fun key => ?_]
      by_cases here : key = k
      · rw [here, lookup_eq_none_of_lt first, lookup_eq_none_of_lt first']
      · have further := same key
        rwa [lookup_cons_eq, lookup_cons_eq, if_neg here, if_neg here] at further

theorem sorted_eq_iff : sorted listed = members ↔ Sorts listed members := by
  constructor
  · rintro rfl
    exact sorts_sorted listed
  · intro sorts
    have own := sorts_sorted listed
    exact own.ascending.eq_of_lookup sorts.ascending fun key => (own.last key).trans (sorts.last key).symm

theorem Ascending.sorts (ascending : Ascending members) : Sorts members members := by
  refine ⟨ascending, fun key => ?_⟩
  induction members with
  | nil => rfl
  | cons m members ih =>
    obtain ⟨k, v⟩ := m
    obtain ⟨first, rest⟩ := List.pairwise_cons.mp ascending
    rw [List.reverse_cons, List.lookup_append, ← ih rest, lookup_cons_eq, lookup_cons_eq]
    split
    next here => rw [here, lookup_eq_none_of_lt first, Option.none_or]
    next => rw [List.lookup_nil, Option.or_none]

end ContractLaunch.Json
