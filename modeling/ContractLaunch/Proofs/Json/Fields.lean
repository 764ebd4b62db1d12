import ContractLaunch.Json.Reading
import ContractLaunch.Proofs.Json.Literal
import Mathlib
/-!
Records that are stated as objects. An object states a field if the field stands in it once, in any
place and in a form that belongs to it, or if the field may be left out and is; the object may have
any other members. What a reader gives for a field does not depend on the place, the form or the
other members.
-/
namespace ContractLaunch.Json

/-- A field of a record: the trees that may stand under its name, and whether it may be left out. -/
structure Field where
  name : String
  forms : Written → Prop
  omissible : Prop

/-- Members that state a field: exactly one has its name, or none if it may be left out. -/
inductive Field.Stated (f : Field) (members : List (Option String × Written)) : Prop
  | given (w) (found : members.lookup (some f.name) = some w)
      (once : (members.map Prod.fst).count (some f.name) = 1) (formed : f.forms w)
  | leftOut (missing : members.lookup (some f.name) = none) (omissible : f.omissible)

/-- The trees that state these fields: objects whose keys are texts. -/
inductive States (fields : List Field) : Written → Prop
  | object (members) (keyed : ∀ m ∈ members, m.1.isSome = true)
      (stated : ∀ f ∈ fields, f.Stated members) : States fields (.object members)

/-- The arrays that hold the values of a list in forms of theirs. -/
inductive Lists {α : Type} (forms : α → Written → Prop) (as : List α) : Written → Prop
  | array (items) (formed : List.Forall₂ forms as items) : Lists forms as (.array items)

/-- Every one of these forms is read as the value where so many levels may still be opened. -/
def Gives {α : Type} (read : Reader α) (a : α) (forms : Written → Prop) (depth : Nat) : Prop :=
  ∀ w room, forms w → depth ≤ room → read ⟨w, room⟩ = some a

section Members

variable {names : List String} {members : List (Option String × Written)}

theorem lookup_eq_none_iff_count {key : Option String} :
    members.lookup key = none ↔ (members.map Prod.fst).count key = 0 := by
  rw [List.lookup_eq_none_iff, List.count_eq_zero, List.mem_map, not_exists]
  refine forall_congr' fun m => ?_
  rw [not_and, bne_iff_ne, ne_comm, ne_eq]

theorem lookup_cons_of_ne {key name : String} (other : name ≠ key) (w : Written) :
    ((some key, w) :: members).lookup (some name) = members.lookup (some name) := by
  have apart : (some name == some key) = false := by simpa using other
  rw [List.lookup_cons, apart]

theorem exists_ofMembers? (room : Nat) (keyed : ∀ m ∈ members, m.1.isSome = true)
    (once : ∀ name ∈ names, (members.map Prod.fst).count (some name) ≤ 1) :
    ∃ known, Record.ofMembers? names room members = some known ∧
      ∀ name ∈ names, known.lookup name = (members.lookup (some name)).map (⟨·, room⟩) := by
  induction members with
  | nil => exact ⟨[], rfl, fun _ _ => rfl⟩
  | cons m members ih =>
    obtain ⟨key | key, w⟩ := m
    · cases keyed _ List.mem_cons_self
    -- a name stands among the further members no more often than among all of them
    have fewer (name : String) : (members.map Prod.fst).count (some name) ≤
        (((some key, w) :: members).map Prod.fst).count (some name) := by
      rw [List.map_cons]
      exact List.count_le_count_cons
    obtain ⟨known, read, lookup⟩ := ih (fun m inside => keyed m (List.mem_cons_of_mem _ inside))
      fun name inside => (fewer name).trans (once name inside)
    by_cases inside : key ∈ names
    · have others : (members.map Prod.fst).count (some key) = 0 := by
        have single := once key inside
        rw [List.map_cons, List.count_cons_self] at single
        omega
      -- no further member has the key, which the reader asks of the fields that it has found there
      have absent : members.lookup (some key) = none := lookup_eq_none_iff_count.mpr others
      have unread : known.lookup key = none := by rw [lookup key inside, absent]; rfl
      refine ⟨(key, ⟨w, room⟩) :: known, by simp [Record.ofMembers?, read, inside, unread],
        fun name member => ?_⟩
      by_cases same : name = key
      · simp [same]
      · have other : (name == key) = false := by simpa using same
        rw [lookup_cons_of_ne same, List.lookup_cons, other]
        exact lookup name member
    · refine ⟨known, by simp [Record.ofMembers?, read, inside], fun name member => ?_⟩
      have other : name ≠ key := fun same => inside (same ▸ member)
      rw [lookup_cons_of_ne other]
      exact lookup name member

end Members

/-- What a record that was read holds of a field. -/
inductive Field.Held (f : Field) (r : Record) (room : Nat) : Prop
  | given (w) (found : r.fields.lookup f.name = some ⟨w, room⟩) (formed : f.forms w)
  | leftOut (missing : r.fields.lookup f.name = none) (omissible : f.omissible)

section Record

variable {α : Type} {fields : List Field} {f : Field} {w : Written} {room depth : Nat} {r : Record}
  {read : Reader α} {a : α}

theorem Field.Stated.count_le_one {members : List (Option String × Written)} (stated : f.Stated members) :
    (members.map Prod.fst).count (some f.name) ≤ 1 := by
  cases stated with
  | given w found once formed => exact once.le
  | leftOut missing omissible => exact (lookup_eq_none_iff_count.mp missing).le.trans zero_le_one

theorem Field.Stated.held {members : List (Option String × Written)} (stated : f.Stated members)
    (found : r.fields.lookup f.name = (members.lookup (some f.name)).map (⟨·, room⟩)) :
    f.Held r room := by
  cases stated with
  | given w member once formed => exact .given w (by rw [found, member]; rfl) formed
  | leftOut missing omissible => exact .leftOut (by rw [found, missing]; rfl) omissible

theorem States.exists_ofTerm? (states : States fields w) (room : Nat) :
    ∃ r, Record.ofTerm? (fields.map Field.name) ⟨w, room + 1⟩ = some r ∧
      ∀ f ∈ fields, f.Held r room := by
  obtain ⟨members, keyed, stated⟩ := states
  have once : ∀ name ∈ fields.map Field.name, (members.map Prod.fst).count (some name) ≤ 1 := by
    intro name inside
    obtain ⟨f, member, rfl⟩ := List.mem_map.mp inside
    exact (stated f member).count_le_one
  obtain ⟨known, read, lookup⟩ := exists_ofMembers? room keyed once
  refine ⟨⟨false, known⟩, by simp [Record.ofTerm?, read], fun f member => ?_⟩
  exact (stated f member).held (lookup f.name (List.mem_map_of_mem member))

theorem gives_record {names : List String} {take : Record → Option α} (named : fields.map Field.name = names)
    (taken : ∀ r room, depth ≤ room → (∀ f ∈ fields, f.Held r room) → take r = some a) :
    Gives (fun t => (Record.ofTerm? names t).bind take) a (States fields) (depth + 1) := by
  rintro w (_ | room) states deep
  · contradiction
  obtain ⟨r, read, held⟩ := states.exists_ofTerm? room
  dsimp only
  rw [← named, read]
  exact taken r room (Nat.le_of_succ_le_succ deep) held

theorem Field.Held.required (held : f.Held r room) (needed : ¬ f.omissible)
    (gives : Gives read a f.forms depth) (deep : depth ≤ room) : r.required f.name read = some a := by
  cases held with
  | given w found formed =>
    rw [Record.required, found]
    exact gives w room formed deep
  | leftOut missing omissible => exact absurd omissible needed

theorem Field.Held.defaulted (held : f.Held r room) {default : α} (plain : f.omissible → a = default)
    (gives : Gives read a f.forms depth) (deep : depth ≤ room) :
    r.defaulted f.name default read = some a := by
  cases held with
  | given w found formed =>
    rw [Record.defaulted, found]
    exact gives w room formed deep
  | leftOut missing omissible =>
    rw [Record.defaulted, missing, plain omissible]

theorem gives_text (s : String) : Gives Term.text? s (· = .text (some s)) 0 := by
  rintro w room rfl -
  rfl

theorem gives_natBelow {bound n : Nat} (below : n < bound) :
    Gives (Term.natBelow? bound) n (· = .number (.ofInt n)) 0 := by
  rintro w room rfl -
  simp [Term.natBelow?, NumberLiteral.natural?_ofInt, below]

theorem gives_items {forms : α → Written → Prop} (gives : ∀ a, Gives read a (forms a) depth)
    (as : List α) : Gives (Term.items? read) as (Lists forms as) (depth + 1) := by
  rintro w room ⟨items, formed⟩ deep
  have opens : room ≠ 0 := by omega
  have each : items.mapM (fun w => read ⟨w, room - 1⟩) = some as := by
    induction formed with
    | nil => rfl
    | cons first _ ih =>
      rw [List.mapM_cons, gives _ _ _ first (by omega), ih]
      rfl
  simp [Term.items?, opens, each]

end Record

end ContractLaunch.Json
