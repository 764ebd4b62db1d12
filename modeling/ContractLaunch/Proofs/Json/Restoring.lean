import ContractLaunch.Json.Form
import ContractLaunch.Proofs.Json.Fields
import ContractLaunch.Proofs.Json.Meaning
import Mathlib
/-!
Values that are read back from what is printed for them. Each kind of reader has one rule: numbers, texts
and lists are read back if their parts are, and a record if each of its fields is read back from the
member that is printed for it, in whatever way the reader goes through the fields.
-/
namespace ContractLaunch.Json

/-- What is printed for a value is read as `a` where so many levels may still be opened. -/
structure Restores {α : Type} (read : Reader α) (j : Json) (a : α) (depth : Nat) : Prop where
  printed : ∃ w, written? j = some w
  gives : Gives read a (written? j = some ·) depth

section Rules

variable {α β : Type} {read : Reader α} {j : Json} {w : Written} {a : α} {depth bound n : Nat}

theorem Restores.ofChars?_compact (restores : Restores read j a depth) (shallow : depth ≤ nestingLimit) :
    Reader.ofChars? read j.compact.toList = some a := by
  obtain ⟨w, printed⟩ := restores.printed
  have spelled : Spelled w.tokens j.compact.toList := by
    rw [compact, String.toList_ofList]
    exact spelled_chars j printed
  rw [Reader.ofChars?, Written.read?_spelled spelled]
  exact restores.gives w nestingLimit printed shallow

theorem Restores.of_written (printed : written? j = some w)
    (given : ∀ room, depth ≤ room → read ⟨w, room⟩ = some a) : Restores read j a depth := by
  refine ⟨⟨w, printed⟩, fun v room same deep => ?_⟩
  obtain rfl := Option.some.inj (printed.symm.trans same)
  exact given room deep

theorem Restores.bind {next : α → Option β} {b : β} (restores : Restores read j a depth)
    (goes : next a = some b) : Restores (fun t => (read t).bind next) j b depth := by
  refine ⟨restores.printed, fun w room printed deep => ?_⟩
  rw [restores.gives w room printed deep]
  exact goes

theorem Restores.map (restores : Restores read j a depth) (f : α → β) :
    Restores (fun t => (read t).map f) j (f a) depth := by
  refine ⟨restores.printed, fun w room printed deep => ?_⟩
  rw [restores.gives w room printed deep]
  rfl

theorem Restores.mono {depth' : Nat} (restores : Restores read j a depth) (deeper : depth ≤ depth') :
    Restores read j a depth' :=
  ⟨restores.printed, fun w room printed deep => restores.gives w room printed (deeper.trans deep)⟩

theorem restores_text (s : String) : Restores Term.text? (.text s) s 0 :=
  .of_written rfl fun _ _ => rfl

theorem restores_natBelow (below : n < bound) : Restores (Term.natBelow? bound) (ofNat n) n 0 :=
  .of_written rfl fun room deep => gives_natBelow below _ room rfl deep

theorem restores_uint32 (n : UInt32) : Restores Term.uint32? (ofNat n.toNat) n 0 := by
  have restores := (restores_natBelow n.toNat_lt).map UInt32.ofNat
  rwa [UInt32.ofNat_toNat] at restores

theorem restores_uint64 (n : UInt64) : Restores Term.uint64? (ofNat n.toNat) n 0 := by
  have restores := (restores_natBelow n.toNat_lt).map UInt64.ofNat
  rwa [UInt64.ofNat_toNat] at restores

theorem restores_message {m : Json} (whole : Whole m) : Restores Term.json? m m m.depth := by
  obtain ⟨w, printed, means, deep⟩ := exists_written m whole
  refine .of_written printed fun room shallow => ?_
  rw [Term.json?, Written.value?_eq_some_iff]
  exact ⟨means, deep.trans_le shallow⟩

theorem nullable_of_ne_null {t : Term} (filled : t.written ≠ .null) :
    Term.nullable read t = (read t).map some := by
  unfold Term.nullable
  split
  next null => exact absurd null filled
  next => rfl

/-- A value that may be missing is read back if no value is printed as the word for a missing one. -/
theorem restores_option {write : α → Json} (each : ∀ a, Restores read (write a) a depth)
    (filled : ∀ a, written? (write a) ≠ some .null) (o : Option α) :
    Restores (Term.nullable read) (ofOption write o) o depth := by
  cases o with
  | none => exact .of_written rfl fun _ _ => rfl
  | some a =>
    refine ⟨(each a).printed, fun w room printed deep => ?_⟩
    have given : w ≠ .null := fun null => filled a (null ▸ printed)
    rw [nullable_of_ne_null given, (each a).gives w room printed deep]
    rfl

theorem restores_text? (o : Option String) : Restores (Term.nullable Term.text?) (ofOption .text o) o 0 :=
  restores_option restores_text (fun _ => nofun) o

theorem restores_uint64? (o : Option UInt64) :
    Restores (Term.nullable Term.uint64?) (ofOption (fun n => ofNat n.toNat) o) o 0 :=
  restores_option restores_uint64 (fun _ => nofun) o

theorem forall₂_of_writtenItems? {as : List α} {write : α → Json} {ws : List Written}
    (printed : writtenItems? (as.map write) = some ws) :
    List.Forall₂ (fun a w => written? (write a) = some w) as ws := by
  induction as generalizing ws with
  | nil =>
    obtain rfl := Option.some.inj printed
    exact .nil
  | cons a as ih =>
    rw [List.map_cons, writtenItems?] at printed
    split at printed
    next w ws first others =>
      obtain rfl := Option.some.inj printed
      exact .cons first (ih others)
    next => cases printed

theorem exists_writtenItems? {js : List Json} (each : ∀ j ∈ js, ∃ w, written? j = some w) :
    ∃ ws, writtenItems? js = some ws := by
  induction js with
  | nil => exact ⟨[], rfl⟩
  | cons j js ih =>
    obtain ⟨⟨w, first⟩, others⟩ := List.forall_mem_cons.mp each
    obtain ⟨ws, further⟩ := ih others
    exact ⟨w :: ws, by rw [writtenItems?, first, further]⟩

theorem restores_list {write : α → Json} (each : ∀ a, Restores read (write a) a depth) (as : List α) :
    Restores (Term.items? read) (.array (as.map write)) as (depth + 1) := by
  have items : ∀ j ∈ as.map write, ∃ w, written? j = some w :=
    List.forall_mem_map.mpr fun a _ => (each a).printed
  obtain ⟨ws, printed⟩ := exists_writtenItems? items
  refine .of_written (w := .array ws) (by rw [written?, printed]; rfl) fun room deep => ?_
  exact gives_items (fun a => (each a).gives) as _ room ⟨ws, forall₂_of_writtenItems? printed⟩ deep

end Rules

section Members

theorem depth_lt_of_mem {members : List (String × Json)} {m : String × Json} (member : m ∈ members) :
    m.2.depth < (Json.object members).depth := by
  rw [depth, Nat.lt_add_one_iff]
  induction members with
  | nil => cases member
  | cons n members ih =>
    rw [depthMembers]
    rcases List.mem_cons.mp member with rfl | later
    · exact le_max_left _ _
    · exact (ih later).trans (le_max_right _ _)

variable {ms : List (String × Json)} {ws : List (Option String × Written)}

theorem exists_writtenMembers? (each : ∀ m ∈ ms, ∃ w, written? m.2 = some w) :
    ∃ ws, writtenMembers? ms = some ws := by
  induction ms with
  | nil => exact ⟨[], rfl⟩
  | cons m ms ih =>
    obtain ⟨⟨w, first⟩, others⟩ := List.forall_mem_cons.mp each
    obtain ⟨ws, further⟩ := ih others
    exact ⟨(some m.1, w) :: ws, by rw [writtenMembers?, first, further]⟩

theorem keys_of_writtenMembers? (printed : writtenMembers? ms = some ws) :
    ws.map Prod.fst = (ms.map Prod.fst).map some := by
  induction ms generalizing ws with
  | nil =>
    obtain rfl := Option.some.inj printed
    rfl
  | cons m ms ih =>
    rw [writtenMembers?] at printed
    split at printed
    next w ws first others =>
      obtain rfl := Option.some.inj printed
      exact congrArg (some m.1 :: ·) (ih others)
    next => cases printed

theorem lookup_of_writtenMembers? (printed : writtenMembers? ms = some ws)
    (once : (ms.map Prod.fst).Nodup) {m : String × Json} (member : m ∈ ms) :
    ∃ w, ws.lookup (some m.1) = some w ∧ written? m.2 = some w := by
  induction ms generalizing ws with
  | nil => cases member
  | cons n ms ih =>
    rw [writtenMembers?] at printed
    split at printed
    next w ws first others =>
      obtain rfl := Option.some.inj printed
      obtain ⟨fresh, once⟩ := List.nodup_cons.mp once
      rcases List.mem_cons.mp member with rfl | later
      · exact ⟨w, List.lookup_cons_self, first⟩
      · have other : m.1 ≠ n.1 := fun same => fresh (same ▸ List.mem_map_of_mem later)
        obtain ⟨v, found, second⟩ := ih others once later
        exact ⟨v, by rw [lookup_cons_of_ne other, found], second⟩
    next => cases printed

def printedField (m : String × Json) : Field := ⟨m.1, (written? m.2 = some ·), False⟩

theorem states_of_written {w : Written} (once : (ms.map Prod.fst).Nodup)
    (printed : written? (.object ms) = some w) : States (ms.map printedField) w := by
  obtain ⟨ws, members, rfl⟩ := Option.map_eq_some_iff.mp printed
  have keys := keys_of_writtenMembers? members
  refine .object ws (fun m inside => ?_) (List.forall_mem_map.mpr fun m inside => ?_)
  · have key : m.1 ∈ (ms.map Prod.fst).map some := keys ▸ List.mem_map_of_mem inside
    obtain ⟨name, -, same⟩ := List.mem_map.mp key
    rw [← same]
    rfl
  · obtain ⟨w, found, formed⟩ := lookup_of_writtenMembers? members once inside
    refine .given w found ?_ formed
    rw [keys, List.count_map_of_injective _ some (Option.some_injective _)]
    exact List.count_eq_one_of_mem once (List.mem_map_of_mem inside)

end Members

section Record

variable {α β : Type} {read : Reader α} {j : Json} {a : α} {depth room : Nat} {name : String} {r : Record}

/-- A record is read back if its reader takes the value from the fields that are printed for it. -/
theorem restores_record {ms : List (String × Json)} {names : List String} {take : Record → Option α}
    (named : ms.map Prod.fst = names) (once : names.Nodup)
    (printed : ∀ m ∈ ms, ∃ w, written? m.2 = some w)
    (taken : ∀ r room, depth ≤ room → (∀ m ∈ ms, (printedField m).Held r room) → take r = some a) :
    Restores (fun t => (Record.ofTerm? names t).bind take) (.object ms) a (depth + 1) := by
  subst named
  obtain ⟨ws, members⟩ := exists_writtenMembers? printed
  refine .of_written (w := .object ws) (by rw [written?, members]; rfl) fun room deep => ?_
  have states := states_of_written once (w := .object ws) (by rw [written?, members]; rfl)
  refine gives_record ?_ (fun r room deep held => ?_) _ room states deep
  · rw [List.map_map]
    rfl
  · exact taken r room deep fun m inside => held _ (List.mem_map_of_mem inside)

theorem Restores.required (restores : Restores read j a depth)
    (held : (printedField (name, j)).Held r room) (deep : depth ≤ room) : r.required name read = some a :=
  held.required not_false restores.gives deep

theorem Restores.optional {o : Option α} (restores : Restores (Term.nullable read) j o depth)
    (held : (printedField (name, j)).Held r room) (deep : depth ≤ room) : r.optional name read = some o := by
  cases held with
  | given w found formed =>
    have lookup : r.fields.lookup name = some ⟨w, room⟩ := found
    rw [Record.optional, lookup]
    exact restores.gives w room formed deep
  | leftOut _ omissible => exact omissible.elim

end Record

end ContractLaunch.Json
