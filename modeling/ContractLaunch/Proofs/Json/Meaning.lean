import ContractLaunch.Json.Reading
import ContractLaunch.Proofs.Json.Members
import ContractLaunch.Proofs.Json.Printing
import ContractLaunch.Proofs.Json.Recognition
/-!
What a tree means, apart from how it is read: the members of an object in any order, of several with
one key the last. A value is read from a text exactly if a tree that means it stands there and is not
nested too deep. A message, which has whole numbers only, is read back from what is printed for it.
-/
namespace ContractLaunch.Json

/-- What a tree says. -/
inductive Written.Means : Written → Json → Prop
  | null : Means .null .null
  | bool (b : Bool) : Means (.bool b) (.bool b)
  | number (literal : NumberLiteral) (n : JsonNumber) (value : literal.value? = some n) :
      Means (.number literal) (.number n)
  | text (s : String) : Means (.text (some s)) (.text s)
  | array (ws : List Written) (vs : List Json) (items : List.Forall₂ Means ws vs) :
      Means (.array ws) (.array vs)
  | object (written : List (Option String × Written)) (listed members : List (String × Json))
      (keys : written.map Prod.fst = listed.map fun m => some m.1)
      (values : List.Forall₂ Means (written.map Prod.snd) (listed.map Prod.snd))
      (sorts : Sorts listed members) : Means (.object written) (.object members)

mutual

def Written.depth : Written → Nat
  | .array ws => Written.depthItems ws + 1
  | .object ms => Written.depthMembers ms + 1
  | _ => 0

def Written.depthItems : List Written → Nat
  | [] => 0
  | w :: ws => max w.depth (Written.depthItems ws)

def Written.depthMembers : List (Option String × Written) → Nat
  | [] => 0
  | (_, w) :: ms => max w.depth (Written.depthMembers ms)

end

mutual

def depth : Json → Nat
  | .array vs => depthItems vs + 1
  | .object ms => depthMembers ms + 1
  | _ => 0

def depthItems : List Json → Nat
  | [] => 0
  | v :: vs => max v.depth (depthItems vs)

def depthMembers : List (String × Json) → Nat
  | [] => 0
  | (_, v) :: ms => max v.depth (depthMembers ms)

end

-- By recursion on the tree, for every value: what is read of it, of its items and of its members.
mutual

/-- A value is read of a tree exactly if the tree means it and is not nested too deep. -/
theorem Written.value?_eq_some_iff (w : Written) {room : Nat} {v : Json} :
    w.value? room = some v ↔ w.Means v ∧ w.depth ≤ room := by
  match w with
  | .null =>
    constructor
    · rintro ⟨⟩
      exact ⟨.null, Nat.zero_le _⟩
    · rintro ⟨⟨⟩, -⟩
      rfl
  | .bool b =>
    constructor
    · rintro ⟨⟩
      exact ⟨.bool b, Nat.zero_le _⟩
    · rintro ⟨⟨⟩, -⟩
      rfl
  | .number literal =>
    rw [Written.value?, Option.map_eq_some_iff]
    constructor
    · rintro ⟨n, value, rfl⟩
      exact ⟨.number literal n value, Nat.zero_le _⟩
    · rintro ⟨means, -⟩
      cases means with
      | number _ n value => exact ⟨n, value, rfl⟩
  | .text t =>
    rw [Written.value?, Option.map_eq_some_iff]
    constructor
    · rintro ⟨s, rfl, rfl⟩
      exact ⟨.text s, Nat.zero_le _⟩
    · rintro ⟨means, -⟩
      cases means with
      | text s => exact ⟨s, rfl, rfl⟩
  | .array ws =>
    cases room with
    | zero => simp [Written.value?, Written.depth]
    | succ room =>
      rw [Written.value?, if_neg (Nat.succ_ne_zero room), Option.map_eq_some_iff, Written.depth,
        Nat.add_le_add_iff_right]
      constructor
      · rintro ⟨vs, items, rfl⟩
        obtain ⟨means, shallow⟩ := (Written.values?_eq_some_iff ws).mp items
        exact ⟨.array ws vs means, shallow⟩
      · rintro ⟨means, shallow⟩
        cases means with
        | array _ vs items => exact ⟨vs, (Written.values?_eq_some_iff ws).mpr ⟨items, shallow⟩, rfl⟩
  | .object ms =>
    cases room with
    | zero => simp [Written.value?, Written.depth]
    | succ room =>
      rw [Written.value?, if_neg (Nat.succ_ne_zero room), Option.map_eq_some_iff, Written.depth,
        Nat.add_le_add_iff_right]
      constructor
      · rintro ⟨listed, read, rfl⟩
        obtain ⟨keys, values, shallow⟩ := (Written.memberValues?_eq_some_iff ms).mp read
        exact ⟨.object ms listed _ keys values (sorts_sorted listed), shallow⟩
      · rintro ⟨means, shallow⟩
        cases means with
        | object _ listed members keys values sorts =>
          refine ⟨listed, (Written.memberValues?_eq_some_iff ms).mpr ⟨keys, values, shallow⟩, ?_⟩
          rw [sorted_eq_iff.mpr sorts]

theorem Written.values?_eq_some_iff (ws : List Written) {room : Nat} {vs : List Json} :
    Written.values? room ws = some vs ↔
      List.Forall₂ Written.Means ws vs ∧ Written.depthItems ws ≤ room := by
  match ws with
  | [] => simp [Written.values?, Written.depthItems, eq_comm]
  | w :: ws =>
    rw [Written.values?, Written.depthItems, max_le_iff]
    constructor
    · intro read
      split at read
      next v others first further =>
        obtain rfl := Option.some.inj read
        obtain ⟨means, shallow⟩ := (Written.value?_eq_some_iff w).mp first
        obtain ⟨items, shallow'⟩ := (Written.values?_eq_some_iff ws).mp further
        exact ⟨.cons means items, shallow, shallow'⟩
      next => cases read
    · rintro ⟨means, shallow, shallow'⟩
      cases means with
      | cons first further =>
        rw [(Written.value?_eq_some_iff w).mpr ⟨first, shallow⟩,
          (Written.values?_eq_some_iff ws).mpr ⟨further, shallow'⟩]

theorem Written.memberValues?_eq_some_iff (ms : List (Option String × Written)) {room : Nat}
    {listed : List (String × Json)} : Written.memberValues? room ms = some listed ↔
      ms.map Prod.fst = listed.map (fun m => some m.1) ∧
        List.Forall₂ Written.Means (ms.map Prod.snd) (listed.map Prod.snd) ∧
        Written.depthMembers ms ≤ room := by
  match ms with
  | [] =>
    constructor
    · rintro ⟨⟩
      exact ⟨rfl, .nil, Nat.zero_le _⟩
    · rintro ⟨keys, -, -⟩
      cases listed with
      | nil => rfl
      | cons m listed => cases keys
  | (key, w) :: ms =>
    rw [Written.memberValues?.eq_def, Written.depthMembers, max_le_iff]
    dsimp only
    constructor
    · intro read
      split at read
      next k v others first further =>
        obtain rfl := Option.some.inj read
        obtain ⟨means, shallow⟩ := (Written.value?_eq_some_iff w).mp first
        obtain ⟨keys, values, shallow'⟩ := (Written.memberValues?_eq_some_iff ms).mp further
        exact ⟨congrArg (some k :: ·) keys, .cons means values, shallow, shallow'⟩
      next => cases read
    · rintro ⟨keys, values, shallow, shallow'⟩
      cases listed with
      | nil => cases keys
      | cons m listed =>
        obtain ⟨k, v⟩ := m
        obtain ⟨rfl, others⟩ := List.cons.inj keys
        cases values with
        | cons first further =>
          rw [(Written.value?_eq_some_iff w).mpr ⟨first, shallow⟩,
            (Written.memberValues?_eq_some_iff ms).mpr ⟨others, further, shallow'⟩]

end

/-- A text is JSON for a value: a tree that means the value stands in it, nested no deeper than readers go. -/
def IsTextOf (cs : List Char) (v : Json) : Prop :=
  ∃ w : Written, w.StandsIn cs ∧ w.Means v ∧ w.depth ≤ nestingLimit

theorem read?_trim_eq_some_iff {cs : List Char} {v : Json} :
    read? (Text.trim cs) = some v ↔ IsTextOf cs v := by
  unfold read? Reader.ofChars? IsTextOf
  rw [Option.bind_eq_some_iff]
  refine exists_congr fun w => ?_
  rw [Written.read?_trim_eq_some_iff, Term.json?, Written.value?_eq_some_iff]

/-- A value whose numbers are whole and fit in 64 bits, signed or unsigned, and whose objects have each key
once, in order. -/
inductive Whole : Json → Prop
  | null : Whole .null
  | bool (b : Bool) : Whole (.bool b)
  | integer (i : Int) (least : -2 ^ 63 ≤ i) (below : i < 2 ^ 64) : Whole (.number (.integer i))
  | text (s : String) : Whole (.text s)
  | array (vs : List Json) (items : ∀ v ∈ vs, Whole v) : Whole (.array vs)
  | object (ms : List (String × Json)) (ascending : Ascending ms) (values : ∀ m ∈ ms, Whole m.2) :
      Whole (.object ms)

structure IsMessage (m : Json) : Prop where
  whole : Whole m
  shallow : m.depth ≤ nestingLimit

theorem value?_ofInt {i : Int} (least : -2 ^ 63 ≤ i) (below : i < 2 ^ 64) :
    (NumberLiteral.ofInt i).value? = some (.integer i) := by
  have magnitude : Nat.ofDigitChars 10 (Nat.toDigits 10 i.natAbs) 0 = i.natAbs :=
    Nat.ofDigitChars_ten_toDigits
  have size : UInt64.size = 2 ^ 64 := rfl
  unfold NumberLiteral.value? NumberLiteral.ofInt
  rw [magnitude]
  rcases lt_or_ge i 0 with negative | positive
  · have fits : 0 < i.natAbs ∧ i.natAbs ≤ 0x8000000000000000 := by omega
    simp [negative, fits, abs_of_neg negative]
  · have small : i.natAbs < UInt64.size := by omega
    simp [not_lt.mpr positive, small, abs_of_nonneg positive]

-- By recursion on the value: the tree that is printed for it, for its items and for its members.
mutual

theorem exists_written (j : Json) (whole : Whole j) :
    ∃ w, written? j = some w ∧ w.Means j ∧ w.depth = j.depth := by
  match j with
  | .null => exact ⟨.null, rfl, .null, rfl⟩
  | .bool b => exact ⟨.bool b, rfl, .bool b, rfl⟩
  | .number (.integer i) =>
    cases whole with
    | integer _ least below => exact ⟨_, rfl, .number _ _ (value?_ofInt least below), rfl⟩
  | .number (.real x) => cases whole
  | .text s => exact ⟨.text (some s), rfl, .text s, rfl⟩
  | .array vs =>
    cases whole with
    | array _ items =>
      obtain ⟨ws, written, means, deep⟩ := exists_writtenItems vs items
      exact ⟨.array ws, by rw [written?, written]; rfl, .array ws vs means, by
        rw [Written.depth, depth, deep]⟩
  | .object ms =>
    cases whole with
    | object _ ascending values =>
      obtain ⟨ws, written, keys, means, deep⟩ := exists_writtenMembers ms values
      exact ⟨.object ws, by rw [written?, written]; rfl, .object ws ms ms keys means ascending.sorts, by
        rw [Written.depth, depth, deep]⟩

theorem exists_writtenItems (vs : List Json) (items : ∀ v ∈ vs, Whole v) :
    ∃ ws, writtenItems? vs = some ws ∧ List.Forall₂ Written.Means ws vs ∧
      Written.depthItems ws = depthItems vs := by
  match vs with
  | [] => exact ⟨[], rfl, .nil, rfl⟩
  | v :: vs =>
    obtain ⟨first, others⟩ := List.forall_mem_cons.mp items
    obtain ⟨w, written, means, deep⟩ := exists_written v first
    obtain ⟨ws, writtens, meanings, deeps⟩ := exists_writtenItems vs others
    exact ⟨w :: ws, by rw [writtenItems?, written, writtens], .cons means meanings, by
      rw [Written.depthItems, depthItems, deep, deeps]⟩

theorem exists_writtenMembers (ms : List (String × Json)) (values : ∀ m ∈ ms, Whole m.2) :
    ∃ ws, writtenMembers? ms = some ws ∧ ws.map Prod.fst = ms.map (fun m => some m.1) ∧
      List.Forall₂ Written.Means (ws.map Prod.snd) (ms.map Prod.snd) ∧
      Written.depthMembers ws = depthMembers ms := by
  match ms with
  | [] => exact ⟨[], rfl, rfl, .nil, rfl⟩
  | (key, v) :: ms =>
    obtain ⟨first, others⟩ := List.forall_mem_cons.mp values
    obtain ⟨w, written, means, deep⟩ := exists_written v first
    obtain ⟨ws, writtens, keys, meanings, deeps⟩ := exists_writtenMembers ms others
    exact ⟨(some key, w) :: ws, by rw [writtenMembers?, written, writtens],
      congrArg (some key :: ·) keys, .cons means meanings, by
      rw [Written.depthMembers, depthMembers, deep, deeps]⟩

end

theorem IsMessage.read?_compact {m : Json} (message : IsMessage m) : read? m.compact.toList = some m := by
  obtain ⟨w, written, means, deep⟩ := exists_written m message.whole
  have spelled : Spelled w.tokens m.compact.toList := by
    rw [compact, String.toList_ofList]
    exact spelled_chars m written
  unfold read? Reader.ofChars?
  rw [Written.read?_spelled spelled, Option.bind_some, Term.json?, Written.value?_eq_some_iff]
  exact ⟨means, deep.trans_le message.shallow⟩

end ContractLaunch.Json
