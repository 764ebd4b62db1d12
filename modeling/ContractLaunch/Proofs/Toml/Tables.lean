import ContractLaunch.Toml.Reading
/-!
A member in front of a document. What a line of a document does is decided by its text alone, and it
changes the top table under one name at most. So a member under a name that the document does not use
can stand before everything else, and no line notices.
-/
namespace ContractLaunch.Toml

variable {key step : String} {d : Draft} {ms after : Members}

namespace Members

theorem lookup_put_self : (ms.put key d).lookup key = some d := by
  induction ms with
  | nil => simp [put]
  | cons first rest ih =>
    obtain ⟨k, old⟩ := first
    by_cases same : k = key
    · simp [put, same]
    · simp [put, same, List.lookup_cons, beq_eq_false_iff_ne.mpr (Ne.symm same), ih]

theorem lookup_put_of_ne (other : key ≠ step) : (ms.put step d).lookup key = ms.lookup key := by
  induction ms with
  | nil => simp [put, other]
  | cons first rest ih =>
    obtain ⟨k, old⟩ := first
    by_cases same : k = step
    · subst same
      simp [put, List.lookup_cons, beq_eq_false_iff_ne.mpr other]
    · simp [put, same, List.lookup_cons, ih]

theorem put_eq_append (unused : ms.lookup key = none) : ms.put key d = ms ++ [(key, d)] := by
  induction ms with
  | nil => rfl
  | cons first rest ih =>
    obtain ⟨k, old⟩ := first
    have apart : k ≠ key := by
      rintro rfl
      simp at unused
    rw [List.lookup_cons, beq_eq_false_iff_ne.mpr apart.symm] at unused
    simp [put, apart, ih unused]

/-- The change puts a draft under one name, and what draft that is depends on nothing but what stood
there. -/
def Places (step : String) (change : Members → Option Members) : Prop :=
  ∀ ms other : Members, ms.lookup step = other.lookup step → ∀ after, change ms = some after →
    ∃ d, after = ms.put step d ∧ change other = some (other.put step d)

theorem add?_places (v : Toml) : Places key (add? key v) := by
  intro ms other same after changed
  unfold add? at changed ⊢
  split at changed
  · contradiction
  next unused =>
    have unused := Option.not_isSome_iff_eq_none.mp unused
    obtain rfl := Option.some.inj changed
    refine ⟨.value v, (put_eq_append unused).symm, ?_⟩
    rw [← same, unused, put_eq_append (same ▸ unused)]
    simp

theorem assign?_places (key : String) (v : Toml) (path : List String) :
    ∃ step, Places step (assign? key v path) := by
  cases path with
  | nil => exact ⟨key, add?_places v⟩
  | cons step path =>
    refine ⟨step, fun ms other same after changed => ?_⟩
    unfold assign? at changed ⊢
    rw [← same]
    cases found : ms.lookup step with
    | none =>
      rw [found] at changed
      obtain ⟨inner, made, rfl⟩ := Option.map_eq_some_iff.mp changed
      refine ⟨.table .dotted inner, (put_eq_append found).symm, ?_⟩
      simp [made, put_eq_append (same ▸ found)]
    | some draft =>
      rw [found] at changed
      cases draft with
      | value old => contradiction
      | table origin inner =>
        dsimp only at changed ⊢
        split at changed
        · contradiction
        next open_ =>
          obtain ⟨inner, made, rfl⟩ := Option.map_eq_some_iff.mp changed
          exact ⟨.table origin inner, rfl, by rw [if_neg open_, made, Option.map_some]⟩
      | tables earlier last =>
        dsimp only at changed ⊢
        split at changed
        · contradiction
        next open_ =>
          obtain ⟨last, made, rfl⟩ := Option.map_eq_some_iff.mp changed
          exact ⟨.tables earlier last, rfl, by rw [if_neg open_, made, Option.map_some]⟩

theorem define?_places (key : String) : Places key (define? key) := by
  intro ms other same after changed
  unfold define? at changed ⊢
  rw [← same]
  cases found : ms.lookup key with
  | none =>
    rw [found] at changed
    obtain rfl := Option.some.inj changed
    refine ⟨.table .header [], (put_eq_append found).symm, ?_⟩
    simp [put_eq_append (same ▸ found)]
  | some draft =>
    rw [found] at changed
    split at changed
    next => contradiction
    next inner implied =>
      obtain rfl := Option.some.inj implied
      obtain rfl := Option.some.inj changed
      exact ⟨.table .header inner, rfl, rfl⟩
    next => contradiction

theorem extend?_places (key : String) : Places key (extend? key) := by
  intro ms other same after changed
  unfold extend? at changed ⊢
  rw [← same]
  cases found : ms.lookup key with
  | none =>
    rw [found] at changed
    obtain rfl := Option.some.inj changed
    refine ⟨.tables [] [], (put_eq_append found).symm, ?_⟩
    simp [put_eq_append (same ▸ found)]
  | some draft =>
    rw [found] at changed
    split at changed
    next => contradiction
    next earlier last tables =>
      obtain rfl := Option.some.inj tables
      obtain rfl := Option.some.inj changed
      exact ⟨.tables (earlier ++ [last]) [], rfl, rfl⟩
    next => contradiction

/-- A change deep in the tables still happens under one name of the top table. -/
theorem descend?_places {change : Members → Option Members} (places : Places key change)
    (path : List String) : ∃ step, Places step (descend? change path) := by
  cases path with
  | nil => exact ⟨key, places⟩
  | cons step path =>
    refine ⟨step, fun ms other same after changed => ?_⟩
    unfold descend? at changed ⊢
    rw [← same]
    cases found : ms.lookup step with
    | none =>
      rw [found] at changed
      obtain ⟨inner, made, rfl⟩ := Option.map_eq_some_iff.mp changed
      refine ⟨.table .implied inner, (put_eq_append found).symm, ?_⟩
      simp [made, put_eq_append (same ▸ found)]
    | some draft =>
      rw [found] at changed
      cases draft with
      | value old => contradiction
      | table origin inner =>
        obtain ⟨inner, made, rfl⟩ := Option.map_eq_some_iff.mp changed
        exact ⟨.table origin inner, rfl, by simp [made]⟩
      | tables earlier last =>
        obtain ⟨last, made, rfl⟩ := Option.map_eq_some_iff.mp changed
        exact ⟨.tables earlier last, rfl, by simp [made]⟩

/-- A change does not care for a member in front whose name it does not leave behind. -/
theorem Places.front {change : Members → Option Members} (places : Places step change)
    (changed : change ms = some after) (unused : after.lookup key = none) :
    ms.lookup key = none ∧ ∀ m, change ((key, m) :: ms) = some ((key, m) :: after) := by
  obtain ⟨d, rfl, -⟩ := places ms ms rfl after changed
  have apart : key ≠ step := by
    rintro rfl
    rw [lookup_put_self] at unused
    contradiction
  rw [lookup_put_of_ne apart] at unused
  refine ⟨unused, fun m => ?_⟩
  have same : ms.lookup step = ((key, m) :: ms).lookup step := by
    rw [List.lookup_cons, beq_eq_false_iff_ne.mpr apart.symm]
  obtain ⟨d', put, moved⟩ := places ms ((key, m) :: ms) same _ changed
  rw [moved, put, Members.put, if_neg apart]

end Members

namespace Document

def front (d : Document) (key : String) (m : Draft) : Document := { d with top := (key, m) :: d.top }

end Document

/-- What a line does to a document. -/
inductive Change where
  | nothing
  | assign (key : Key) (v : Toml)
  | define (key : Key)
  | extend (key : Key)

def Document.change? (d : Document) : Change → Option Document
  | .nothing => some d
  | .assign key v => d.assign? key v
  | .define key => d.define? key
  | .extend key => d.extend? key

def extension? (cs : List Char) : Option (Change × List Char) := do
  match ← key? cs with
  | (key, ']' :: ']' :: rest) => return (.extend key, ← afterLine? rest)
  | _ => none

def definition? (cs : List Char) : Option (Change × List Char) := do
  match ← key? cs with
  | (key, ']' :: rest) => return (.define key, ← afterLine? rest)
  | _ => none

def assignment? (cs : List Char) : Option (Change × List Char) := do
  match ← key? cs with
  | (key, '=' :: rest) =>
    let (v, rest) ← value? (rest.dropWhile isBlank)
    return (.assign key v, ← afterLine? rest)
  | _ => none

def change? : List Char → Option (Change × List Char)
  | '#' :: cs => (afterLine? ('#' :: cs)).map (.nothing, ·)
  | '\r' :: cs => (afterBreak? ('\r' :: cs)).map (.nothing, ·)
  | '\n' :: cs => (afterBreak? ('\n' :: cs)).map (.nothing, ·)
  | '[' :: '[' :: cs => extension? cs
  | '[' :: cs => definition? cs
  | cs => assignment? cs

/-- Whether the change or the end of its line is looked at first does not matter. -/
theorem Document.change?_then (d : Document) (c : Change) (rest : List Char) :
    ((d.change? c).bind fun later => (afterLine? rest).bind fun rest => some (later, rest)) =
      ((afterLine? rest).bind fun rest => some (c, rest)).bind fun (c, rest) =>
        (d.change? c).map (·, rest) := by
  cases changed : d.change? c with
  | none => cases afterLine? rest <;> simp [changed]
  | some later => cases afterLine? rest <;> simp [changed]

theorem Document.line?_eq (d : Document) (cs : List Char) :
    d.line? cs = (Toml.change? cs).bind fun (c, rest) => (d.change? c).map (·, rest) := by
  unfold line?
  split
  · rw [Toml.change?]
    cases afterLine? _ <;> rfl
  · rw [Toml.change?]
    cases afterBreak? _ <;> rfl
  · rw [Toml.change?]
    cases afterBreak? _ <;> rfl
  · rw [Toml.change?, extension?]
    cases key? _ with
    | none => rfl
    | some found =>
      simp only [Option.bind_eq_bind, Option.bind_some]
      split
      next key rest => exact change?_then d (.extend key) rest
      next apart => simp
  next apart =>
    rw [Toml.change?, definition?]
    · cases key? _ with
      | none => rfl
      | some found =>
        simp only [Option.bind_eq_bind, Option.bind_some]
        split
        next key rest => exact change?_then d (.define key) rest
        next apart => simp
    · exact apart
  · rw [Toml.change?, assignment?]
    · cases key? _ with
      | none => rfl
      | some found =>
        simp only [Option.bind_eq_bind, Option.bind_some]
        split
        next key rest =>
          change _ = ((value? (rest.dropWhile isBlank)).bind fun (v, rest) =>
            (afterLine? rest).bind fun rest => some (Change.assign key v, rest)).bind _
          cases value? (rest.dropWhile isBlank) with
          | none => rfl
          | some read =>
            obtain ⟨v, more⟩ := read
            exact change?_then d (.assign key v) more
        next apart => simp
    all_goals assumption

section Front

variable {doc later : Document} {cs rest : List Char}

theorem Document.change?_front {c : Change} (changed : doc.change? c = some later)
    (unused : later.top.lookup key = none) :
    doc.top.lookup key = none ∧ ∀ m, (doc.front key m).change? c = some (later.front key m) := by
  cases c with
  | nothing =>
    obtain rfl := Option.some.inj changed
    exact ⟨unused, fun m => rfl⟩
  | assign named v =>
    obtain ⟨top, made, same⟩ := Option.bind_eq_some_iff.mp changed
    obtain rfl := Option.some.inj same
    obtain ⟨step, places⟩ := Members.assign?_places named.last v named.path
    obtain ⟨step, places⟩ := Members.descend?_places places doc.current
    obtain ⟨before, moved⟩ := places.front made unused
    exact ⟨before, fun m => by simp [change?, assign?, front, moved m]⟩
  | define named =>
    obtain ⟨top, made, same⟩ := Option.bind_eq_some_iff.mp changed
    obtain rfl := Option.some.inj same
    obtain ⟨step, places⟩ := Members.descend?_places (Members.define?_places named.last) named.path
    obtain ⟨before, moved⟩ := places.front made unused
    exact ⟨before, fun m => by simp [change?, define?, front, moved m]⟩
  | extend named =>
    obtain ⟨top, made, same⟩ := Option.bind_eq_some_iff.mp changed
    obtain rfl := Option.some.inj same
    obtain ⟨step, places⟩ := Members.descend?_places (Members.extend?_places named.last) named.path
    obtain ⟨before, moved⟩ := places.front made unused
    exact ⟨before, fun m => by simp [change?, extend?, front, moved m]⟩

theorem Document.line?_front (read : doc.line? cs = some (later, rest))
    (unused : later.top.lookup key = none) :
    doc.top.lookup key = none ∧ ∀ m, (doc.front key m).line? cs = some (later.front key m, rest) := by
  rw [line?_eq] at read
  obtain ⟨⟨c, rest⟩, decided, changing⟩ := Option.bind_eq_some_iff.mp read
  obtain ⟨later, changed, same⟩ := Option.map_eq_some_iff.mp changing
  cases same
  obtain ⟨before, moved⟩ := change?_front changed unused
  refine ⟨before, fun m => ?_⟩
  rw [line?_eq, decided, Option.bind_some]
  exact Option.map_eq_some_iff.mpr ⟨_, moved m, rfl⟩

/-- A document that reads without a name reads the same after a member of that name, which stays in
front. -/
theorem Document.lines?_front {fuel more : Nat} (read : lines? fuel doc cs = some later)
    (unused : later.top.lookup key = none) (enough : fuel ≤ more) :
    doc.top.lookup key = none ∧ ∀ m, lines? more (doc.front key m) cs = some (later.front key m) := by
  induction fuel generalizing doc cs more with
  | zero => contradiction
  | succ fuel ih =>
    obtain _ | more := more
    · contradiction
    unfold lines? at read ⊢
    cases text : cs.dropWhile isBlank with
    | nil =>
      rw [text] at read
      obtain rfl := Option.some.inj read
      exact ⟨unused, fun m => rfl⟩
    | cons c following =>
      rw [text] at read
      obtain ⟨⟨between, rest⟩, first, others⟩ := Option.bind_eq_some_iff.mp read
      obtain ⟨unused, moved⟩ := ih others (Nat.le_of_succ_le_succ enough)
      obtain ⟨before, led⟩ := line?_front first unused
      refine ⟨before, fun m => ?_⟩
      exact Option.bind_eq_some_iff.mpr ⟨_, led m, moved m⟩

end Front

end ContractLaunch.Toml
