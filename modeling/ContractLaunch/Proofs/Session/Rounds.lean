import ContractLaunch.Proofs.Session.Ending
import ContractLaunch.Proofs.Session.Line
/-!
The rounds of a round robin. While a program is unfinished, some program is able to go on, and every
poll of one that has been started before costs it a round that its calls have paid for. So after the
first round every round that leaves a program unfinished leaves fewer rounds to pay, and the number
of rounds that a run side by side makes is enough.
-/
namespace ContractLaunch.Session.Floor

variable {σ α : Type} {f g : Floor σ α} {count who : Nat} {left : Nat → Nat}

def weightAt (f : Floor σ α) (who : Nat) : Nat := (f.programs[who]?.map Progress.weight).getD 0

/-- The rounds that programs may still take which have at most so many calls left. -/
def remaining (duration : Nat → Nat) (f : Floor σ α) (count : Nat) (left : Nat → Nat) : Nat :=
  ∑ who ∈ Finset.range count, f.weightAt who +
    callRounds duration f.made (∑ who ∈ Finset.range count, left who)

def Started (f : Floor σ α) : Prop := ∀ (who : Nat) p, f.programs[who]? = some p → p.isReady = false

theorem weightAt_set {p old : Progress α} (found : f.programs[who]? = some old)
    (programs : g.programs = f.programs.set who p) :
    g.weightAt = Function.update f.weightAt who p.weight := by
  funext other
  unfold weightAt
  rw [programs]
  by_cases same : other = who
  · subst same
    rw [List.getElem?_set_self (List.getElem?_eq_some_iff.mp found).1, Function.update_self]
    rfl
  · rw [List.getElem?_set_ne (Ne.symm same), Function.update_of_ne same]

theorem sum_range_update (h : Nat → Nat) (inside : who < count) (value : Nat) :
    ∃ others, ∑ other ∈ Finset.range count, h other = others + h who ∧
      ∑ other ∈ Finset.range count, Function.update h who value other = others + value := by
  have member := Finset.mem_range.mpr inside
  refine ⟨∑ other ∈ (Finset.range count).erase who, h other, ?_, ?_⟩
  · exact (Finset.sum_erase_add _ h member).symm
  · rw [Finset.sum_update_of_mem member, Finset.sdiff_singleton_eq_erase, Nat.add_comm]

section Polls

variable {serve : Clients σ} {duration : Nat → Nat}

theorem Onward.remaining_le {old p : Progress α} {rest : Nat} (inside : who < count)
    (onward : Onward duration f g who (left who) old p rest) :
    remaining duration g count (Function.update left who rest) + (if old.isReady then 0 else 1) ≤
      remaining duration f count left := by
  obtain ⟨calls, before, after⟩ := sum_range_update left inside rest
  obtain ⟨weights, heavy, light⟩ := sum_range_update f.weightAt inside p.weight
  have weight : f.weightAt who = old.weight := by rw [weightAt, onward.found]; rfl
  have paid := onward.paid calls
  unfold remaining
  rw [before, after, weightAt_set onward.found onward.programs, heavy, light, weight]
  omega

theorem Onward.not_ready {old p : Progress α} {calls rest : Nat}
    (onward : Onward duration f g who calls old p rest) {other : Nat} {q : Progress α}
    (found : g.programs[other]? = some q) (ready : q.isReady = true) :
    other ≠ who ∧ f.programs[other]? = some q := by
  rw [onward.programs] at found
  rcases found_set found with ⟨rfl, rfl⟩ | outside
  · rw [onward.started] at ready
    cases ready
  · exact outside

theorem Onward.ne {old p : Progress α} {calls rest : Nat}
    (onward : Onward duration f g who calls old p rest) : g ≠ f := by
  rintro rfl
  have inside := (List.getElem?_eq_some_iff.mp onward.found).1
  have same : g.programs[who]? = some p := by
    rw [onward.programs, List.getElem?_set_self inside]
  have begun := onward.started
  obtain rfl := Option.some.inj (onward.found.symm.trans same)
  -- Neither the program nor the log has changed, so the poll was paid by nothing.
  obtain ⟨events, grown, -, spent⟩ := onward.grown
  rw [List.self_eq_append_right.mp grown] at spent
  have paid := onward.paid 0
  rw [← spent, begun] at paid
  simp at paid

variable (serve duration)

theorem follow_remaining (sectioned : f.SectionedBy left) (length : f.programs.length = count)
    (schedule : List Nat) :
    ∃ rest, (follow serve duration f schedule).SectionedBy rest ∧
      remaining duration (follow serve duration f schedule) count rest ≤ remaining duration f count left ∧
      (f.Started → (∃ who ∈ schedule, f.Able who) →
        remaining duration (follow serve duration f schedule) count rest < remaining duration f count left) := by
  induction schedule generalizing f left with
  | nil =>
    refine ⟨left, sectioned, le_rfl, fun _ given => ?_⟩
    obtain ⟨_, nobody, _⟩ := given
    cases nobody
  | cons who schedule ih =>
    obtain ⟨stuck, same⟩ | ⟨old, p, calls, onward⟩ := poll_onward serve duration sectioned who
    · -- The floor is the same after this poll, so whoever is able is polled later.
      rw [follow, List.foldl_cons, same]
      obtain ⟨rest, kept, bound, strict⟩ := ih sectioned length
      refine ⟨rest, kept, bound, fun begun given => ?_⟩
      obtain ⟨other, polled, able⟩ := given
      rcases List.mem_cons.mp polled with rfl | later
      · exact absurd able stuck
      · exact strict begun ⟨other, later, able⟩
    · have inside : who < count := length ▸ (List.getElem?_eq_some_iff.mp onward.found).1
      have paid := onward.remaining_le inside
      have length' : (poll serve duration f who).programs.length = count := by
        rw [onward.programs, List.length_set, length]
      obtain ⟨rest, kept, bound, -⟩ := ih (onward.sectionedBy duration sectioned) length'
      refine ⟨rest, kept, bound.trans (by omega), fun begun _ => bound.trans_lt ?_⟩
      rw [begun who old onward.found] at paid
      simpa using paid

theorem follow_ready (sectioned : f.SectionedBy left) (schedule : List Nat) {p : Progress α}
    (found : (follow serve duration f schedule).programs[who]? = some p) (ready : p.isReady = true) :
    who ∉ schedule ∧ f.programs[who]? = some p := by
  induction schedule generalizing f left with
  | nil => exact ⟨List.not_mem_nil, found⟩
  | cons first schedule ih =>
    rw [follow, List.foldl_cons] at found
    obtain ⟨stuck, same⟩ | ⟨old, q, calls, onward⟩ := poll_onward serve duration sectioned first
    · rw [same] at found
      obtain ⟨later, there⟩ := ih sectioned found
      refine ⟨fun inside => ?_, there⟩
      rcases List.mem_cons.mp inside with rfl | after
      · refine stuck ⟨p, there, ?_, ?_⟩
        · cases p with
          | ready => rfl
          | waiting | calling | finished => cases ready
        · rintro role next rfl
          cases ready
      · exact later after
    · obtain ⟨later, there⟩ := ih (onward.sectionedBy duration sectioned) found
      obtain ⟨differs, before⟩ := onward.not_ready there ready
      exact ⟨fun inside => (List.mem_cons.mp inside).elim differs later, before⟩

variable {cost : Nat → Nat ×ₗ Nat} {claims : Nat → Option Role}

theorem InTurn.exists_able (inTurn : f.InTurn count cost claims none) (unfinished : f.isFinished = false) :
    ∃ who < count, f.Able who := by
  obtain ⟨_, _, found, going⟩ := exists_unfinished unfinished
  obtain ⟨who, p, found, going, turn⟩ := inTurn.exists_turn found going
  refine ⟨who, inTurn.length ▸ (List.getElem?_eq_some_iff.mp found).1, p, found, going, ?_⟩
  rintro role next rfl
  exact turn role (inTurn.claims_eq found)

theorem round_remaining (inTurn : f.InTurn count cost claims none) (sectioned : f.SectionedBy left)
    (unfinished : f.isFinished = false) :
    ∃ rest, (round serve duration f).SectionedBy rest ∧ (round serve duration f).Started ∧
      remaining duration (round serve duration f) count rest ≤ remaining duration f count left ∧
      (f.Started →
        remaining duration (round serve duration f) count rest < remaining duration f count left) := by
  unfold round
  rw [inTurn.length]
  obtain ⟨rest, kept, bound, strict⟩ :=
    follow_remaining serve duration sectioned inTurn.length (List.range count)
  obtain ⟨who, inside, able⟩ := inTurn.exists_able unfinished
  refine ⟨rest, kept, ?_, bound, fun begun => strict begun ⟨who, List.mem_range.mpr inside, able⟩⟩
  intro other p found
  by_contra ready
  obtain ⟨unpolled, before⟩ :=
    follow_ready serve duration sectioned _ found (Bool.not_eq_false _ ▸ ready)
  refine unpolled (List.mem_range.mpr ?_)
  exact inTurn.length ▸ (List.getElem?_eq_some_iff.mp before).1

/-- Programs that have been started are finished after as many rounds as they have to pay. -/
theorem rounds_finish (inTurn : f.InTurn count cost claims none) (sectioned : f.SectionedBy left)
    (begun : f.Started) {n : Nat} (enough : remaining duration f count left ≤ n) :
    (rounds serve duration n f).isFinished := by
  induction n generalizing f left cost claims with
  | zero =>
    unfold rounds
    by_contra unfinished
    obtain ⟨rest, -, -, -, strict⟩ :=
      round_remaining serve duration inTurn sectioned (Bool.eq_false_iff.mpr unfinished)
    have less := strict begun
    omega
  | succ n ih =>
    unfold rounds
    split
    next finished => exact finished
    next unfinished =>
      obtain ⟨cost', claims', followed, -⟩ := inTurn.follow serve duration (List.range f.programs.length)
      obtain ⟨rest, kept, begun', -, strict⟩ :=
        round_remaining serve duration inTurn sectioned (Bool.eq_false_iff.mpr unfinished)
      have less := strict begun
      exact ih followed kept begun' (by omega)

/-- The first round starts the programs; it is not paid by any call. -/
theorem rounds_finish_start (inTurn : f.InTurn count cost claims none) (sectioned : f.SectionedBy left)
    {n : Nat} (enough : remaining duration f count left ≤ n) :
    (rounds serve duration (n + 1) f).isFinished := by
  unfold rounds
  split
  next finished => exact finished
  next unfinished =>
    obtain ⟨cost', claims', followed, -⟩ := inTurn.follow serve duration (List.range f.programs.length)
    obtain ⟨rest, kept, begun, bound, -⟩ :=
      round_remaining serve duration inTurn sectioned (Bool.eq_false_iff.mpr unfinished)
    exact rounds_finish serve duration followed kept begun (bound.trans enough)

theorem roundsNeeded_eq (programs calls : Nat) (duration : Nat → Nat) :
    roundsNeeded programs calls duration = programs + callRounds duration 0 calls + 1 := by
  unfold roundsNeeded callRounds
  induction calls with
  | zero => rfl
  | succ calls ih =>
    rw [List.range_succ, List.foldl_append, ih, Finset.sum_range_succ, Nat.zero_add]
    simp only [List.foldl_cons, List.foldl_nil]
    omega

theorem sum_range_getElem (calls : List Nat) :
    ∑ who ∈ Finset.range calls.length, calls[who]?.getD 0 = calls.sum := by
  induction calls with
  | nil => rfl
  | cons first rest ih =>
    rw [List.length_cons, Finset.sum_range_succ', List.sum_cons, ← ih, Nat.add_comm]
    rfl

theorem start_remaining (duration : Nat → Nat) (clients : σ) (starts : List (Program α)) (calls : List Nat)
    (length : calls.length = starts.length) :
    remaining duration (start clients starts) starts.length (fun who => calls[who]?.getD 0) =
      starts.length + callRounds duration 0 calls.sum := by
  have weights : ∑ who ∈ Finset.range starts.length, (start clients starts).weightAt who =
      starts.length := by
    refine (Finset.sum_congr rfl fun who inside => ?_).trans
      ((Finset.card_eq_sum_ones _).symm.trans (Finset.card_range _))
    have found : (start clients starts).programs[who]? =
        some (.ready (starts.get ⟨who, Finset.mem_range.mp inside⟩)) := by
      change (starts.map Progress.ready)[who]? = _
      rw [List.getElem?_map, List.getElem?_eq_getElem (Finset.mem_range.mp inside)]
      rfl
    rw [weightAt, found]
    rfl
  unfold remaining
  rw [weights, ← length, sum_range_getElem]
  rfl

theorem rounds_eq_follow (inTurn : f.InTurn count cost claims none) (n : Nat) :
    ∃ made, rounds serve duration n f =
      follow serve duration f (List.replicate made (List.range count)).flatten := by
  induction n generalizing f cost claims with
  | zero => exact ⟨0, rfl⟩
  | succ n ih =>
    unfold rounds
    split
    · exact ⟨0, rfl⟩
    · obtain ⟨cost', claims', followed, -⟩ := inTurn.follow serve duration (List.range count)
      obtain ⟨made, same⟩ := ih followed
      refine ⟨made + 1, ?_⟩
      rw [round, inTurn.length, same, List.replicate_succ, List.flatten_cons, follow_append]

end Polls

end ContractLaunch.Session.Floor
