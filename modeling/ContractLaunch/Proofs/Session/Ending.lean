import ContractLaunch.Proofs.Session.Turns
import Mathlib.Algebra.Order.BigOperators.Group.Finset
/-!
Programs that run side by side come to their end. As long as one is unfinished, some program can go
on; and since every poll that changes anything makes less to do, polling all of them over and over
finishes them.
-/
namespace ContractLaunch.Session.Floor

variable {σ α : Type} {f : Floor σ α} {count who : Nat} {cost : Nat → Nat ×ₗ Nat}
  {claims : Nat → Option Role} {p : Progress α}

/-- A poll of a program leaves all programs in turn, and this one with less to do. -/
def Moves (serve : Clients σ) (duration : Nat → Nat) (f : Floor σ α) (count : Nat)
    (cost : Nat → Nat ×ₗ Nat) (who : Nat) : Prop :=
  who < count ∧ ∃ left < cost who, ∃ claims,
    (poll serve duration f who).InTurn count (Function.update cost who left) claims none

section Polls

variable (serve : Clients σ) (duration : Nat → Nat)

theorem InTurn.moves (inTurn : f.InTurn count cost claims none) (found : f.programs[who]? = some p)
    (unfinished : p.isFinished = false) (turn : f.HasTurn who (claims who)) :
    f.Moves serve duration count cost who := by
  have inside : who < count := inTurn.length ▸ (List.getElem?_eq_some_iff.mp found).1
  have onward := inTurn.forget who
  refine ⟨inside, ?_⟩
  unfold poll
  rw [found]
  have stands := inTurn.stands who p found (Option.some_ne_none who)
  generalize price : cost who = paid at stands
  generalize claimed : claims who = claim at stands turn
  cases stands with
  | ready next acts disciplined =>
    exact advance_inTurn serve duration inside disciplined onward claimed turn
  | waiting role next acts disciplined =>
    dsimp only
    rw [if_pos (turn role rfl)]
    exact advance_inTurn serve duration inside disciplined onward claimed turn
  | calling polls role c reply next acts first kept =>
    dsimp only
    split
    · obtain ⟨left, less, carried⟩ := advance_inTurn serve duration inside (kept reply)
        (onward.closeCall.record (.answered who role c reply)) claimed turn
      exact ⟨left, less.trans_le (Prod.Lex.toLex_le_toLex.mpr (.inr ⟨rfl, Nat.zero_le polls⟩)), carried⟩
    next many =>
      have fewer : toLex (acts + 1, polls - 1) < toLex (acts + 1, polls) :=
        Prod.Lex.toLex_lt_toLex.mpr (.inr ⟨rfl, by omega⟩)
      refine ⟨_, fewer, claims, onward.settle ?_⟩
      rw [claimed]
      exact .calling _ role c reply next acts turn kept
  | finished a => cases unfinished

theorem InTurn.poll_cases (inTurn : f.InTurn count cost claims none) (who : Nat) :
    poll serve duration f who = f ∨ f.Moves serve duration count cost who := by
  cases found : f.programs[who]? with
  | none => exact .inl (by simp [poll, found])
  | some p =>
    by_cases turn : f.HasTurn who (claims who)
    · cases unfinished : p.isFinished with
      | false => exact .inr (inTurn.moves serve duration found unfinished turn)
      | true =>
        cases p with
        | finished a => exact .inl (by simp [poll, found])
        | ready | waiting | calling => cases unfinished
    · have stands := inTurn.stands who p found (Option.some_ne_none who)
      generalize cost who = paid at stands
      generalize claims who = claim at stands turn
      cases stands with
      | waiting role next acts disciplined =>
        have behind : (f.lock role).holder ≠ some who := by
          intro first
          refine turn fun role' same => ?_
          exact Option.some.inj same ▸ first
        exact .inl (by simp [poll, found, behind])
      | ready | finished => exact absurd (hasTurn_none _ _) turn
      | calling polls role c reply next acts first kept => exact absurd first turn

theorem InTurn.exists_turn (inTurn : f.InTurn count cost claims none)
    (found : f.programs[who]? = some p) (unfinished : p.isFinished = false) :
    ∃ other q, f.programs[other]? = some q ∧ q.isFinished = false ∧ f.HasTurn other (claims other) := by
  by_cases turn : f.HasTurn who (claims who)
  · exact ⟨who, p, found, unfinished, turn⟩
  unfold HasTurn at turn
  push Not at turn
  obtain ⟨role, claimed, behind⟩ := turn
  have serves := inTurn.serves role
  have standing : who ∈ (f.lock role).line := (serves.stands who).mpr claimed
  -- The line is not empty, so the lock has a holder, and it is the holder's turn.
  cases held : (f.lock role).holder with
  | none =>
    rw [Lock.line, held, serves.free held] at standing
    cases standing
  | some first =>
    have claims_first : claims first = some role := by
      refine (serves.stands first).mp ?_
      rw [Lock.line, held]
      exact List.mem_cons_self
    have inside : first < f.programs.length := by
      by_contra outside
      rw [inTurn.absent first (by rw [← inTurn.length]; omega)] at claims_first
      cases claims_first
    have found_first := List.getElem?_eq_getElem inside
    refine ⟨first, _, found_first, ?_, ?_⟩
    · have stands := inTurn.stands first _ found_first (Option.some_ne_none first)
      rw [claims_first] at stands
      generalize claimed' : some role = claim at stands
      generalize cost first = paid at stands
      generalize f.programs[first] = q at stands
      cases stands with
      | ready | finished => cases claimed'
      | waiting | calling => rfl
    · rw [claims_first]
      intro _ same
      cases same
      exact held

/-- Nobody waits for ever: while a program is unfinished, some program can go on. -/
theorem InTurn.exists_moves (inTurn : f.InTurn count cost claims none)
    (found : f.programs[who]? = some p) (unfinished : p.isFinished = false) :
    ∃ other, f.Moves serve duration count cost other := by
  obtain ⟨other, q, there, going, turn⟩ := inTurn.exists_turn found unfinished
  exact ⟨other, inTurn.moves serve duration there going turn⟩

def total (count : Nat) (cost : Nat → Nat ×ₗ Nat) : Nat ×ₗ Nat := ∑ who ∈ Finset.range count, cost who

theorem total_update {left : Nat ×ₗ Nat} (inside : who < count) (less : left < cost who) :
    total count (Function.update cost who left) < total count cost := by
  refine Finset.sum_lt_sum (fun other _ => ?_) ⟨who, Finset.mem_range.mpr inside, ?_⟩
  · by_cases same : other = who
    · subst same
      rw [Function.update_self]
      exact less.le
    · rw [Function.update_of_ne same]
  · rw [Function.update_self]
    exact less

theorem InTurn.follow (inTurn : f.InTurn count cost claims none) (schedule : List Nat) :
    ∃ cost' claims', (follow serve duration f schedule).InTurn count cost' claims' none ∧
      total count cost' ≤ total count cost ∧
      ((∃ who ∈ schedule, f.Moves serve duration count cost who) → total count cost' < total count cost) := by
  induction schedule generalizing f cost claims with
  | nil =>
    refine ⟨cost, claims, inTurn, le_rfl, ?_⟩
    intro given
    obtain ⟨_, nobody, _⟩ := given
    cases nobody
  | cons who rest ih =>
    by_cases moves : f.Moves serve duration count cost who
    · obtain ⟨inside, left, less, claims', onward⟩ := moves
      have fewer := total_update inside less
      obtain ⟨cost', claims'', followed, bound, _⟩ := ih onward
      have smaller := bound.trans_lt fewer
      exact ⟨cost', claims'', followed, smaller.le, fun _ => smaller⟩
    · -- The floor is the same after this poll, so whoever can go on is polled later.
      have still := (inTurn.poll_cases serve duration who).resolve_right moves
      obtain ⟨cost', claims', followed, bound, strict⟩ := ih inTurn
      rw [Floor.follow, List.foldl_cons, still]
      refine ⟨cost', claims', followed, bound, ?_⟩
      intro given
      obtain ⟨other, polled, able⟩ := given
      rcases List.mem_cons.mp polled with rfl | later
      · exact absurd able moves
      · exact strict ⟨other, later, able⟩

theorem follow_append (first second : List Nat) :
    f.follow serve duration (first ++ second) =
      (f.follow serve duration first).follow serve duration second := List.foldl_append

theorem exists_unfinished (unfinished : f.isFinished = false) :
    ∃ (who : Nat) (p : Progress α), f.programs[who]? = some p ∧ p.isFinished = false := by
  obtain ⟨p, member, unended⟩ := List.all_eq_false.mp unfinished
  obtain ⟨who, found⟩ := List.getElem?_of_mem member
  exact ⟨who, p, found, Bool.eq_false_iff.mpr unended⟩

theorem InTurn.finishes (inTurn : f.InTurn count cost claims none) :
    ∃ rounds, (f.follow serve duration (List.replicate rounds (List.range count)).flatten).isFinished := by
  -- By induction on what is left to do: an unfinished floor has a program that can go on, and a round
  -- polls it.
  generalize measured : total count cost = left
  induction left using WellFoundedLT.induction generalizing f cost claims with
  | ind left ih =>
    cases finished : f.isFinished with
    | true => exact ⟨0, finished⟩
    | false =>
      obtain ⟨who, p, found, unfinished⟩ := exists_unfinished finished
      obtain ⟨other, able⟩ := inTurn.exists_moves serve duration found unfinished
      obtain ⟨cost', claims', onward, _, strict⟩ := inTurn.follow serve duration (List.range count)
      have less := strict ⟨other, List.mem_range.mpr able.1, able⟩
      obtain ⟨rounds, ended⟩ := ih _ (measured ▸ less) onward rfl
      refine ⟨rounds + 1, ?_⟩
      rw [List.replicate_succ, List.flatten_cons, follow_append]
      exact ended

end Polls

theorem start_inTurn {starts : List (Program α)} {acts : Nat} (clients : σ)
    (disciplined : ∀ program ∈ starts, Disciplined none acts program) :
    (start clients starts).InTurn starts.length (fun _ => toLex (acts + 1, 0)) (fun _ => none) none where
  length := List.length_map _
  serves := by
    intro role
    have free : (start clients starts).lock role = .free := by cases role <;> rfl
    rw [free]
    exact ⟨List.nodup_nil, fun _ => by simp [Lock.line, Lock.free], fun _ => rfl⟩
  absent := fun _ _ => rfl
  stands := by
    intro who p found _
    change (starts.map Progress.ready)[who]? = some p at found
    rw [List.getElem?_map] at found
    obtain ⟨program, member, rfl⟩ := Option.map_eq_some_iff.mp found
    exact .ready program acts (disciplined program (List.mem_of_getElem? member))

end ContractLaunch.Session.Floor
