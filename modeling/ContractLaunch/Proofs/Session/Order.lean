import ContractLaunch.Proofs.Session.Rounds
import ContractLaunch.Proofs.Session.Standing
/-!
The order of calls. Programs that make one call each make their calls under a lock in the order in
which they asked for it, and those that need no lock in the order in which they began. A poll adds at
most the polled program to this order, at its end, and only its first poll does.
-/
namespace ContractLaunch.Session

/-- Who has made a call under a lock, or under none, in the order of the calls. -/
def callers (lock : Option Role) (log : List Event) : List Nat :=
  (log.filter fun event => event.isCall && event.lock? = lock).map Event.who

namespace Floor

variable {σ α : Type}

def lineOf (f : Floor σ α) : Option Role → List Nat
  | none => []
  | some role => (f.lock role).line

/-- Who has asked for a lock: those who have made their calls, then those who stand in the line for
them. -/
def asked (f : Floor σ α) (lock : Option Role) : List Nat :=
  callers lock f.log ++ (f.lineOf lock).filter (· ∉ callers lock f.log)

end Floor

theorem mem_callers {lock : Option Role} {log : List Event} {who : Nat} :
    who ∈ callers lock log ↔ ∃ role c, .called who role c ∈ log ∧ lockOf role c = lock := by
  unfold callers
  constructor
  · intro inside
    obtain ⟨event, there, rfl⟩ := List.mem_map.mp inside
    obtain ⟨there, kind⟩ := List.mem_filter.mp there
    obtain ⟨isCall, under⟩ := Bool.and_eq_true_iff.mp kind
    cases event with
    | called who role c => exact ⟨role, c, there, of_decide_eq_true under⟩
    | answered => cases isCall
  · rintro ⟨role, c, there, under⟩
    refine List.mem_map.mpr ⟨_, List.mem_filter.mpr ⟨there, ?_⟩, rfl⟩
    exact Bool.and_eq_true_iff.mpr ⟨rfl, decide_eq_true under⟩

theorem callers_called {lock : Option Role} (log : List Event) (who : Nat) (role : Role)
    (c : ClientCall) :
    callers lock (log ++ [.called who role c]) =
      callers lock log ++ if lockOf role c = lock then [who] else [] := by
  unfold callers
  rw [List.filter_append, List.map_append]
  by_cases under : lockOf role c = lock
  · simp [Event.isCall, Event.lock?, Event.who, under]
  · simp [Event.isCall, Event.lock?, under]

theorem callers_answered {lock : Option Role} (log : List Event) (who : Nat) (role : Role)
    (c : ClientCall) (reply : c.Reply) :
    callers lock (log ++ [.answered who role c reply]) = callers lock log := by
  unfold callers
  rw [List.filter_append, List.map_append]
  exact List.append_nil _

namespace Floor

variable {σ α : Type} {f g : Floor σ α} {first : Role → List Nat} {who : Nat} {role : Role}
  {c : ClientCall}

/-- A program that makes one call is being carried on, from before its call or after it. -/
structure Single (f : Floor σ α) (first : Role → List Nat) (who : Nat) (phase : Phase) (calls : Nat) :
    Prop where
  passing : f.Passing first who phase.held
  once : calls ≤ 1
  fresh : calls = 1 → ∀ lock, who ∉ callers lock f.log
  called : ∀ role, phase = .leaving role → calls = 0 ∧ who ∈ callers (some role) f.log

theorem asked_congr (log : ∀ lock, callers lock g.log = callers lock f.log) (locks : g.lock = f.lock)
    (lock : Option Role) : g.asked lock = f.asked lock := by
  unfold asked
  rw [log]
  cases lock with
  | none => rfl
  | some role => rw [lineOf, lineOf, locks]

theorem Single.ask {calls : Nat} (single : f.Single first who .outside calls) (more : calls ≠ 0)
    (lock : Option Role) :
    (f.withLock role ((f.lock role).ask who)).asked lock =
      f.asked lock ++ if lock = some role then [who] else [] := by
  unfold asked
  rw [withLock_log]
  cases lock with
  | none => exact (List.append_nil _).symm
  | some other =>
    have unheard := single.fresh (by have := single.once; omega) (some other)
    have joins : [who].filter (· ∉ callers (some other) f.log) = [who] :=
      List.filter_cons_of_pos (by simpa using unheard)
    by_cases same : other = role
    · subst same
      rw [lineOf, lock_withLock_self, Lock.ask_line (single.passing.free other), if_pos rfl,
        List.filter_append, joins, List.append_assoc]
      rfl
    · rw [lineOf, lock_withLock_ne same, if_neg fun equal => same (Option.some.inj equal),
        List.append_nil]
      rfl

theorem Single.handOver {calls : Nat} (single : f.Single first who (.leaving role) calls)
    (lock : Option Role) : (f.withLock role (f.lock role).handOver).asked lock = f.asked lock := by
  unfold asked
  rw [withLock_log]
  cases lock with
  | none => rfl
  | some other =>
    by_cases same : other = role
    · subst same
      obtain ⟨-, made⟩ := single.called other rfl
      have before := single.passing.line other
      have after := single.passing.leave.line other
      rw [Phase.held, if_pos rfl] at before
      rw [if_neg (Option.some_ne_none other).symm] at after
      rw [lineOf, lineOf, before, after, List.nil_append, List.singleton_append,
        List.filter_cons_of_neg (by simpa using made)]
    · rw [lineOf, lock_withLock_ne same]
      rfl

theorem Single.call (single : f.Single first who (.atCall role c) 1) (lock : Option Role)
    (log : callers lock g.log = callers lock (f.log ++ [.called who role c])) (locks : g.lock = f.lock) :
    g.asked lock = f.asked lock ∨
      (Phase.atCall role c = .outside ∧ 1 ≠ 0 ∧ g.asked lock = f.asked lock ++ [who]) := by
  have unheard := single.fresh rfl lock
  have line := single.passing.line
  rw [Phase.held_atCall] at line
  have same : g.lineOf lock = f.lineOf lock := by
    cases lock with
    | none => rfl
    | some role => rw [lineOf, lineOf, locks]
  unfold asked
  rw [log, callers_called, same]
  by_cases under : lockOf role c = lock
  · rw [if_pos under]
    cases lock with
    | none =>
      refine .inr ⟨?_, Nat.one_ne_zero, by simp [lineOf]⟩
      unfold lockOf at under
      split at under
      · cases under
      next unsigned => exact if_neg unsigned
    | some other =>
      have once := single.passing.once other
      have rest : ((first other).erase who).filter (· ∉ callers (some other) f.log ++ [who]) =
          ((first other).erase who).filter (· ∉ callers (some other) f.log) := by
        refine List.filter_congr fun x inside => ?_
        have differs : x ≠ who := fun equal => once (equal ▸ inside)
        simp [differs]
      left
      rw [lineOf, line other, if_pos under, List.singleton_append,
        List.filter_cons_of_neg (by simp), List.filter_cons_of_pos (by simpa using unheard), rest,
        List.append_assoc, List.singleton_append]
  · rw [if_neg under, List.append_nil]
    exact .inl rfl

theorem not_carried_entered {serve : Clients σ} {duration : Nat → Nat} :
    ¬ Carried serve duration who (.entered role) 0 f g := by
  intro carried
  generalize entered : Phase.entered role = phase at carried
  generalize none_left : 0 = calls at carried
  cases carried with
  | finish | queue | enter | leave => cases entered
  | refused | instant | lasting => cases none_left

theorem not_sectioned_entered {next : Program α} : ¬ Sectioned (.entered role) 0 next := by
  intro sectioned
  generalize entered : Phase.entered role = phase at sectioned
  generalize none_left : 0 = calls at sectioned
  cases sectioned with
  | done | acquire | release => cases entered
  | call => cases none_left

theorem Single.made {calls : Nat} (single : f.Single first who (.atCall role c) (calls + 1))
    (reply : c.Reply) (locks : g.lock = f.lock)
    (log : g.log = f.log ++ [.called who role c] ++ [.answered who role c reply]) :
    g.Single first who (.afterCall role c) calls where
  passing := by
    rw [Phase.held_afterCall, ← Phase.held_atCall]
    exact single.passing.congr locks
  once := by
    have once := single.once
    omega
  fresh := by
    have once := single.once
    omega
  called := by
    intro role' leaving
    have once := single.once
    refine ⟨by omega, ?_⟩
    have under : lockOf role c = some role' := by
      rw [← Phase.held_afterCall, leaving]
      rfl
    rw [log, callers_answered, callers_called, if_pos under]
    exact List.mem_append_right _ (List.mem_singleton_self who)

variable {serve : Clients σ} {duration : Nat → Nat}

theorem Carried.asked {phase : Phase} {calls : Nat}
    (carried : Carried serve duration who phase calls f g) (single : f.Single first who phase calls)
    (lock : Option Role) :
    g.asked lock = f.asked lock ∨
      (phase = .outside ∧ calls ≠ 0 ∧ g.asked lock = f.asked lock ++ [who]) := by
  induction carried with
  | finish calls a f => exact .inl rfl
  | queue role calls next f busy kept =>
    have more : calls ≠ 0 := by
      rintro rfl
      exact not_sectioned_entered kept
    change (f.withLock role ((f.lock role).ask who)).asked lock = _ ∨
      _ ∧ _ ∧ (f.withLock role ((f.lock role).ask who)).asked lock = _
    rw [single.ask more]
    split
    · exact .inr ⟨rfl, more, rfl⟩
    · exact .inl (List.append_nil _)
  | enter role calls f g free onward ih =>
    have more : calls ≠ 0 := by
      rintro rfl
      exact not_carried_entered onward
    have entered : (f.withLock role ((f.lock role).ask who)).Single first who (.entered role) calls := by
      refine ⟨single.passing.enter free, single.once, ?_, nofun⟩
      rw [withLock_log]
      exact single.fresh
    rcases ih entered with same | ⟨⟨⟩, -⟩
    rw [same, single.ask more]
    split
    · exact .inr ⟨rfl, more, rfl⟩
    · exact .inl (List.append_nil _)
  | leave role calls f g onward ih =>
    obtain ⟨rfl, made⟩ := single.called role rfl
    have left : (f.withLock role (f.lock role).handOver).Single first who .outside 0 :=
      ⟨single.passing.leave, Nat.zero_le 1, nofun, nofun⟩
    rcases ih left with same | ⟨-, more, -⟩
    · exact .inl (same.trans (single.handOver lock))
    · exact absurd rfl more
  | refused role c calls f g fault clients served onward ih =>
    obtain rfl : calls = 0 := by have once := single.once; omega
    rcases ih (single.made _ rfl rfl) with same | ⟨-, more, -⟩
    · rw [same]
      exact single.call lock (callers_answered ..) rfl
    · exact absurd rfl more
  | instant role c calls f g reply clients served short onward ih =>
    obtain rfl : calls = 0 := by have once := single.once; omega
    rcases ih (single.made _ rfl rfl) with same | ⟨-, more, -⟩
    · rw [same]
      exact single.call lock (callers_answered ..) rfl
    · exact absurd rfl more
  | lasting role c calls f reply next clients served long kept =>
    obtain rfl : calls = 0 := by have once := single.once; omega
    exact single.call lock rfl rfl

section Polls

variable {s : Session} {tasks : List Task} {f : Floor σ (Except DeployFault TaskResult)} {left : Nat → Nat}

theorem limits_le (single : ∀ task ∈ tasks, task.callLimit ≤ 1) (who : Nat) : limits tasks who ≤ 1 := by
  unfold limits
  rw [List.getElem?_map]
  cases found : tasks[who]? with
  | none => exact Nat.zero_le 1
  | some task => exact single task (List.mem_of_getElem? found)

theorem left_of_called (metered : ∀ who, left who + (own who f.log).countP Event.isCall = limits tasks who)
    (single : ∀ task ∈ tasks, task.callLimit ≤ 1) {role : Role} {c : ClientCall}
    (called : .called who role c ∈ f.log) : left who = 0 := by
  have some_call : 0 < (own who f.log).countP Event.isCall :=
    List.countP_pos_iff.mpr ⟨_, mem_own.mpr ⟨called, rfl⟩, rfl⟩
  have total := metered who
  have most := limits_le single who
  omega

/-- A poll adds at most the polled task to those who have asked for a lock, and only if it was its
first poll. -/
theorem poll_asked (standing : f.Standing s tasks)
    (single : ∀ task ∈ tasks, task.callLimit ≤ 1) (who : Nat) (lock : Option Role) :
    (poll serve duration f who).asked lock = f.asked lock ∨
      (∃ next, f.programs[who]? = some (.ready next)) ∧
        (poll serve duration f who).asked lock = f.asked lock ++ [who] := by
  obtain ⟨left, sectioned, metered⟩ := standing.metered
  obtain ⟨cost, claims, inTurn⟩ := standing.inTurn
  have once : left who ≤ 1 := by
    have total := metered who
    have most := limits_le single who
    omega
  have fresh : left who = 1 → ∀ lock, who ∉ callers lock f.log := by
    intro one lock inside
    obtain ⟨role, c, called, -⟩ := mem_callers.mp inside
    rw [left_of_called metered single called] at one
    cases one
  have polled := poll_polled serve duration sectioned who
  generalize poll serve duration f who = g at polled
  cases polled with
  | idle stuck => exact .inl rfl
  | started next g found carried =>
    have unclaimed : claims who = none := inTurn.claims_eq found
    have passing := inTurn.passing (unclaimed ▸ hasTurn_none f who)
    rw [unclaimed] at passing
    rcases carried.asked ⟨passing, once, fresh, nofun⟩ lock with same | ⟨-, -, last⟩
    · exact .inl same
    · exact .inr ⟨⟨next, found⟩, last⟩
  | entered role next g found turn carried =>
    have claimed : claims who = some role := inTurn.claims_eq found
    have first : f.HasTurn who (some role) := fun _ same => Option.some.inj same ▸ turn
    have passing := inTurn.passing (claimed.symm ▸ first)
    rw [claimed] at passing
    rcases carried.asked ⟨passing, once, fresh, nofun⟩ lock with same | ⟨⟨⟩, -⟩
    exact .inl same
  | ticked polls role c reply next found more => exact .inl rfl
  | replied polls role c reply next g found last carried =>
    have claimed : claims who = lockOf role c := inTurn.claims_eq found
    have passing := inTurn.passing (claimed.symm ▸ inTurn.turn_of_calling found)
    rw [claimed, ← Phase.held_afterCall] at passing
    have opened := (standing.shows.shown (.called who role c)).mpr ⟨Option.some_ne_none _, _, found, rfl⟩
    have called := mem_of_mem_openAfter opened
    have none_left := left_of_called metered single called
    have after : (f.closeCall.record (.answered who role c reply)).Single
        (fun role => (f.lock role).line) who (.afterCall role c) (left who) := by
      refine ⟨passing.congr rfl, once, fun one => ?_, fun role' leaving => ⟨none_left, ?_⟩⟩
      · rw [none_left] at one
        cases one
      · refine mem_callers.mpr ⟨role, c, List.mem_append_left _ called, ?_⟩
        rw [← Phase.held_afterCall, leaving]
        rfl
    rcases carried.asked after lock with same | ⟨-, more, -⟩
    · refine .inl (same.trans (asked_congr (fun lock => ?_) ?_ lock))
      · exact callers_answered f.log who role c reply
      · rfl
    · exact absurd none_left more

/-- Those who have asked for a lock have asked in the order of the list, and the tasks from a place on
have not been polled. -/
structure Ranked (f : Floor σ (Except DeployFault TaskResult)) (place : Nat) : Prop where
  ascending : ∀ lock, (f.asked lock).Pairwise (· < ·)
  before : ∀ lock, ∀ who ∈ f.asked lock, who < place
  unpolled : ∀ (who : Nat) p, f.programs[who]? = some p → p.isReady → place ≤ who

theorem start_ranked (clients : σ) (s : Session) (tasks : List Task) :
    (start clients (Task.programs s tasks)).Ranked 0 := by
  have nobody : ∀ lock, (start clients (Task.programs s tasks)).asked lock = [] := by
    rintro (_ | _ | _) <;> rfl
  refine ⟨fun lock => ?_, fun lock who inside => ?_, fun who p _ _ => Nat.zero_le who⟩
  · rw [nobody]
    exact .nil
  · rw [nobody] at inside
    cases inside

theorem Ranked.next (ranked : f.Ranked who) (standing : f.Standing s tasks)
    (single : ∀ task ∈ tasks, task.callLimit ≤ 1) : (f.poll serve duration who).Ranked (who + 1) := by
  have added : ∀ lock, (f.poll serve duration who).asked lock = f.asked lock ∨
      (f.poll serve duration who).asked lock = f.asked lock ++ [who] := by
    intro lock
    rcases poll_asked standing single who lock with same | ⟨-, last⟩
    · exact .inl same
    · exact .inr last
  refine ⟨fun lock => ?_, fun lock other inside => ?_, fun other p found ready => ?_⟩
  · rcases added lock with same | last
    · rw [same]
      exact ranked.ascending lock
    · rw [last, List.pairwise_append]
      refine ⟨ranked.ascending lock, List.pairwise_singleton _ _, fun earlier inside later mine => ?_⟩
      rw [List.mem_singleton.mp mine]
      exact ranked.before lock earlier inside
  · rcases added lock with same | last
    · rw [same] at inside
      exact Nat.lt_succ_of_lt (ranked.before lock other inside)
    · rw [last, List.mem_append, List.mem_singleton] at inside
      rcases inside with early | rfl
      · exact Nat.lt_succ_of_lt (ranked.before lock other early)
      · exact Nat.lt_succ_self other
  · obtain ⟨left, sectioned⟩ := standing.sectioned
    obtain ⟨others, there⟩ := follow_ready serve duration sectioned [who] found ready
    have place := ranked.unpolled other p there ready
    have differs : other ≠ who := fun equal => others (List.mem_singleton.mpr equal)
    omega

theorem Ranked.late (ranked : f.Ranked tasks.length) (standing : f.Standing s tasks)
    (single : ∀ task ∈ tasks, task.callLimit ≤ 1) (who : Nat) :
    (f.poll serve duration who).Ranked tasks.length := by
  have same : ∀ lock, (f.poll serve duration who).asked lock = f.asked lock := by
    intro lock
    rcases poll_asked standing single who lock with same | ⟨⟨next, found⟩, -⟩
    · exact same
    · have place := ranked.unpolled who _ found rfl
      have inside := standing.length ▸ (List.getElem?_eq_some_iff.mp found).1
      omega
  refine ⟨fun lock => same lock ▸ ranked.ascending lock, fun lock => same lock ▸ ranked.before lock,
    fun other p found ready => ?_⟩
  obtain ⟨left, sectioned⟩ := standing.sectioned
  exact ranked.unpolled other p (follow_ready serve duration sectioned [who] found ready).2 ready

theorem first_round_ranked (serve : Clients σ) (duration : Nat → Nat) (clients : σ)
    (single : ∀ task ∈ tasks, task.callLimit ≤ 1) (place : Nat) :
    ((start clients (Task.programs s tasks)).follow serve duration (List.range place)).Ranked place := by
  induction place with
  | zero => exact start_ranked clients s tasks
  | succ place ih =>
    rw [List.range_succ, follow_append]
    exact ih.next (standing_of_follow serve duration clients s tasks _) single

/-- In a round robin, tasks that make one call each ask for a lock in the order of the list. -/
theorem rounds_ascending (serve : Clients σ) (duration : Nat → Nat) (clients : σ)
    (single : ∀ task ∈ tasks, task.callLimit ≤ 1) (made : Nat) (lock : Option Role) :
    (((start clients (Task.programs s tasks)).follow serve duration
      (List.replicate made (List.range tasks.length)).flatten).asked lock).Pairwise (· < ·) := by
  cases made with
  | zero => exact (start_ranked clients s tasks).ascending lock
  | succ made =>
    rw [List.replicate_succ, List.flatten_cons, follow_append]
    have first := first_round_ranked (s := s) serve duration clients single tasks.length
    have step : ∀ (f : Floor σ _) who, f.Standing s tasks → f.Ranked tasks.length →
        (f.poll serve duration who).Ranked tasks.length :=
      fun f who standing ranked => ranked.late standing single who
    have standing := standing_of_follow serve duration clients s tasks (List.range tasks.length)
    exact (standing.preserves serve duration step first _).ascending lock

end Polls

end Floor

end ContractLaunch.Session
