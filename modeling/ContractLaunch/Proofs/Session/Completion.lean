import ContractLaunch.Proofs.Session.Ledger
import ContractLaunch.Proofs.Session.Rounds
import ContractLaunch.Proofs.Session.Standing
/-!
Tasks that run side by side come to their results. No point of a run is a dead end, no lock is kept
that nobody needs, and no result is lost; a round robin ends, and by then each task has its one result
and has made the calls that it makes on its own, no more and no fewer.
-/
namespace ContractLaunch.Session

open Dialogue

def Entry.exchange (entry : Entry) : Exchange (Role × ClientCall) fun x => x.2.Reply :=
  ⟨(entry.role, entry.call), entry.served.reply⟩

/-- What holds at every point of a run of tasks that began with some clients. -/
structure Lively {σ α : Type} (serve : Clients σ) (duration : Nat → Nat) (first : σ) (f : Floor σ α) :
    Prop where
  /-- While a task is unfinished, some task can go on, and a poll of it does something. -/
  advances : f.isFinished = false → ∃ who, f.Able who ∧ f.poll serve duration who ≠ f
  /-- A lock is free if and only if no signed call of its account is open and nobody waits for it. -/
  free : ∀ role, f.lock role = .free ↔
    (∀ who c, .called who role c ∈ openAfter f.log → c.isSigned = false) ∧
      ∀ (who : Nat) next, f.programs[who]? ≠ some (.waiting role next)
  /-- A result stays, whatever is polled. -/
  keeps : ∀ (who other : Nat) result, f.results[who]? = some (some result) →
    (f.poll serve duration other).results[who]? = some (some result)
  /-- The clients have served the calls of the log, once each, and nothing else. -/
  serves : (ledger serve first f.log).1 = f.clients
  /-- The calls that were made are those that the clients did not refuse. -/
  made : f.made = (ledger serve first f.log).2.countP Entry.isMade

/-- What a run of tasks has come to in the end. -/
structure Completed {σ : Type} (s : Session) (serve : Clients σ) (first : σ) (tasks : List Task)
    (f : Floor σ (Except DeployFault TaskResult)) : Prop where
  finished : f.isFinished
  length : f.results.length = tasks.length
  /-- Each task has made the calls that it makes on its own, and has the result that it has on its own
  with the replies to them. -/
  each : ∀ (who : Nat) task, tasks[who]? = some task → ∃ result,
    f.results[who]? = some (some result) ∧
    task.Calls s ((entriesOf who (ledger serve first f.log).2).map Entry.exchange) ∧
    ∃ made, Transcript (task.attempt s).run made result ∧ own who f.log = eventsOf who made
  known : ∀ entry ∈ (ledger serve first f.log).2, entry.who < tasks.length
  /-- Every call is answered and every lock given back. -/
  closed : openAfter f.log = [] ∧ ∀ role, f.lock role = .free

theorem exchanges_eq {who : Nat} {entries : List Entry}
    {calls : List (Exchange (Role × ClientCall) fun x => x.2.Reply)}
    (mine : ∀ entry ∈ entries, entry.who = who)
    (same : entries.flatMap Entry.events = calls.flatMap (eventsOfCall who)) :
    entries.map Entry.exchange = calls := by
  induction entries generalizing calls with
  | nil =>
    cases calls with
    | nil => rfl
    | cons x calls => cases same
  | cons entry entries ih =>
    obtain ⟨rfl, others⟩ := List.forall_mem_cons.mp mine
    cases calls with
    | nil => cases same
    | cons x calls =>
      obtain ⟨⟨role, c⟩, reply⟩ := x
      obtain ⟨who, role', c', served⟩ := entry
      change Event.called who role' c' :: .answered who role' c' served.reply :: _ =
        .called who role c :: .answered who role c reply :: _ at same
      obtain ⟨called, later⟩ := List.cons.inj same
      obtain ⟨answered, rest⟩ := List.cons.inj later
      cases called
      obtain rfl : served.reply = reply := by simpa using answered
      exact congrArg (_ :: ·) (ih others rest)

namespace Floor

section Points

variable {σ α : Type} {serve : Clients σ} {duration : Nat → Nat} {f : Floor σ α} {count : Nat}
  {cost : Nat → Nat ×ₗ Nat} {claims : Nat → Option Role} {left : Nat → Nat}

theorem InTurn.lock_free_iff (inTurn : f.InTurn count cost claims none) (role : Role) :
    f.lock role = .free ↔ ∀ who, claims who ≠ some role := by
  have serves := inTurn.serves role
  constructor
  · intro free who claimed
    have stands := (serves.stands who).mpr claimed
    rw [free] at stands
    cases stands
  · intro unclaimed
    have empty : (f.lock role).line = [] :=
      List.eq_nil_iff_forall_not_mem.mpr fun who stands => unclaimed who ((serves.stands who).mp stands)
    obtain ⟨nobody, waits⟩ := List.append_eq_nil_iff.mp empty
    rw [Lock.free, ← waits, ← Option.toList_eq_nil_iff.mp nobody]

theorem InTurn.unclaimed_iff (inTurn : f.InTurn count cost claims none) (shows : f.OpenBut none)
    (role : Role) :
    (∀ who, claims who ≠ some role) ↔
      (∀ who c, .called who role c ∈ openAfter f.log → c.isSigned = false) ∧
        ∀ (who : Nat) next, f.programs[who]? ≠ some (.waiting role next) := by
  constructor
  · intro unclaimed
    constructor
    · intro who c opened
      by_contra signed
      obtain ⟨-, p, found, calling⟩ := (shows.shown _).mp opened
      refine unclaimed who (inTurn.claims_eq found |>.trans ?_)
      cases p with
      | ready | waiting | finished => cases calling
      | calling polls role' c' reply next =>
        cases calling
        exact if_pos (Bool.not_eq_false _ ▸ signed)
    · intro who next found
      exact unclaimed who (inTurn.claims_eq found)
  · rintro ⟨closed, quiet⟩ who claimed
    have inside : who < f.programs.length := by
      by_contra outside
      rw [inTurn.absent who (by rw [← inTurn.length]; omega)] at claimed
      cases claimed
    have found := List.getElem?_eq_getElem inside
    rw [inTurn.claims_eq found] at claimed
    generalize f.programs[who] = p at found claimed
    cases p with
    | ready | finished => cases claimed
    | waiting role' next =>
      cases claimed
      exact quiet who next found
    | calling polls role' c reply next =>
      change lockOf role' c = some role at claimed
      unfold lockOf at claimed
      split at claimed
      next signed =>
        obtain rfl := Option.some.inj claimed
        have opened := (shows.shown (.called who _ c)).mpr ⟨Option.some_ne_none _, _, found, rfl⟩
        rw [closed who c opened] at signed
        cases signed
      · cases claimed

theorem results_eq_some_iff {who : Nat} {result : α} :
    f.results[who]? = some (some result) ↔ f.programs[who]? = some (.finished result) := by
  rw [results_eq, List.getElem?_map, Option.map_eq_some_iff]
  constructor
  · rintro ⟨p, found, ended⟩
    cases p with
    | finished a =>
      cases ended
      exact found
    | ready | waiting | calling => cases ended
  · exact fun found => ⟨_, found, rfl⟩

theorem poll_results (sectioned : f.SectionedBy left) {who : Nat} (other : Nat) {result : α}
    (ended : f.results[who]? = some (some result)) :
    (poll serve duration f other).results[who]? = some (some result) := by
  have found := results_eq_some_iff.mp ended
  by_cases same : other = who
  · subst same
    rw [poll, found]
    exact ended
  · obtain ⟨-, still⟩ | ⟨old, p, calls, onward⟩ := poll_onward serve duration sectioned other
    · rw [still]
      exact ended
    · rw [results_eq_some_iff, onward.programs, List.getElem?_set_ne same]
      exact found

end Points

section Tasks

variable {σ : Type} {s : Session} {serve : Clients σ} {duration : Nat → Nat} {first : σ}
  {tasks : List Task} {f : Floor σ (Except DeployFault TaskResult)}

theorem ledgered_of_follow (serve : Clients σ) (duration : Nat → Nat) (clients : σ) (s : Session)
    (tasks : List Task) (schedule : List Nat) :
    ((start clients (Task.programs s tasks)).follow serve duration schedule).Ledgered serve clients none := by
  have step : ∀ (f : Floor σ _) who, f.Standing s tasks → f.Ledgered serve clients none →
      (poll serve duration f who).Ledgered serve clients none := by
    intro f who standing ledgered
    obtain ⟨left, sectioned⟩ := standing.sectioned
    exact poll_ledgered sectioned ledgered who
  exact (start_standing clients s tasks).preserves serve duration step (.start serve clients _) schedule

theorem Standing.lock_free_iff (standing : f.Standing s tasks) (role : Role) :
    f.lock role = .free ↔
      (∀ who c, .called who role c ∈ openAfter f.log → c.isSigned = false) ∧
        ∀ (who : Nat) next, f.programs[who]? ≠ some (.waiting role next) := by
  obtain ⟨cost, claims, inTurn⟩ := standing.inTurn
  exact (inTurn.lock_free_iff role).trans (inTurn.unclaimed_iff standing.shows role)

theorem Standing.lively (standing : f.Standing s tasks) (ledgered : f.Ledgered serve first none) :
    Lively serve duration first f where
  advances := by
    intro unfinished
    obtain ⟨cost, claims, inTurn⟩ := standing.inTurn
    obtain ⟨left, sectioned⟩ := standing.sectioned
    obtain ⟨who, -, able⟩ := inTurn.exists_able unfinished
    refine ⟨who, able, ?_⟩
    obtain ⟨stuck, -⟩ | ⟨old, p, calls, onward⟩ := poll_onward serve duration sectioned who
    · exact absurd able stuck
    · exact onward.ne
  free := standing.lock_free_iff
  keeps := by
    intro who other result ended
    obtain ⟨left, sectioned⟩ := standing.sectioned
    exact poll_results sectioned other ended
  serves := ledgered.clients
  made := ledgered.made

/-- A finished task has made the calls of its plan, and its result is that of the plan with what the
clients made of them. -/
theorem Standing.planned (standing : f.Standing s tasks) (ledgered : f.Ledgered serve first none)
    (finished : f.isFinished) {who : Nat} {task : Task} (found : tasks[who]? = some task) :
    ∃ result, f.results[who]? = some (some result) ∧
      Transcript (task.plan s) ((entriesOf who (ledger serve first f.log).2).map Entry.exchange) result ∧
      ∃ made, Transcript (task.attempt s).run made result ∧ own who f.log = eventsOf who made := by
  have inside := (List.getElem?_eq_some_iff.mp found).1
  obtain ⟨task', p, found', there, steps⟩ := standing.task inside
  obtain rfl := Option.some.inj (found.symm.trans found')
  have ended := List.all_eq_true.mp finished p (List.mem_of_getElem? there)
  have shown := ledgered.shown who p there (Option.some_ne_none who)
  generalize events : own who f.log = log at steps
  cases steps with
  | ready | waiting | calling => cases ended
  | finished made result reached =>
    have transcript := reached.transcript
    refine ⟨result, results_eq_some_iff.mpr there, ?_, made, transcript, rfl⟩
    rw [Task.attempt_run] at transcript
    have planned := Plan.transcript_callsIn transcript
    have mine : ∀ entry ∈ entriesOf who (ledger serve first f.log).2, entry.who = who :=
      fun entry inside => of_decide_eq_true (List.mem_filter.mp inside).2
    rw [events, eventsOf_eq_flatMap] at shown
    rw [exchanges_eq mine (shown.symm.trans (List.append_nil _))]
    exact planned

theorem Standing.completed (standing : f.Standing s tasks) (ledgered : f.Ledgered serve first none)
    (finished : f.isFinished) : Completed s serve first tasks f where
  finished
  length := (List.length_map _).trans standing.length
  each := by
    intro who task found
    obtain ⟨result, ended, planned, run⟩ := standing.planned ledgered finished found
    exact ⟨result, ended, Task.calls_of_transcript planned, run⟩
  known := by
    intro entry inside
    exact (List.length_map _) ▸ standing.tracked.known _ (called_of_mem_ledger inside)
  closed := by
    have ended : ∀ (who : Nat) p, f.programs[who]? = some p → p.isFinished :=
      fun who p found => List.all_eq_true.mp finished p (List.mem_of_getElem? found)
    have closed : openAfter f.log = [] := by
      refine List.eq_nil_iff_forall_not_mem.mpr fun event opened => ?_
      obtain ⟨-, p, found, calling⟩ := (standing.shows.shown event).mp opened
      have past := ended _ p found
      cases p with
      | finished a => cases calling
      | ready | waiting | calling => cases past
    refine ⟨closed, fun role => (standing.lock_free_iff role).mpr ⟨?_, fun who next found => ?_⟩⟩
    · rw [closed]
      exact nofun
    · have past := ended who _ found
      cases past

end Tasks

end Floor

theorem sideBySide_finishes {σ : Type} (s : Session) (serve : Clients σ) (duration : Nat → Nat)
    (clients : σ) (tasks : List Task) :
    ∃ made, sideBySide serve duration clients (Task.programs s tasks) (tasks.map Task.callLimit).sum =
        (Floor.start clients (Task.programs s tasks)).follow serve duration
          (List.replicate made (List.range tasks.length)).flatten ∧
      (sideBySide serve duration clients (Task.programs s tasks)
        (tasks.map Task.callLimit).sum).isFinished := by
  obtain ⟨cost, claims, inTurn⟩ := (Floor.start_standing clients s tasks).inTurn
  have length : (Task.programs s tasks).length = tasks.length := List.length_map _
  have payable := Floor.start_remaining duration clients (Task.programs s tasks)
    (tasks.map Task.callLimit) ((List.length_map _).trans length.symm)
  rw [length] at payable
  have enough := Floor.rounds_finish_start serve duration inTurn
    (Floor.start_sectioned clients s tasks) payable.le
  rw [← length, ← Floor.roundsNeeded_eq] at enough
  obtain ⟨made, same⟩ := Floor.rounds_eq_follow serve duration inTurn
    (roundsNeeded (Task.programs s tasks).length (tasks.map Task.callLimit).sum duration)
  exact ⟨made, same, enough⟩

/-- A round robin of tasks ends with one result for each and the calls that each makes on its own, and
no schedule of polls comes to a point where nothing can go on. -/
theorem tasks_complete {σ : Type} (s : Session) (serve : Clients σ) (duration : Nat → Nat)
    (clients : σ) (tasks : List Task) :
    let programs := tasks.map fun task => (task.attempt s).run
    Completed s serve clients tasks
        (sideBySide serve duration clients programs (tasks.map Task.callLimit).sum) ∧
      ∀ schedule, Lively serve duration clients
        ((Floor.start clients programs).follow serve duration schedule) := by
  intro programs
  constructor
  · obtain ⟨made, same, finished⟩ := sideBySide_finishes s serve duration clients tasks
    change (sideBySide serve duration clients programs _) = _ at same
    change (sideBySide serve duration clients programs _).isFinished = true at finished
    rw [same] at finished ⊢
    exact (Floor.standing_of_follow serve duration clients s tasks _).completed
      (Floor.ledgered_of_follow serve duration clients s tasks _) finished
  · intro schedule
    exact (Floor.standing_of_follow serve duration clients s tasks schedule).lively
      (Floor.ledgered_of_follow serve duration clients s tasks schedule)

end ContractLaunch.Session
