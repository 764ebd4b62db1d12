import ContractLaunch.Proofs.Session.Order
import ContractLaunch.Proofs.Session.Sequential
/-!
Tasks of one account side by side and one after another. Tasks that make one call each and sign as one
account, and queries among them, come to the same results when they run side by side in a round robin
as when they run in the order of the list, however long the calls take: the lock hands the account on
in that order, and clients that answer from a queue for each kind of call cannot tell the difference.
-/
namespace ContractLaunch.Session

open Dialogue

variable {σ : Type} {serve : Clients σ} {view : Bool → σ → σ} {s : Session} {tasks : List Task}
  {role : Role}

def lockOfKind (role : Role) (signed : Bool) : Option Role := if signed then some role else none

theorem callers_lockOfKind {log : List Event}
    (owned : ∀ event ∈ log, event.lock? = none ∨ event.lock? = some role) (signed : Bool) :
    callers (lockOfKind role signed) log = (callsOfKind signed log).map Event.who := by
  unfold callers callsOfKind
  refine congrArg _ (List.filter_congr fun event inside => ?_)
  cases event with
  | answered => rfl
  | called who role' c =>
    have locked : lockOf role' c = none ∨ lockOf role' c = some role := owned _ inside
    change decide (lockOf role' c = lockOfKind role signed) = decide (c.isSigned = signed)
    refine decide_eq_decide.mpr ?_
    unfold lockOf lockOfKind at *
    generalize c.isSigned = kind at locked ⊢
    cases kind with
    | false => cases signed <;> simp
    | true =>
      obtain rfl : role' = role := by simpa using locked
      cases signed <;> simp

theorem entriesOf_kind {who : Nat} {entries : List Entry} {signed : Bool}
    (kind : ∀ entry ∈ entries, entry.who = who → entry.call.isSigned = signed) :
    entriesOf who entries = entriesOf who (entries.filter (·.call.isSigned = signed)) := by
  unfold entriesOf
  rw [List.filter_filter]
  refine List.filter_congr fun entry inside => ?_
  by_cases mine : entry.who = who
  · simp [mine, kind entry inside mine]
  · simp [mine]

namespace Floor

variable {f : Floor σ (Except DeployFault TaskResult)} {first : σ}

theorem Standing.called_iff (standing : f.Standing s tasks) (ledgered : f.Ledgered serve first none)
    (finished : f.isFinished) (single : ∀ task ∈ tasks, task.callLimit = 1) {who : Nat} {r : Role}
    {c : ClientCall} :
    .called who r c ∈ f.log ↔ ∃ task, tasks[who]? = some task ∧ task.call? s = some (r, c) := by
  have handed : ∀ task, tasks[who]? = some task →
      ((entriesOf who (ledger serve first f.log).2).map Entry.exchange).map (·.1) =
        (task.call? s).toList := by
    intro task found
    obtain ⟨result, -, planned, -⟩ := standing.planned ledgered finished found
    exact (Task.calls_of_transcript planned).single (single task (List.mem_of_getElem? found))
  constructor
  · intro called
    have inside := standing.tracked.known _ called
    rw [List.length_map] at inside
    have found := List.getElem?_eq_getElem (l := tasks) inside
    refine ⟨_, found, Option.mem_toList.mp ?_⟩
    rw [← handed _ found]
    have entered : (who, r, c) ∈ (ledger serve first f.log).2.map Entry.handed := by
      rw [ledger_handed]
      exact List.mem_filterMap.mpr ⟨_, called, rfl⟩
    obtain ⟨entry, there, same⟩ := List.mem_map.mp entered
    cases same
    refine List.mem_map.mpr ⟨_, List.mem_map.mpr ⟨entry, ?_, rfl⟩, rfl⟩
    exact List.mem_filter.mpr ⟨there, decide_eq_true rfl⟩
  · rintro ⟨task, found, calls⟩
    have made : (r, c) ∈ (task.call? s).toList := Option.mem_toList.mpr calls
    rw [← handed task found] at made
    obtain ⟨_, exchanged, same⟩ := List.mem_map.mp made
    obtain ⟨entry, there, rfl⟩ := List.mem_map.mp exchanged
    obtain ⟨inside, mine⟩ := List.mem_filter.mp there
    obtain ⟨rfl, rfl⟩ := Prod.mk.inj same
    obtain rfl := of_decide_eq_true mine
    exact called_of_mem_ledger inside

end Floor

theorem callsOfKind_eq {f : Floor σ (Except DeployFault TaskResult)} {first : σ}
    (standing : f.Standing s tasks) (ledgered : f.Ledgered serve first none) (finished : f.isFinished)
    (ascending : ∀ lock, (f.asked lock).Pairwise (· < ·))
    (single : ∀ task ∈ tasks, task.callLimit = 1)
    (owned : ∀ task ∈ tasks, task.isQuery = true ∨ task.role = role) (signed : Bool) :
    callsOfKind signed f.log = callsOfKind signed (callsFrom s 0 tasks) := by
  have locks : ∀ event ∈ f.log, event.lock? = none ∨ event.lock? = some role := by
    intro event inside
    obtain ⟨task, found, same⟩ := standing.lock_of_event inside
    rw [same]
    unfold Task.lock?
    split
    · exact .inl rfl
    next signs =>
      exact .inr (congrArg some ((owned task (List.mem_of_getElem? found)).resolve_left signs))
  have closed := (standing.completed ledgered finished).closed.2
  have inOrder : ((callsOfKind signed f.log).map Event.who).Pairwise (· < ·) := by
    rw [← callers_lockOfKind locks]
    have nobody : f.lineOf (lockOfKind role signed) = [] := by
      cases signed with
      | false => rfl
      | true => exact congrArg Lock.line (closed role)
    have asked := ascending (lockOfKind role signed)
    rwa [Floor.asked, nobody, List.filter_nil, List.append_nil] at asked
  have antisymm : Std.Antisymm fun first later : Event => first.who < later.who :=
    ⟨fun _ _ less more => absurd less more.asymm⟩
  have irrefl : Std.Irrefl fun first later : Event => first.who < later.who := ⟨fun _ => Nat.lt_irrefl _⟩
  refine (List.pairwise_map.mp inOrder).eq_of_mem_iff
    ((callsFrom_ascending s 0 tasks).sublist List.filter_sublist) fun event => ?_
  unfold callsOfKind
  rw [List.mem_filter, List.mem_filter, mem_callsFrom]
  refine and_congr_left fun kind => ?_
  cases event with
  | answered => cases kind
  | called who r c =>
    rw [standing.called_iff ledgered finished single]
    constructor
    · rintro ⟨task, found, calls⟩
      exact ⟨who, task, r, c, found, calls, by rw [Nat.zero_add]⟩
    · rintro ⟨i, task, r', c', found, calls, same⟩
      rw [Nat.zero_add] at same
      cases same
      exact ⟨task, found, calls⟩

/-- Side by side in a round robin, tasks that make one call each and sign as one account do what they
do one after another, if the clients keep signed calls and queries apart. -/
theorem sideBySide_serial (apart : Apart serve view) (duration : Nat → Nat) (clients : σ)
    (single : ∀ task ∈ tasks, task.callLimit = 1)
    (owned : ∀ task ∈ tasks, task.isQuery = true ∨ task.role = role) :
    let floor := sideBySide serve duration clients (Task.programs s tasks) (tasks.map Task.callLimit).sum
    let sequence := oneByOne serve (Task.programs s tasks) clients
    floor.results = sequence.1.map some ∧
      ∀ signed, view signed floor.clients = view signed sequence.2 ∧
        callsOfKind signed floor.log = callsOfKind signed (callsFrom s 0 tasks) := by
  intro floor sequence
  obtain ⟨made, rounds, finished⟩ := sideBySide_finishes s serve duration clients tasks
  have same : floor = _ := rounds
  have standing : floor.Standing s tasks :=
    same ▸ Floor.standing_of_follow serve duration clients s tasks _
  have ledgered : floor.Ledgered serve clients none :=
    same ▸ Floor.ledgered_of_follow serve duration clients s tasks _
  have ascending : ∀ lock, (floor.asked lock).Pairwise (· < ·) := fun lock =>
    same ▸ Floor.rounds_ascending serve duration clients (fun task inside => (single task inside).le) made lock
  have kinds := callsOfKind_eq standing ledgered finished ascending single owned
  obtain ⟨after, length, each⟩ := oneByOne_callsFrom serve s tasks single 0 clients
  have entries : ∀ signed, (ledger serve clients floor.log).2.filter (·.call.isSigned = signed) =
      (ledger serve clients (callsFrom s 0 tasks)).2.filter (·.call.isSigned = signed) := by
    intro signed
    rw [(apart.ledger clients signed floor.log).2, (apart.ledger clients signed _).2, kinds]
  have own : ∀ (who : Nat) task, tasks[who]? = some task →
      entriesOf who (ledger serve clients floor.log).2 =
        entriesOf who (ledger serve clients (callsFrom s 0 tasks)).2 := by
    intro who task found
    -- All calls of a task are of the kind of its one call.
    have kind : ∀ r c, (∃ task, tasks[who]? = some task ∧ task.call? s = some (r, c)) →
        c.isSigned = ((task.call? s).map (·.2.isSigned)).getD false := by
      rintro r c ⟨task', found', calls⟩
      obtain rfl := Option.some.inj (found.symm.trans found')
      rw [calls]
      rfl
    have here : ∀ entry ∈ (ledger serve clients floor.log).2, entry.who = who →
        entry.call.isSigned = ((task.call? s).map (·.2.isSigned)).getD false := by
      rintro entry inside rfl
      exact kind _ _ ((standing.called_iff ledgered finished single).mp (called_of_mem_ledger inside))
    have there : ∀ entry ∈ (ledger serve clients (callsFrom s 0 tasks)).2, entry.who = who →
        entry.call.isSigned = ((task.call? s).map (·.2.isSigned)).getD false := by
      rintro entry inside rfl
      obtain ⟨i, task', r, c, found', calls, same⟩ := mem_callsFrom.mp (called_of_mem_ledger inside)
      rw [Nat.zero_add] at same
      obtain ⟨rfl, rfl, rfl⟩ := Event.called.inj same
      exact kind _ _ ⟨task', found', calls⟩
    rw [entriesOf_kind here, entries, ← entriesOf_kind there]
  constructor
  · refine List.ext_getElem? fun who => ?_
    rw [List.getElem?_map]
    cases found : tasks[who]? with
    | none =>
      have outside := List.getElem?_eq_none_iff.mp found
      have results := (standing.completed ledgered finished).length
      have others : sequence.1.length = tasks.length := length
      rw [List.getElem?_eq_none (by omega), List.getElem?_eq_none (by omega)]
      rfl
    | some task =>
      obtain ⟨result, ended, planned, -⟩ := standing.planned ledgered finished found
      obtain ⟨other, there, alike⟩ := each who task found
      rw [Nat.zero_add, ← own who task found] at alike
      rw [ended, there, transcript_unique planned alike]
      rfl
  · intro signed
    refine ⟨?_, kinds signed⟩
    rw [← ledgered.clients, (apart.ledger clients signed floor.log).1, kinds,
      ← (apart.ledger clients signed _).1, ← after]

end ContractLaunch.Session
