import ContractLaunch.Proofs.Session.Completion
/-!
Tasks one after another. A task alone makes the calls of its plan, and a sequence of tasks that make
one call each makes their calls in the order of the list. Clients that serve signed calls and queries
from separate parts of their state give the same answers however the two kinds are mixed.
-/
namespace ContractLaunch.Session

open Dialogue

variable {σ : Type} {serve : Clients σ}

/-- Runs programs one after another: their results, and the clients afterwards. -/
def oneByOne {α : Type} (serve : Clients σ) : List (Program α) → σ → List α × σ
  | [], clients => ([], clients)
  | program :: rest, clients =>
    let (a, clients) := alone serve program clients
    let (results, clients) := oneByOne serve rest clients
    (a :: results, clients)

/-- The call of a task that makes one, unless it is refused before that. -/
def Task.call? (s : Session) : Task → Option (Role × ClientCall)
  | .storeCode bytecode | .deploy bytecode _ =>
    (Task.uploadFee s).toOption.map fun fee => (.deployer, uploadOf s fee bytecode)
  | .instantiate codeId message | .resume codeId message =>
    some (.deployer, instantiationOf s message codeId)
  | .execute role contract message funds =>
    some (role, .execute (s.account role).address contract message .auto s.executeMemo
      (attachedFunds funds))
  | .query role contract message => some (role, .query contract message)

/-- The calls of tasks that make one each, in the order of the tasks, of which the first has a place. -/
def callsFrom (s : Session) : Nat → List Task → List Event
  | _, [] => []
  | who, task :: rest =>
    ((task.call? s).map fun (role, c) => .called who role c).toList ++ callsFrom s (who + 1) rest

def Entry.called (entry : Entry) : Event := .called entry.who entry.role entry.call

theorem Task.Calls.single {s : Session} {task : Task}
    {made : List (Exchange (Role × ClientCall) fun x => x.2.Reply)} (calls : task.Calls s made)
    (single : task.callLimit = 1) : made.map (·.1) = (task.call? s).toList := by
  cases calls with
  | unpaid bytecode fault unpaid =>
    rw [Task.call?, unpaid]
    rfl
  | storeCode bytecode fee reply paid =>
    rw [Task.call?, paid]
    rfl
  | undeployed | unstored | deploy => cases single
  | instantiate | resume | execute | query => rfl

theorem ledger_append_log (clients : σ) (first second : List Event) :
    ledger serve clients (first ++ second) =
      ((ledger serve (ledger serve clients first).1 second).1,
        (ledger serve clients first).2 ++ (ledger serve (ledger serve clients first).1 second).2) := by
  induction second using List.reverseRecOn with
  | nil =>
    rw [List.append_nil]
    exact Prod.ext rfl (List.append_nil _).symm
  | append_singleton second event ih =>
    rw [← List.append_assoc, ledger_append, ih, ledger_append]
    cases event with
    | called who role c =>
      unfold enter
      exact Prod.ext rfl (List.append_assoc ..)
    | answered => rfl

theorem ledger_called {clients after : σ} {who : Nat} {role : Role} {c : ClientCall}
    {served : Served c} (answer : serve clients role c = (served, after)) (rest : List Event) :
    ledger serve clients (.called who role c :: rest) =
      ((ledger serve after rest).1, ⟨who, role, c, served⟩ :: (ledger serve after rest).2) := by
  have first : ledger serve clients [.called who role c] = (after, [⟨who, role, c, served⟩]) := by
    have entered : ledger serve clients [.called who role c] =
        enter serve (clients, []) (.called who role c) := rfl
    rw [entered, enter, answer]
    rfl
  rw [← List.singleton_append, ledger_append_log, first]
  rfl

theorem alone_plan {α : Type} (serve : Clients σ) (plan : Plan α) (who : Nat) (clients : σ) :
    ∃ entries, (∀ entry ∈ entries, entry.who = who) ∧
      Transcript plan (entries.map Entry.exchange) (alone serve plan.program clients).1 ∧
      ledger serve clients (entries.map Entry.called) = ((alone serve plan.program clients).2, entries) := by
  induction plan generalizing clients with
  | done a =>
    refine ⟨[], List.forall_mem_nil _, ?_, ?_⟩
    · exact .done a
    · rfl
  | ask x resume ih =>
    obtain ⟨role, c⟩ := x
    generalize answer : serve clients role c = outcome
    obtain ⟨served, clients'⟩ := outcome
    have onward : alone serve (Plan.program (.ask (role, c) resume)) clients =
        alone serve (Plan.program (resume served.reply)) clients' := by
      cases isSigned : c.isSigned with
      | true =>
        rw [Plan.program_signed isSigned]
        simp only [alone, answer]
        cases served <;> rfl
      | false =>
        rw [Plan.program_unsigned isSigned]
        simp only [alone, answer]
        cases served <;> rfl
    obtain ⟨entries, mine, transcript, same⟩ := ih served.reply clients'
    refine ⟨⟨who, role, c, served⟩ :: entries, List.forall_mem_cons.mpr ⟨rfl, mine⟩, ?_, ?_⟩
    · rw [onward, List.map_cons]
      exact transcript_ask.mpr ⟨served.reply, entries.map Entry.exchange, rfl, transcript⟩
    · rw [onward, List.map_cons]
      refine (ledger_called answer _).trans ?_
      rw [same]

theorem mem_callsFrom {s : Session} {place : Nat} {tasks : List Task} {event : Event} :
    event ∈ callsFrom s place tasks ↔ ∃ (i : Nat) (task : Task) (role : Role) (c : ClientCall),
      tasks[i]? = some task ∧ task.call? s = some (role, c) ∧ event = .called (place + i) role c := by
  induction tasks generalizing place with
  | nil => simp [callsFrom]
  | cons first rest ih =>
    rw [callsFrom, List.mem_append, ih, Option.mem_toList, Option.map_eq_some_iff]
    constructor
    · rintro (⟨⟨role, c⟩, calls, rfl⟩ | ⟨i, task, role, c, found, calls, rfl⟩)
      · exact ⟨0, first, role, c, rfl, calls, rfl⟩
      · exact ⟨i + 1, task, role, c, found, calls, by rw [Nat.add_assoc, Nat.add_comm 1 i]⟩
    · rintro ⟨_ | i, task, role, c, found, calls, rfl⟩
      · obtain rfl := Option.some.inj found
        exact .inl ⟨(role, c), calls, rfl⟩
      · exact .inr ⟨i, task, role, c, found, calls, by rw [Nat.add_assoc, Nat.add_comm 1 i]⟩

theorem callsFrom_ascending (s : Session) (place : Nat) (tasks : List Task) :
    (callsFrom s place tasks).Pairwise fun first later => first.who < later.who := by
  induction tasks generalizing place with
  | nil => exact .nil
  | cons first rest ih =>
    rw [callsFrom, List.pairwise_append]
    refine ⟨?_, ih (place + 1), fun event here later after => ?_⟩
    · cases first.call? s with
      | none => exact .nil
      | some call => exact List.pairwise_singleton _ _
    · obtain ⟨call, -, rfl⟩ := Option.map_eq_some_iff.mp (Option.mem_toList.mp here)
      obtain ⟨i, task, role, c, -, -, rfl⟩ := mem_callsFrom.mp after
      change place < place + 1 + i
      omega

theorem called_eq {s : Session} {task : Task} {who : Nat} {entries : List Entry}
    (mine : ∀ entry ∈ entries, entry.who = who) (calls : task.Calls s (entries.map Entry.exchange))
    (single : task.callLimit = 1) :
    entries.map Entry.called = ((task.call? s).map fun (role, c) => .called who role c).toList := by
  have same := calls.single single
  rw [Option.toList_map, ← same, List.map_map, List.map_map]
  refine List.map_congr_left fun entry inside => ?_
  rw [Entry.called, mine entry inside]
  rfl

theorem entriesOf_self {who : Nat} {entries : List Entry} (mine : ∀ entry ∈ entries, entry.who = who) :
    entriesOf who entries = entries :=
  List.filter_eq_self.mpr fun entry inside => decide_eq_true (mine entry inside)

theorem entriesOf_nil {who : Nat} {entries : List Entry} (others : ∀ entry ∈ entries, entry.who ≠ who) :
    entriesOf who entries = [] :=
  List.filter_eq_nil_iff.mpr fun entry inside same => others entry inside (of_decide_eq_true same)

/-- What a sequence of tasks makes: the calls of the tasks in their order, and the results of their
plans with what the clients made of them. -/
theorem oneByOne_callsFrom (serve : Clients σ) (s : Session) (tasks : List Task)
    (single : ∀ task ∈ tasks, task.callLimit = 1) (place : Nat) (clients : σ) :
    (oneByOne serve (Task.programs s tasks) clients).2 =
        (ledger serve clients (callsFrom s place tasks)).1 ∧
      (oneByOne serve (Task.programs s tasks) clients).1.length = tasks.length ∧
      ∀ (i : Nat) task, tasks[i]? = some task → ∃ result,
        (oneByOne serve (Task.programs s tasks) clients).1[i]? = some result ∧
        Transcript (task.plan s)
          ((entriesOf (place + i) (ledger serve clients (callsFrom s place tasks)).2).map Entry.exchange)
          result := by
  induction tasks generalizing place clients with
  | nil => exact ⟨rfl, rfl, nofun⟩
  | cons first rest ih =>
    obtain ⟨one, others⟩ := List.forall_mem_cons.mp single
    obtain ⟨entries, mine, transcript, alone_ledger⟩ := alone_plan serve (first.plan s) place clients
    rw [← Task.attempt_run] at transcript alone_ledger
    have called := called_eq mine (Task.calls_of_transcript transcript) one
    rw [called] at alone_ledger
    obtain ⟨after, length, each⟩ := ih others (place + 1) (alone serve (first.attempt s).run clients).2
    have total : ledger serve clients (callsFrom s place (first :: rest)) =
        ((oneByOne serve (Task.programs s (first :: rest)) clients).2,
          entries ++ (ledger serve (alone serve (first.attempt s).run clients).2
            (callsFrom s (place + 1) rest)).2) := by
      rw [callsFrom, ledger_append_log, alone_ledger, ← after]
      rfl
    have later : ∀ entry ∈ (ledger serve (alone serve (first.attempt s).run clients).2
        (callsFrom s (place + 1) rest)).2, place < entry.who := by
      intro entry inside
      obtain ⟨i, task, role, c, -, -, same⟩ := mem_callsFrom.mp (called_of_mem_ledger inside)
      have who : entry.who = place + 1 + i := congrArg Event.who same
      omega
    refine ⟨by rw [total], congrArg (· + 1) length, fun i task found => ?_⟩
    rw [total]
    unfold entriesOf
    rw [List.filter_append]
    change ∃ result, _ ∧ Transcript _ ((entriesOf _ entries ++ entriesOf _ _).map _) result
    cases i with
    | zero =>
      obtain rfl := Option.some.inj found
      rw [Nat.add_zero, entriesOf_self mine,
        entriesOf_nil fun entry inside => (later entry inside).ne', List.append_nil]
      exact ⟨_, rfl, transcript⟩
    | succ i =>
      obtain ⟨result, there, planned⟩ := each i task found
      have next : place + (i + 1) = place + 1 + i := by omega
      have early : ∀ entry ∈ entries, entry.who ≠ place + 1 + i := by
        intro entry inside
        rw [mine entry inside]
        omega
      rw [next, entriesOf_nil early, List.nil_append]
      exact ⟨result, there, planned⟩

section Apart

/-- Clients that serve signed calls from one part of their state and queries from another. -/
structure Apart (serve : Clients σ) (view : Bool → σ → σ) : Prop where
  same : ∀ (clients others : σ) role c, view c.isSigned clients = view c.isSigned others →
    (serve clients role c).1 = (serve others role c).1 ∧
      view c.isSigned (serve clients role c).2 = view c.isSigned (serve others role c).2
  apart : ∀ (clients : σ) role c,
    view (!c.isSigned) (serve clients role c).2 = view (!c.isSigned) clients

def callsOfKind (signed : Bool) (log : List Event) : List Event :=
  log.filter fun event => match event with
    | .called _ _ c => c.isSigned = signed
    | .answered .. => false

variable {view : Bool → σ → σ}

/-- Calls of the other kind change nothing in what the clients make of the calls of a kind. -/
theorem Apart.ledger (apart : Apart serve view) (clients : σ) (signed : Bool) (log : List Event) :
    view signed (ledger serve clients log).1 =
        view signed (ledger serve clients (callsOfKind signed log)).1 ∧
      (ledger serve clients log).2.filter (·.call.isSigned = signed) =
        (ledger serve clients (callsOfKind signed log)).2 := by
  induction log using List.reverseRecOn with
  | nil => exact ⟨rfl, rfl⟩
  | append_singleton log event ih =>
    obtain ⟨views, entries⟩ := ih
    cases event with
    | answered who role c reply =>
      have nothing : callsOfKind signed (log ++ [.answered who role c reply]) = callsOfKind signed log :=
        (List.filter_append _ _).trans (List.append_nil _)
      rw [nothing, ledger_append]
      exact ⟨views, entries⟩
    | called who role c =>
      rw [ledger_append]
      by_cases kind : c.isSigned = signed
      · have grown : callsOfKind signed (log ++ [.called who role c]) =
            callsOfKind signed log ++ [.called who role c] := by
          refine (List.filter_append _ _).trans (congrArg _ ?_)
          exact List.filter_cons_of_pos (decide_eq_true kind)
        subst kind
        obtain ⟨answers, kept⟩ := apart.same _ _ role c views
        rw [grown, ledger_append]
        unfold enter
        dsimp only
        rw [List.filter_append, entries, answers]
        refine ⟨kept, congrArg _ ?_⟩
        exact List.filter_cons_of_pos (decide_eq_true rfl)
      · have nothing : callsOfKind signed (log ++ [.called who role c]) = callsOfKind signed log := by
          refine (List.filter_append _ _).trans ((congrArg _ ?_).trans (List.append_nil _))
          exact List.filter_cons_of_neg (by simpa using kind)
        rw [nothing]
        unfold enter
        dsimp only
        rw [List.filter_append, List.filter_cons_of_neg (by simpa using kind)]
        have other : signed = !c.isSigned := Bool.eq_not.mpr (Ne.symm kind)
        refine ⟨?_, (List.append_nil _).trans entries⟩
        rw [other] at views ⊢
        exact (apart.apart _ role c).trans views

end Apart

end ContractLaunch.Session
