import ContractLaunch.Proofs.Session.Deploys
import ContractLaunch.Proofs.Session.Serial
/-!
Scripted clients. They answer from a queue for each kind of call and keep a record of the calls that
they take; a client without a signing key refuses signed calls, which leave no trace. Against them,
tasks of one account make no difference between a round robin and a sequence.
-/
namespace ContractLaunch.Session

/-- Queues of replies, and the calls that were taken. -/
@[ext]
structure Scripts where
  uploads : List (Except ClientFault StoreResponse)
  instantiations : List (Except ClientFault InstantiateResponse)
  executions : List (Except ClientFault Receipt)
  queries : List (Except ClientFault Json)
  calls : List (Role × ClientCall)

namespace Scripts

/-- The next reply to a kind of call, which an exhausted queue gives over and over. -/
def take (exhausted : ClientFault) (scripts : Scripts) : (c : ClientCall) → c.Reply × Scripts
  | .upload .. =>
    (scripts.uploads.headD (.error exhausted), { scripts with uploads := scripts.uploads.tail })
  | .instantiate .. =>
    (scripts.instantiations.headD (.error exhausted),
      { scripts with instantiations := scripts.instantiations.tail })
  | .execute .. =>
    (scripts.executions.headD (.error exhausted), { scripts with executions := scripts.executions.tail })
  | .query .. =>
    (scripts.queries.headD (.error exhausted), { scripts with queries := scripts.queries.tail })

def takes (refusal : Role → Option ClientFault) (call : Role × ClientCall) : Bool :=
  !call.2.isSigned || (refusal call.1).isNone

/-- Clients that answer from scripts. Those with a refusal have no signing key. -/
def serve (refusal : Role → Option ClientFault) (exhausted : ClientFault) : Clients Scripts :=
  fun scripts role c =>
    match if c.isSigned then refusal role else none with
    | some fault => (.refused fault, scripts)
    | none =>
      let (reply, scripts) := scripts.take exhausted c
      (.opened reply, { scripts with calls := scripts.calls ++ [(role, c)] })

def callsOfKind (signed : Bool) (scripts : Scripts) : List (Role × ClientCall) :=
  scripts.calls.filter (·.2.isSigned = signed)

/-- What concerns signed calls only, or queries only. -/
def view (signed : Bool) (scripts : Scripts) : Scripts :=
  if signed then { scripts with queries := [], calls := scripts.callsOfKind true }
  else ⟨[], [], [], scripts.queries, scripts.callsOfKind false⟩

/-- The views of both kinds show everything but how signed calls and queries alternate. -/
theorem same_of_views {scripts others : Scripts} (views : ∀ signed, view signed scripts = view signed others) :
    { scripts with calls := [] } = { others with calls := [] } ∧
      ∀ signed, scripts.callsOfKind signed = others.callsOfKind signed := by
  have signed := views true
  have queries := views false
  simp only [view, if_true, Bool.false_eq_true, if_false, mk.injEq] at signed queries
  obtain ⟨uploads, instantiations, executions, -, calls⟩ := signed
  obtain ⟨-, -, -, queries, others⟩ := queries
  exact ⟨Scripts.ext uploads instantiations executions queries rfl, Bool.forall_bool.mpr ⟨others, calls⟩⟩

theorem take_same (exhausted : ClientFault) {scripts others : Scripts} (role : Role) (c : ClientCall)
    (alike : view c.isSigned scripts = view c.isSigned others) :
    (scripts.take exhausted c).1 = (others.take exhausted c).1 ∧
      view c.isSigned { (scripts.take exhausted c).2 with
        calls := (scripts.take exhausted c).2.calls ++ [(role, c)] } =
      view c.isSigned { (others.take exhausted c).2 with
        calls := (others.take exhausted c).2.calls ++ [(role, c)] } := by
  cases c with
  | upload | instantiate | execute | query =>
    simp only [view, ClientCall.isSigned, if_true, Bool.false_eq_true, if_false, mk.injEq,
      callsOfKind, take, List.filter_append] at alike ⊢
    simp [alike]

theorem take_apart {exhausted : ClientFault} {scripts : Scripts} (role : Role) (c : ClientCall) :
    view (!c.isSigned) { (scripts.take exhausted c).2 with
      calls := (scripts.take exhausted c).2.calls ++ [(role, c)] } = view (!c.isSigned) scripts := by
  cases c with
  | upload | instantiate | execute | query =>
    simp [view, ClientCall.isSigned, callsOfKind, take, List.filter_append]

theorem serve_apart (refusal : Role → Option ClientFault) (exhausted : ClientFault) :
    Apart (serve refusal exhausted) view where
  same := by
    intro scripts others role c alike
    unfold serve
    cases if c.isSigned then refusal role else none with
    | some fault => exact ⟨rfl, alike⟩
    | none =>
      obtain ⟨reply, kept⟩ := take_same exhausted role c alike
      exact ⟨congrArg Served.opened reply, kept⟩
  apart := by
    intro scripts role c
    unfold serve
    cases if c.isSigned then refusal role else none with
    | some fault => rfl
    | none => exact take_apart role c

theorem serve_calls (refusal : Role → Option ClientFault) (exhausted : ClientFault) (scripts : Scripts)
    (role : Role) (c : ClientCall) :
    (serve refusal exhausted scripts role c).2.calls =
      scripts.calls ++ if takes refusal (role, c) then [(role, c)] else [] := by
  have kept : (scripts.take exhausted c).2.calls = scripts.calls := by cases c <;> rfl
  unfold serve takes
  cases c.isSigned with
  | false =>
    change (scripts.take exhausted c).2.calls ++ _ = _
    rw [kept]
    rfl
  | true =>
    cases refusal role with
    | some fault => exact (List.append_nil _).symm
    | none =>
      change (scripts.take exhausted c).2.calls ++ _ = _
      rw [kept]
      rfl

theorem ledger_calls (refusal : Role → Option ClientFault) (exhausted : ClientFault)
    (scripts : Scripts) (log : List Event) :
    (ledger (serve refusal exhausted) scripts log).1.calls =
      scripts.calls ++ ((log.filterMap Event.handed?).map (·.2)).filter (takes refusal) := by
  induction log using List.reverseRecOn with
  | nil => exact (List.append_nil _).symm
  | append_singleton log event ih =>
    rw [ledger_append, List.filterMap_append, List.map_append, List.filter_append, ← List.append_assoc,
      ← ih]
    cases event with
    | answered => exact (List.append_nil _).symm
    | called who role c =>
      unfold enter
      dsimp only
      rw [serve_calls]
      refine congrArg _ ?_
      change _ = [(role, c)].filter (takes refusal)
      cases taken : takes refusal (role, c) with
      | true => rw [if_pos rfl, List.filter_cons_of_pos taken, List.filter_nil]
      | false => rw [if_neg Bool.false_ne_true, List.filter_cons_of_neg (by simp [taken]), List.filter_nil]

end Scripts

theorem handed_callsFrom (s : Session) (place : Nat) (tasks : List Task) :
    ((callsFrom s place tasks).filterMap Event.handed?).map (·.2) = tasks.filterMap (Task.call? s) := by
  induction tasks generalizing place with
  | nil => rfl
  | cons task rest ih =>
    rw [callsFrom, List.filterMap_append, List.map_append, ih, List.filterMap_cons]
    cases task.call? s <;> rfl

/-- Against scripted clients, tasks that make one call each and sign as one account, and queries among
them, come to the same results side by side in a round robin as one after another, however long the
calls take; their signed calls are the same, and in the order of the tasks. -/
theorem one_account_serial (s : Session) (refusal : Role → Option ClientFault)
    (exhausted : ClientFault) (duration : Nat → Nat) (scripts : Scripts) (role : Role)
    (tasks : List Task) (single : ∀ task ∈ tasks, task.callLimit = 1)
    (owned : ∀ task ∈ tasks, task.isQuery = true ∨ task.role = role) :
    let serve := Scripts.serve refusal exhausted
    let programs := tasks.map fun task => (task.attempt s).run
    let floor := sideBySide serve duration scripts programs (tasks.map Task.callLimit).sum
    let sequence := oneByOne serve programs scripts
    floor.results = sequence.1.map some ∧
      (∀ signed, floor.clients.callsOfKind signed = sequence.2.callsOfKind signed) ∧
      { floor.clients with calls := [] } = { sequence.2 with calls := [] } ∧
      sequence.2.calls =
        scripts.calls ++ (tasks.filterMap (Task.call? s)).filter (Scripts.takes refusal) ∧
      callsOfKind true floor.log = callsOfKind true (callsFrom s 0 tasks) := by
  intro serve programs floor sequence
  obtain ⟨results, kinds⟩ := sideBySide_serial (s := s)
    (Scripts.serve_apart refusal exhausted) duration scripts single owned
  obtain ⟨queues, calls⟩ := Scripts.same_of_views fun signed => (kinds signed).1
  refine ⟨results, calls, queues, ?_, (kinds true).2⟩
  change (oneByOne serve (Task.programs s tasks) scripts).2.calls = _
  rw [(oneByOne_callsFrom serve s tasks single 0 scripts).1, Scripts.ledger_calls, handed_callsFrom]

/-- Two messages and a query: side by side the query overtakes the second message, and all three are
answered as they are in sequence. -/
theorem one_account_serial_overtaking :
    let call : Task := .execute .tester "wasm1contract" .null none
    let tasks : List Task := [call, call, .query .deployer "wasm1contract" .null]
    let scripts : Scripts :=
      ⟨[], [], [.ok ⟨"FIRST", 1, 0, 0⟩, .error (.transport "timed out")], [.ok (.object [])], []⟩
    let serve := Scripts.serve (fun _ => none) (.transport "not here")
    let programs := tasks.map fun task => (task.attempt crossingSession).run
    let floor := sideBySide serve (fun _ => 2) scripts programs (tasks.map Task.callLimit).sum
    let sequence := oneByOne serve programs scripts
    (floor.results = sequence.1.map some ∧
      (∀ signed, floor.clients.callsOfKind signed = sequence.2.callsOfKind signed) ∧
      { floor.clients with calls := [] } = { sequence.2 with calls := [] } ∧
      sequence.2.calls = scripts.calls ++
        (tasks.filterMap (Task.call? crossingSession)).filter (Scripts.takes fun _ => none) ∧
      callsOfKind true floor.log = callsOfKind true (callsFrom crossingSession 0 tasks)) ∧
    floor.clients.calls.map (·.2.isSigned) = [true, false, true] ∧
    sequence.2.calls.map (·.2.isSigned) = [true, true, false] :=
  ⟨one_account_serial crossingSession (fun _ => none) (.transport "not here") (fun _ => 2) _ .tester
    [.execute .tester "wasm1contract" .null none, .execute .tester "wasm1contract" .null none,
      .query .deployer "wasm1contract" .null]
    (by decide) (by decide), rfl, rfl⟩

end ContractLaunch.Session
