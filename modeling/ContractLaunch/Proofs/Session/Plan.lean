import ContractLaunch.Proofs.Questions
import ContractLaunch.Proofs.Session.Deploys
import ContractLaunch.Proofs.Session.Polls
/-!
The plans of tasks. A plan is what a task asks of the clients and makes of the answers, with no word
about locks. The program of every task is its plan with each signed call made under the lock of the
account; so programs keep to single calls under their locks, and a finished program has made the
calls of its plan.
-/
namespace ContractLaunch.Session

open Dialogue

abbrev Plan (α : Type) := Dialogue (Role × ClientCall) (fun x => x.2.Reply) α

def guarded (x : Role × ClientCall) : Program x.2.Reply :=
  if x.2.isSigned then signed x.1 x.2 else question (R := Act.Reply) (.call x.1 x.2)

def Plan.program {α : Type} (plan : Plan α) : Program α := plan.expand guarded

/-- A call and its answer, as a program's part of the log shows them. -/
def eventsOfCall (who : Nat) : Exchange (Role × ClientCall) (fun x => x.2.Reply) → List Event
  | ⟨(role, c), reply⟩ => [.called who role c, .answered who role c reply]

abbrev CallExchange := Exchange (Role × ClientCall) fun x => x.2.Reply

/-- The calls that a program makes, without a word about locks. -/
def callsIn : List (Exchange Act Act.Reply) → List CallExchange
  | [] => []
  | ⟨.call role c, reply⟩ :: rest => ⟨(role, c), reply⟩ :: callsIn rest
  | ⟨.acquire _, _⟩ :: rest | ⟨.release _, _⟩ :: rest => callsIn rest

/-- Nobody sees more of a program than its calls. -/
theorem eventsOf_eq_flatMap (who : Nat) (made : List (Exchange Act Act.Reply)) :
    eventsOf who made = (callsIn made).flatMap (eventsOfCall who) := by
  induction made with
  | nil => rfl
  | cons x rest ih =>
    obtain ⟨_ | _ | ⟨role, c⟩, reply⟩ := x
    · exact ih
    · exact ih
    · simp [eventsOf, callsIn, eventsOfCall, ih]

namespace Plan

variable {α : Type} {role : Role} {c : ClientCall} {resume : c.Reply → Plan α}

theorem program_signed (isSigned : c.isSigned = true) :
    Plan.program (.ask (role, c) resume) =
      .ask (.acquire role) fun _ => .ask (.call role c) fun reply =>
        .ask (.release role) fun _ => Plan.program (resume reply) := by
  have settled : guarded (role, c) = signed role c := if_pos isSigned
  change (guarded (role, c)).bind _ = _
  rw [settled]
  rfl

theorem program_unsigned (isQuery : c.isSigned = false) :
    Plan.program (.ask (role, c) resume) =
      .ask (.call role c) fun reply => Plan.program (resume reply) := by
  have settled : guarded (role, c) = question (R := Act.Reply) (.call role c) :=
    if_neg (Bool.eq_false_iff.mp isQuery)
  change (guarded (role, c)).bind _ = _
  rw [settled]
  rfl

theorem program_sectioned {calls : Nat} {plan : Plan α} (within : Within calls plan) :
    Sectioned .outside calls plan.program := by
  induction within with
  | done bound a => exact .done bound a
  | ask bound x resume later ih =>
    obtain ⟨role, c⟩ := x
    have call := fun rest kept => Sectioned.call (α := α) role c bound rest kept
    cases isSigned : c.isSigned with
    | true =>
      rw [program_signed isSigned]
      rw [Phase.atCall, Phase.afterCall, if_pos isSigned, if_pos isSigned] at call
      exact .acquire role (bound + 1) _ (call _ fun reply => .release role bound _ (ih reply))
    | false =>
      rw [program_unsigned isSigned]
      rw [Phase.atCall, Phase.afterCall, isSigned] at call
      exact call _ ih

theorem program_every {asked : Role × ClientCall → Prop} {plan : Plan α} (every : Every asked plan) :
    Every (fun act => ∀ role c, act = .call role c → asked (role, c)) plan.program := by
  refine every.expand fun x here => ?_
  obtain ⟨role, c⟩ := x
  have call : ∀ role' c', Act.call role c = .call role' c' → asked (role', c') := by
    intro role' c' same
    cases same
    exact here
  unfold guarded
  split
  · exact .ask _ _ nofun fun _ => .ask _ _ call fun _ => .ask _ _ nofun fun _ => .done _
  · exact every_question call

theorem transcript_callsIn {plan : Plan α} {made : List (Exchange Act Act.Reply)} {a : α}
    (transcript : Transcript plan.program made a) : Transcript plan (callsIn made) a := by
  induction plan generalizing made with
  | done b =>
    obtain ⟨rfl, rfl⟩ := transcript_done.mp transcript
    exact .done a
  | ask x resume ih =>
    obtain ⟨role, c⟩ := x
    cases isSigned : c.isSigned with
    | true =>
      rw [program_signed isSigned] at transcript
      obtain ⟨⟨⟩, _, rfl, asked⟩ := transcript_ask.mp transcript
      obtain ⟨reply, _, rfl, answered⟩ := transcript_ask.mp asked
      obtain ⟨⟨⟩, rest, rfl, released⟩ := transcript_ask.mp answered
      exact .ask (role, c) resume reply (callsIn rest) a (ih reply released)
    | false =>
      rw [program_unsigned isSigned] at transcript
      obtain ⟨reply, rest, rfl, answered⟩ := transcript_ask.mp transcript
      exact .ask (role, c) resume reply (callsIn rest) a (ih reply answered)

end Plan

namespace Task

def role : Task → Role
  | execute role .. | query role .. => role
  | storeCode .. | instantiate .. | deploy .. | resume .. => .deployer

def isQuery : Task → Bool
  | query .. => true
  | _ => false

def paying {α : Type} (next : Fee → Plan (Except DeployFault α)) :
    Except FeeFault Fee → Plan (Except DeployFault α)
  | .error fault => .done (.error (.fee fault))
  | .ok fee => next fee

def uploadFee (s : Session) : Except FeeFault Fee := Fee.compute Fee.uploadGasLimit s.gasPrice

def plan (s : Session) : Task → Plan (Except DeployFault TaskResult)
  | storeCode bytecode =>
    paying (fun fee =>
      .ask (.deployer, uploadOf s fee bytecode) fun reply =>
      .done ((storedFrom reply).map .stored)) (uploadFee s)
  | instantiate codeId message =>
    .ask (.deployer, instantiationOf s message codeId) fun reply =>
    .done ((createdFrom codeId reply).map .instantiated)
  | deploy bytecode message =>
    paying (fun fee =>
      .ask (.deployer, uploadOf s fee bytecode) fun reply =>
      match storedFrom reply with
      | .error fault => .done (.error fault)
      | .ok stored =>
        .ask (.deployer, instantiationOf s message stored.codeId) fun reply =>
        .done ((createdFrom stored.codeId reply).map fun contract =>
          .deployed ⟨some stored, contract⟩)) (uploadFee s)
  | resume codeId message =>
    .ask (.deployer, instantiationOf s message codeId) fun reply =>
    .done ((createdFrom codeId reply).map fun contract => .deployed ⟨none, contract⟩)
  | execute role contract message funds =>
    .ask (role, .execute (s.account role).address contract message .auto s.executeMemo
      (attachedFunds funds)) fun reply =>
    .done ((reply.mapError (executeFault contract)).map .executed)
  | query role contract message =>
    .ask (role, .query contract message) fun reply =>
    .done ((reply.mapError (.queryFailure contract)).map .answered)

variable {s : Session}

theorem paying_every {α : Type} {asked : Role × ClientCall → Prop}
    {next : Fee → Plan (Except DeployFault α)} (every : ∀ fee, Every asked (next fee))
    (fee : Except FeeFault Fee) : Every asked (paying next fee) := by
  cases fee with
  | error fault => exact .done _
  | ok fee => exact every fee

theorem paying_within {α : Type} {bound : Nat} {next : Fee → Plan (Except DeployFault α)}
    (within : ∀ fee, Within bound (next fee)) (fee : Except FeeFault Fee) :
    Within bound (paying next fee) := by
  cases fee with
  | error fault => exact .done bound _
  | ok fee => exact within fee

theorem plan_every (task : Task) :
    Every (fun x => x.1 = task.role ∧ x.2.isSigned = !task.isQuery) (task.plan s) := by
  cases task with
  | storeCode bytecode => exact paying_every (fun fee => .ask _ _ ⟨rfl, rfl⟩ fun _ => .done _) _
  | instantiate | resume | execute | query => exact .ask _ _ ⟨rfl, rfl⟩ fun _ => .done _
  | deploy bytecode message =>
    refine paying_every (fun fee => .ask _ _ ⟨rfl, rfl⟩ fun reply => ?_) _
    cases storedFrom reply with
    | error fault => exact .done _
    | ok stored => exact .ask _ _ ⟨rfl, rfl⟩ fun _ => .done _

theorem plan_within (task : Task) : Within task.callLimit (task.plan s) := by
  cases task with
  | storeCode bytecode => exact paying_within (fun fee => .ask 0 _ _ fun _ => .done 0 _) _
  | instantiate | resume | execute | query => exact .ask 0 _ _ fun _ => .done 0 _
  | deploy bytecode message =>
    refine paying_within (fun fee => .ask 1 _ _ fun reply => ?_) _
    cases storedFrom reply with
    | error fault => exact .done 1 _
    | ok stored => exact .ask 0 _ _ fun _ => .done 0 _

theorem map_run {α β : Type} (f : α → β) (d : Attempt α) :
    (f <$> d).run = d.run.bind fun result => .done (result.map f) :=
  congrArg d.run.bind (funext fun result => by cases result <;> rfl)

theorem eq_program_signed {α : Type} {role : Role} {c : ClientCall} {resume : c.Reply → Plan α}
    {next : c.Reply → Program α} (isSigned : c.isSigned = true)
    (same : ∀ reply, next reply = (resume reply).program) :
    (.ask (.acquire role) fun _ => .ask (.call role c) fun reply =>
      .ask (.release role) fun _ => next reply) = Plan.program (.ask (role, c) resume) := by
  rw [Plan.program_signed isSigned, funext same]

theorem signedOr_run {α : Type} {fault : ClientFault → DeployFault} {role : Role} {c : ClientCall}
    (isSigned : c.isSigned = true) {validate : c.Answer → Except DeployFault α} :
    (signedOr fault role c >>= fun answer => liftM (validate answer) : Attempt α).run =
      Plan.program (.ask (role, c) fun reply => .done ((reply.mapError fault).bind validate)) := by
  refine eq_program_signed isSigned fun reply => ?_
  cases reply <;> rfl

theorem storeCode_run (bytecode : Bytes) :
    (s.storeCode bytecode).run = Plan.program (paying (fun fee =>
      .ask (.deployer, uploadOf s fee bytecode) fun reply => .done (storedFrom reply)) (uploadFee s)) := by
  unfold Session.storeCode uploadFee
  cases Fee.compute Fee.uploadGasLimit s.gasPrice with
  | error fault => rfl
  | ok fee => exact signedOr_run rfl

theorem instantiate_run (codeId : CodeId) (message : Json) :
    (s.instantiate codeId message).run = Plan.program
      (.ask (.deployer, instantiationOf s message codeId) fun reply => .done (createdFrom codeId reply)) :=
  signedOr_run rfl

/-- The program of a task is its plan with the locks put in. -/
theorem attempt_run (task : Task) : (task.attempt s).run = (task.plan s).program := by
  cases task with
  | storeCode bytecode =>
    refine (map_run _ _).trans ?_
    rw [storeCode_run]
    change _ = Plan.program (paying _ _)
    cases uploadFee s with
    | error | ok => rfl
  | instantiate codeId message =>
    refine (map_run _ _).trans ?_
    rw [instantiate_run]
    rfl
  | deploy bytecode message =>
    refine (map_run _ _).trans ?_
    change _ = Plan.program (paying _ (uploadFee s))
    cases paid : uploadFee s with
    | error fault =>
      have refused : Fee.compute Fee.uploadGasLimit s.gasPrice = .error fault := paid
      unfold Session.deploy Session.storeCode
      rw [refused]
      rfl
    | ok fee =>
      rw [deploy_run paid]
      refine eq_program_signed rfl fun reply => ?_
      dsimp only
      cases storedFrom reply with
      | error fault => rfl
      | ok stored =>
        refine eq_program_signed rfl fun reply => ?_
        cases createdFrom stored.codeId reply <;> rfl
  | resume codeId message =>
    have step : s.resume codeId message =
        (fun contract => ⟨none, contract⟩) <$> s.instantiate codeId message :=
      congrArg (s.instantiate codeId message).run.bind (funext fun result => by cases result <;> rfl)
    refine (map_run _ _).trans ?_
    rw [step, map_run, instantiate_run, Plan.program_signed rfl]
    refine eq_program_signed rfl fun reply => ?_
    cases createdFrom codeId reply <;> rfl
  | execute role contract message funds =>
    refine eq_program_signed rfl fun reply => ?_
    cases reply <;> rfl
  | query role contract message =>
    change _ = Plan.program (.ask _ _)
    rw [Plan.program_unsigned rfl]
    refine congrArg (Dialogue.ask _) (funext fun reply => ?_)
    cases reply <;> rfl

/-- The calls that a task makes from its start to its end, with the replies to them. -/
inductive Calls (s : Session) :
    Task → List (Exchange (Role × ClientCall) fun x => x.2.Reply) → Prop
  /-- An upload that cannot be paid for is not tried. -/
  | unpaid (bytecode fault) (unpaid : uploadFee s = .error fault) : Calls s (.storeCode bytecode) []
  | storeCode (bytecode fee reply) (paid : uploadFee s = .ok fee) :
      Calls s (.storeCode bytecode) [⟨(.deployer, uploadOf s fee bytecode), reply⟩]
  | instantiate (codeId message reply) :
      Calls s (.instantiate codeId message) [⟨(.deployer, instantiationOf s message codeId), reply⟩]
  | undeployed (bytecode message fault) (unpaid : uploadFee s = .error fault) :
      Calls s (.deploy bytecode message) []
  /-- Without a valid upload there is nothing to instantiate. -/
  | unstored (bytecode message fee reply fault) (paid : uploadFee s = .ok fee)
      (refused : storedFrom reply = .error fault) :
      Calls s (.deploy bytecode message) [⟨(.deployer, uploadOf s fee bytecode), reply⟩]
  | deploy (bytecode message fee reply stored created) (paid : uploadFee s = .ok fee)
      (accepted : storedFrom reply = .ok stored) :
      Calls s (.deploy bytecode message) [⟨(.deployer, uploadOf s fee bytecode), reply⟩,
        ⟨(.deployer, instantiationOf s message stored.codeId), created⟩]
  | resume (codeId message reply) :
      Calls s (.resume codeId message) [⟨(.deployer, instantiationOf s message codeId), reply⟩]
  | execute (role contract message funds reply) :
      Calls s (.execute role contract message funds)
        [⟨(role, .execute (s.account role).address contract message .auto s.executeMemo
          (attachedFunds funds)), reply⟩]
  | query (role contract message reply) :
      Calls s (.query role contract message) [⟨(role, .query contract message), reply⟩]

theorem transcript_last {α : Type} {x : Role × ClientCall} {judge : x.2.Reply → α}
    {made : List CallExchange} {a : α} :
    Transcript (.ask x fun reply => .done (judge reply) : Plan α) made a ↔
      ∃ reply, made = [⟨x, reply⟩] ∧ a = judge reply := by
  simp only [transcript_ask, transcript_done]
  constructor
  · intro given
    obtain ⟨reply, _, rfl, rfl, rfl⟩ := given
    exact ⟨reply, rfl, rfl⟩
  · intro given
    obtain ⟨reply, rfl, rfl⟩ := given
    exact ⟨reply, [], rfl, rfl, rfl⟩

theorem calls_of_transcript {task : Task}
    {made : List (Exchange (Role × ClientCall) fun x => x.2.Reply)}
    {result : Except DeployFault TaskResult} (transcript : Transcript (task.plan s) made result) :
    task.Calls s made := by
  cases task with
  | storeCode bytecode =>
    change Transcript (paying _ (uploadFee s)) made result at transcript
    cases paid : uploadFee s with
    | error fault =>
      rw [paid] at transcript
      obtain ⟨rfl, -⟩ := transcript_done.mp transcript
      exact .unpaid bytecode fault paid
    | ok fee =>
      rw [paid] at transcript
      obtain ⟨reply, rfl, -⟩ := transcript_last.mp transcript
      exact .storeCode bytecode fee reply paid
  | instantiate codeId message =>
    obtain ⟨reply, rfl, -⟩ := transcript_last.mp transcript
    exact .instantiate codeId message reply
  | deploy bytecode message =>
    change Transcript (paying _ (uploadFee s)) made result at transcript
    cases paid : uploadFee s with
    | error fault =>
      rw [paid] at transcript
      obtain ⟨rfl, -⟩ := transcript_done.mp transcript
      exact .undeployed bytecode message fault paid
    | ok fee =>
      rw [paid] at transcript
      obtain ⟨reply, rest, rfl, judged⟩ := transcript_ask.mp transcript
      cases outcome : storedFrom reply with
      | error fault =>
        rw [outcome] at judged
        obtain ⟨rfl, -⟩ := transcript_done.mp judged
        exact .unstored bytecode message fee reply fault paid outcome
      | ok stored =>
        rw [outcome] at judged
        obtain ⟨created, rfl, -⟩ := transcript_last.mp judged
        exact .deploy bytecode message fee reply stored created paid outcome
  | resume codeId message =>
    obtain ⟨reply, rfl, -⟩ := transcript_last.mp transcript
    exact .resume codeId message reply
  | execute role contract message funds =>
    obtain ⟨reply, rfl, -⟩ := transcript_last.mp transcript
    exact .execute role contract message funds reply
  | query role contract message =>
    obtain ⟨reply, rfl, -⟩ := transcript_last.mp transcript
    exact .query role contract message reply

end Task

end ContractLaunch.Session
