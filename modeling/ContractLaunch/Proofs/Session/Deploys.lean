import ContractLaunch.Proofs.Deploy.Validation
import ContractLaunch.Proofs.Session.Ending
import ContractLaunch.Proofs.Session.Log
import ContractLaunch.Session.Task
/-!
Deployments that run side by side in one session. Each makes its own upload, instantiates the code
that its own upload was answered with, and reports what its own calls brought, whatever the others
do in between.
-/
namespace ContractLaunch.Session

open Dialogue

abbrev uploadOf (s : Session) (fee : Fee) (bytecode : Bytes) : ClientCall :=
  .upload s.deployer.address bytecode fee s.uploadMemo

abbrev instantiationOf (s : Session) (message : Json) (codeId : CodeId) : ClientCall :=
  .instantiate s.deployer.address codeId message s.label .auto

def storedFrom (reply : Except ClientFault StoreResponse) : Except DeployFault StoredCode :=
  (reply.mapError .storeFailure).bind StoreResponse.validate

def createdFrom (codeId : CodeId) (reply : Except ClientFault InstantiateResponse) :
    Except DeployFault LiveContract :=
  (reply.mapError (.instantiateFailure codeId)).bind InstantiateResponse.validate

section Course

variable {s : Session} {fee : Fee} {bytecode : Bytes} {message : Json} {who : Nat}

theorem deploy_run (paid : Fee.compute Fee.uploadGasLimit s.gasPrice = .ok fee) :
    (s.deploy bytecode message).run =
      .ask (.acquire .deployer) fun _ =>
      .ask (.call .deployer (uploadOf s fee bytecode)) fun reply =>
      .ask (.release .deployer) fun _ =>
        match storedFrom reply with
        | .error fault => .done (.error fault)
        | .ok stored =>
          .ask (.acquire .deployer) fun _ =>
          .ask (.call .deployer (instantiationOf s message stored.codeId)) fun reply =>
          .ask (.release .deployer) fun _ =>
            .done ((createdFrom stored.codeId reply).map fun contract => ⟨some stored, contract⟩) := by
  unfold deploy storeCode
  rw [paid]
  refine congrArg (Dialogue.ask _) (funext fun _ => ?_)
  refine congrArg (Dialogue.ask _) (funext fun reply => ?_)
  refine congrArg (Dialogue.ask _) (funext fun _ => ?_)
  cases reply with
  | error fault => rfl
  | ok response =>
    change _ = (match response.validate with
      | .error fault => _
      | .ok stored => _)
    change Dialogue.bind (.done response.validate) _ = _
    cases response.validate with
    | error fault => rfl
    | ok stored =>
      refine congrArg (Dialogue.ask _) (funext fun _ => ?_)
      refine congrArg (Dialogue.ask _) (funext fun reply => ?_)
      refine congrArg (Dialogue.ask _) (funext fun _ => ?_)
      cases reply with
      | error fault => rfl
      | ok response =>
        change _ = Dialogue.done (Except.map _ response.validate)
        change Dialogue.bind (.done response.validate) _ = _
        cases response.validate with
        | error fault => rfl
        | ok contract => rfl

/-- The stages of a deployment: the events of its calls up to a stage, and its result if it has come
to its end. -/
inductive Deploying (s : Session) (fee : Fee) (bytecode : Bytes) (message : Json) (who : Nat) :
    List Event → Option (Except DeployFault Deployment) → Prop
  | idle : Deploying s fee bytecode message who [] none
  | uploading :
      Deploying s fee bytecode message who [.called who .deployer (uploadOf s fee bytecode)] none
  | uploaded (reply) :
      Deploying s fee bytecode message who
        [.called who .deployer (uploadOf s fee bytecode),
          .answered who .deployer (uploadOf s fee bytecode) reply] none
  | unstored (reply fault) (refused : storedFrom reply = .error fault) :
      Deploying s fee bytecode message who
        [.called who .deployer (uploadOf s fee bytecode),
          .answered who .deployer (uploadOf s fee bytecode) reply] (some (.error fault))
  | instantiating (reply stored) (accepted : storedFrom reply = .ok stored) :
      Deploying s fee bytecode message who
        [.called who .deployer (uploadOf s fee bytecode),
          .answered who .deployer (uploadOf s fee bytecode) reply,
          .called who .deployer (instantiationOf s message stored.codeId)] none
  | instantiated (reply stored created) (accepted : storedFrom reply = .ok stored)
      (result : Option (Except DeployFault Deployment))
      (ended : ∀ outcome ∈ result,
        outcome = (createdFrom stored.codeId created).map fun contract => ⟨some stored, contract⟩) :
      Deploying s fee bytecode message who
        [.called who .deployer (uploadOf s fee bytecode),
          .answered who .deployer (uploadOf s fee bytecode) reply,
          .called who .deployer (instantiationOf s message stored.codeId),
          .answered who .deployer (instantiationOf s message stored.codeId) created] result

/-- A point in the program of a deployment, after some exchanges, is at one of the stages. -/
structure AtStage (s : Session) (fee : Fee) (bytecode : Bytes) (message : Json) (who : Nat)
    (made : List (Exchange Act Act.Reply)) (next : Program (Except DeployFault Deployment)) :
    Prop where
  here : Deploying s fee bytecode message who (eventsOf who made) none
  ended : ∀ outcome, next = .done outcome →
    Deploying s fee bytecode message who (eventsOf who made) (some outcome)
  calling : ∀ role c resume, next = .ask (.call role c) resume →
    Deploying s fee bytecode message who (eventsOf who made ++ [.called who role c]) none

theorem atStage_of_reached (paid : Fee.compute Fee.uploadGasLimit s.gasPrice = .ok fee)
    {made : List (Exchange Act Act.Reply)} {next : Program (Except DeployFault Deployment)}
    (reached : Reached (s.deploy bytecode message).run made next) :
    AtStage s fee bytecode message who made next := by
  rw [deploy_run paid] at reached
  rcases reached_ask.mp reached with ⟨rfl, rfl⟩ | ⟨⟨⟩, _, rfl, upload⟩
  · exact ⟨.idle, nofun, nofun⟩
  rcases reached_ask.mp upload with ⟨rfl, rfl⟩ | ⟨reply, _, rfl, uploaded⟩
  · refine ⟨.idle, nofun, ?_⟩
    intro role c resume same
    cases same
    exact .uploading
  rcases reached_ask.mp uploaded with ⟨rfl, rfl⟩ | ⟨⟨⟩, _, rfl, judged⟩
  · exact ⟨.uploaded reply, nofun, nofun⟩
  cases outcome : storedFrom reply with
  | error fault =>
    rw [outcome] at judged
    obtain ⟨rfl, rfl⟩ := reached_done.mp judged
    refine ⟨.uploaded reply, ?_, nofun⟩
    intro _ same
    cases same
    exact .unstored reply fault outcome
  | ok stored =>
    rw [outcome] at judged
    rcases reached_ask.mp judged with ⟨rfl, rfl⟩ | ⟨⟨⟩, _, rfl, creation⟩
    · exact ⟨.uploaded reply, nofun, nofun⟩
    rcases reached_ask.mp creation with ⟨rfl, rfl⟩ | ⟨created, _, rfl, instantiated⟩
    · refine ⟨.uploaded reply, nofun, ?_⟩
      intro role c resume same
      cases same
      exact .instantiating reply stored outcome
    rcases reached_ask.mp instantiated with ⟨rfl, rfl⟩ | ⟨⟨⟩, _, rfl, finished⟩
    · exact ⟨.instantiated reply stored created outcome none nofun, nofun, nofun⟩
    obtain ⟨rfl, rfl⟩ := reached_done.mp finished
    refine ⟨.instantiated reply stored created outcome none nofun, ?_, nofun⟩
    intro _ same
    cases same
    refine .instantiated reply stored created outcome _ ?_
    intro _ same
    cases same
    rfl

def Progress.result? {α : Type} : Progress α → Option α
  | .finished a => some a
  | _ => none

theorem deploying_of_tracked (paid : Fee.compute Fee.uploadGasLimit s.gasPrice = .ok fee)
    {p : Progress (Except DeployFault Deployment)} {events : List Event}
    (steps : Tracked who (s.deploy bytecode message).run p events) :
    Deploying s fee bytecode message who events p.result? := by
  cases steps with
  | ready made next reached => exact (atStage_of_reached paid reached).here
  | waiting made role next reached => exact (atStage_of_reached paid reached).here
  | calling made polls role c reply next reached =>
    exact (atStage_of_reached paid reached).calling role c next rfl
  | finished made outcome reached => exact (atStage_of_reached paid reached).ended outcome rfl

namespace Floor

variable {σ α : Type} {f : Floor σ α}

theorem results_eq (f : Floor σ α) : f.results = f.programs.map Progress.result? := by
  refine congrArg (f.programs.map ·) (funext fun p => ?_)
  cases p <;> rfl

theorem isSome_of_isFinished (finished : f.isFinished) : ∀ result ∈ f.results, result.isSome := by
  intro result inside
  rw [results_eq] at inside
  obtain ⟨p, member, rfl⟩ := List.mem_map.mp inside
  have ended := List.all_eq_true.mp finished p member
  cases p with
  | finished a => rfl
  | ready | waiting | calling => cases ended

end Floor

theorem storedFrom_eq_ok_iff {reply : Except ClientFault StoreResponse} {stored : StoredCode} :
    storedFrom reply = .ok stored ↔
      ∃ r codeId, reply = .ok r ∧ r.codeId.bind CodeId.read? = some codeId ∧
        stored = ⟨r.hash, codeId, r.gasWanted, r.gasUsed⟩ := by
  cases reply with
  | error fault =>
    have failed : storedFrom (.error fault) = .error (.storeFailure fault) := rfl
    simp [failed]
  | ok r =>
    change r.validate = .ok stored ↔ _
    rw [StoreResponse.validate_eq_ok_iff]
    simp

theorem createdFrom_eq_ok_iff {codeId : CodeId} {reply : Except ClientFault InstantiateResponse}
    {contract : LiveContract} :
    createdFrom codeId reply = .ok contract ↔
      ∃ r address, reply = .ok r ∧ r.address.map Text.trimmed = some address ∧ address ≠ "" ∧
        contract = ⟨r.hash, address, r.gasWanted, r.gasUsed⟩ := by
  cases reply with
  | error fault =>
    have failed : createdFrom codeId (.error fault) = .error (.instantiateFailure codeId fault) := rfl
    simp [failed]
  | ok r =>
    change r.validate = .ok contract ↔ _
    rw [InstantiateResponse.validate_eq_ok_iff]
    simp

end Course

def Event.call? : Event → Option (Role × ClientCall)
  | .called _ role c => some (role, c)
  | .answered .. => none

def callsOf (who : Nat) (log : List Event) : List (Role × ClientCall) :=
  (own who log).filterMap Event.call?

/-- One deployment keeps to its own code among others: what it called, what it was answered, and what
it reports, as far as it has come. -/
structure Unmixed (s : Session) (fee : Fee) (bytecode : Bytes) (message : Json) (who : Nat)
    (log : List Event) (result : Option (Except DeployFault Deployment)) : Prop where
  /-- It uploads its own bytecode, then instantiates with its own message, each at most once. -/
  calls : callsOf who log = [] ∨
    callsOf who log = [(.deployer, uploadOf s fee bytecode)] ∨
    ∃ codeId, callsOf who log =
      [(.deployer, uploadOf s fee bytecode), (.deployer, instantiationOf s message codeId)]
  /-- No call of it has two answers. -/
  answers : ∀ c reply reply', .answered who .deployer c reply ∈ log →
    .answered who .deployer c reply' ∈ log → reply = reply'
  /-- It does not end without its upload. -/
  uploads : result.isSome → callsOf who log ≠ []
  /-- It instantiates only after its own upload was answered with that code id. -/
  instantiates : ∀ codeId, (.deployer, instantiationOf s message codeId) ∈ callsOf who log →
    ∃ r before after, log = before ++ .answered who .deployer (uploadOf s fee bytecode) (.ok r) :: after ∧
      r.codeId.bind CodeId.read? = some codeId ∧
      .called who .deployer (instantiationOf s message codeId) ∈ after
  /-- It does not end without instantiating the code that its own upload was answered with. -/
  continues : result.isSome → ∀ r codeId,
    .answered who .deployer (uploadOf s fee bytecode) (.ok r) ∈ log →
    r.codeId.bind CodeId.read? = some codeId →
    (.deployer, instantiationOf s message codeId) ∈ callsOf who log
  /-- It reports what its own two calls were answered with, and an address that is not blank. -/
  reports : ∀ d, result = some (.ok d) → ∃ r codeId created address,
    .answered who .deployer (uploadOf s fee bytecode) (.ok r) ∈ log ∧
    r.codeId.bind CodeId.read? = some codeId ∧
    .answered who .deployer (instantiationOf s message codeId) (.ok created) ∈ log ∧
    created.address.map Text.trimmed = some address ∧ address ≠ "" ∧
    d = ⟨some ⟨r.hash, codeId, r.gasWanted, r.gasUsed⟩,
      ⟨created.hash, address, created.gasWanted, created.gasUsed⟩⟩

section Stages

variable {s : Session} {fee : Fee} {bytecode : Bytes} {message : Json} {who : Nat}
  {events : List Event} {result : Option (Except DeployFault Deployment)}

theorem Deploying.calls (stage : Deploying s fee bytecode message who events result) :
    events.filterMap Event.call? = [] ∨
      events.filterMap Event.call? = [(.deployer, uploadOf s fee bytecode)] ∨
      ∃ codeId, events.filterMap Event.call? =
        [(.deployer, uploadOf s fee bytecode), (.deployer, instantiationOf s message codeId)] := by
  cases stage with
  | idle => exact .inl rfl
  | uploading => exact .inr (.inl rfl)
  | uploaded reply => exact .inr (.inl rfl)
  | unstored reply fault refused => exact .inr (.inl rfl)
  | instantiating reply stored accepted => exact .inr (.inr ⟨stored.codeId, rfl⟩)
  | instantiated reply stored created accepted _ ended => exact .inr (.inr ⟨stored.codeId, rfl⟩)

theorem Deploying.answers (stage : Deploying s fee bytecode message who events result)
    {c : ClientCall} {reply reply' : c.Reply} (first : .answered who .deployer c reply ∈ events)
    (second : .answered who .deployer c reply' ∈ events) : reply = reply' := by
  cases stage with
  | idle => cases first
  | uploading => simp at first
  | uploaded r | unstored r | instantiating r =>
    obtain ⟨rfl, same⟩ : c = uploadOf s fee bytecode ∧ reply ≍ r := by simpa using first
    have other : reply' = r := by simpa using second
    exact (eq_of_heq same).trans other.symm
  | instantiated r stored created accepted _ ended =>
    have made : (c = uploadOf s fee bytecode ∧ reply ≍ r) ∨
        (c = instantiationOf s message stored.codeId ∧ reply ≍ created) := by simpa using first
    obtain ⟨rfl, same⟩ | ⟨rfl, same⟩ := made
    · have other : reply' = r := by simpa using second
      exact (eq_of_heq same).trans other.symm
    · have other : reply' = created := by simpa using second
      exact (eq_of_heq same).trans other.symm

theorem Deploying.uploads (stage : Deploying s fee bytecode message who events result)
    (finished : result.isSome) : events.filterMap Event.call? ≠ [] := by
  cases stage with
  | idle | uploading | uploaded | instantiating => cases finished
  | unstored reply fault refused => exact List.cons_ne_nil _ _
  | instantiated reply stored created accepted _ ended => exact List.cons_ne_nil _ _

theorem Deploying.instantiates (stage : Deploying s fee bytecode message who events result)
    {codeId : CodeId}
    (called : (.deployer, instantiationOf s message codeId) ∈ events.filterMap Event.call?) :
    ∃ r late, r.codeId.bind CodeId.read? = some codeId ∧
      events = [.called who .deployer (uploadOf s fee bytecode)] ++
        .answered who .deployer (uploadOf s fee bytecode) (.ok r) :: late ∧
      .called who .deployer (instantiationOf s message codeId) ∈ late := by
  cases stage with
  | idle => cases called
  | uploading | uploaded | unstored => simp [Event.call?] at called
  | instantiating reply stored accepted =>
    obtain ⟨r, read, rfl, valid, rfl⟩ := storedFrom_eq_ok_iff.mp accepted
    obtain rfl : read = codeId := by simpa [Event.call?] using called
    exact ⟨r, _, valid, rfl, List.mem_cons_self⟩
  | instantiated reply stored created accepted _ ended =>
    obtain ⟨r, read, rfl, valid, rfl⟩ := storedFrom_eq_ok_iff.mp accepted
    obtain rfl : read = codeId := by simpa [Event.call?] using called
    exact ⟨r, _, valid, rfl, List.mem_cons_self⟩

theorem Deploying.continues (stage : Deploying s fee bytecode message who events result)
    (finished : result.isSome) {r : StoreResponse} {codeId : CodeId}
    (answered : .answered who .deployer (uploadOf s fee bytecode) (.ok r) ∈ events)
    (valid : r.codeId.bind CodeId.read? = some codeId) :
    (.deployer, instantiationOf s message codeId) ∈ events.filterMap Event.call? := by
  cases stage with
  | idle | uploading | uploaded | instantiating => cases finished
  | unstored reply fault refused =>
    obtain rfl : Except.ok r = reply := by simpa using answered
    rw [storedFrom_eq_ok_iff.mpr ⟨r, codeId, rfl, valid, rfl⟩] at refused
    cases refused
  | instantiated reply stored created accepted _ ended =>
    obtain rfl : Except.ok r = reply := by simpa using answered
    rw [storedFrom_eq_ok_iff.mpr ⟨r, codeId, rfl, valid, rfl⟩] at accepted
    cases accepted
    exact List.mem_cons_of_mem _ List.mem_cons_self

theorem Deploying.reports {d : Deployment}
    (stage : Deploying s fee bytecode message who events (some (.ok d))) :
    ∃ r codeId created address,
      .answered who .deployer (uploadOf s fee bytecode) (.ok r) ∈ events ∧
      r.codeId.bind CodeId.read? = some codeId ∧
      .answered who .deployer (instantiationOf s message codeId) (.ok created) ∈ events ∧
      created.address.map Text.trimmed = some address ∧ address ≠ "" ∧
      d = ⟨some ⟨r.hash, codeId, r.gasWanted, r.gasUsed⟩,
        ⟨created.hash, address, created.gasWanted, created.gasUsed⟩⟩ := by
  cases stage with
  | instantiated reply stored created accepted _ ended =>
    obtain ⟨r, codeId, rfl, valid, rfl⟩ := storedFrom_eq_ok_iff.mp accepted
    have outcome := ended _ rfl
    cases live : createdFrom codeId created with
    | error fault =>
      rw [live] at outcome
      cases outcome
    | ok contract =>
      rw [live] at outcome
      obtain rfl := Except.ok.inj outcome
      obtain ⟨answer, address, rfl, named, shown, rfl⟩ := createdFrom_eq_ok_iff.mp live
      exact ⟨r, codeId, answer, address, by simp, valid, by simp, named, shown, rfl⟩

theorem unmixed_of_deploying {log : List Event}
    (stage : Deploying s fee bytecode message who (own who log) result) :
    Unmixed s fee bytecode message who log result where
  calls := stage.calls
  answers := by
    intro c reply reply' first second
    exact stage.answers (mem_own.mpr ⟨first, rfl⟩) (mem_own.mpr ⟨second, rfl⟩)
  uploads := stage.uploads
  instantiates := by
    intro codeId called
    obtain ⟨r, late, valid, split, later⟩ := stage.instantiates called
    obtain ⟨before, after, rfl, kept⟩ := own_split split
    exact ⟨r, before, after, rfl, valid, kept _ later⟩
  continues := by
    intro finished r codeId answered valid
    exact stage.continues finished (mem_own.mpr ⟨answered, rfl⟩) valid
  reports := by
    intro d same
    subst same
    obtain ⟨r, codeId, created, address, uploaded, valid, instantiated, rest⟩ := stage.reports
    exact ⟨r, codeId, created, address, (mem_own.mp uploaded).1, valid, (mem_own.mp instantiated).1, rest⟩

end Stages

theorem deploy_disciplined {s : Session} {fee : Fee}
    (paid : Fee.compute Fee.uploadGasLimit s.gasPrice = .ok fee) (bytecode : Bytes) (message : Json) :
    Disciplined none 6 (s.deploy bytecode message).run := by
  rw [deploy_run paid]
  refine .acquire .deployer 5 _ ?_
  refine .call .deployer (uploadOf s fee bytecode) 4 _ fun reply => ?_
  refine .release .deployer 3 _ ?_
  cases storedFrom reply with
  | error fault => exact .done 3 _
  | ok stored =>
    refine .acquire .deployer 2 _ ?_
    refine .call .deployer (instantiationOf s message stored.codeId) 1 _ fun reply => ?_
    exact .release .deployer 0 _ (.done 0 _)

/-- Deployments that run side by side do not mix their codes, however their polls interleave and
whatever the clients answer. All calls are theirs, and they finish when they are polled in rounds. -/
theorem deploys_unmixed {σ : Type} (s : Session) (fee : Fee)
    (paid : Fee.compute Fee.uploadGasLimit s.gasPrice = .ok fee) (serve : Clients σ)
    (duration : Nat → Nat) (clients : σ) (jobs : List (Bytes × Json)) (schedule : List Nat) :
    let programs := jobs.map fun (bytecode, message) => (s.deploy bytecode message).run
    let floor := (Floor.start clients programs).follow serve duration schedule
    (∀ (who : Nat) bytecode message, jobs[who]? = some (bytecode, message) →
      ∃ result, floor.results[who]? = some result ∧
        Unmixed s fee bytecode message who floor.log result) ∧
    (∀ event ∈ floor.log, event.who < jobs.length) ∧
    ∃ rounds, ∀ result ∈ (floor.follow serve duration
      (List.replicate rounds (List.range jobs.length)).flatten).results, result.isSome := by
  intro programs floor
  have length : programs.length = jobs.length := List.length_map _
  have tracked : floor.TrackedBut programs none :=
    Floor.follow_tracked serve duration (Floor.start_tracked clients) schedule
  refine ⟨?_, ?_, ?_⟩
  · intro who bytecode message job
    have found : programs[who]? = some (s.deploy bytecode message).run := by
      rw [List.getElem?_map, job]
      rfl
    obtain ⟨p, progress, steps⟩ := tracked.tracked who _ found (Option.some_ne_none who)
    refine ⟨p.result?, ?_, unmixed_of_deploying (deploying_of_tracked paid steps)⟩
    rw [Floor.results_eq, List.getElem?_map, progress]
    rfl
  · intro event inside
    rw [← length]
    exact tracked.known event inside
  · have disciplined : ∀ program ∈ programs, Disciplined none 6 program := by
      intro program member
      obtain ⟨⟨bytecode, message⟩, -, rfl⟩ := List.mem_map.mp member
      exact deploy_disciplined paid bytecode message
    obtain ⟨cost, claims, inTurn, -⟩ :=
      (Floor.start_inTurn clients disciplined).follow serve duration schedule
    obtain ⟨rounds, ended⟩ := inTurn.finishes serve duration
    rw [length] at ended
    exact ⟨rounds, Floor.isSome_of_isFinished ended⟩

def crossingSession : Session :=
  .start ⟨.deployer, "wasm1deployer", ⟨"cwdeploy-deployer"⟩⟩
    ⟨.tester, "wasm1tester", ⟨"cwdeploy-tester"⟩⟩ ⟨⟨⟨25000000000000000, by decide⟩⟩, "utoken"⟩

def crossingClients : Clients UInt64 := fun next _ c =>
  match c with
  | .upload .. => (.opened (.ok ⟨"STORE", some (toString next), 0, 0⟩), next + 1)
  | .instantiate _ codeId .. => (.opened (.ok ⟨"INIT", some ("wasm1code" ++ toString codeId), 0, 0⟩), next)
  | .execute .. | .query .. => (.refused (.transport "not here"), next)

theorem deploys_unmixed_crossing :
    let fee : Fee := ⟨3000000, [⟨"utoken", ⟨75000, by decide⟩⟩]⟩
    let jobs : List (Bytes × Json) := [([1], .null), ([2], .object [])]
    let floor := (Floor.start 7 (jobs.map fun (bytecode, message) =>
      (crossingSession.deploy bytecode message).run)).follow crossingClients (fun _ => 2) [0, 1, 1, 0, 0]
    (∀ (who : Nat) bytecode message, jobs[who]? = some (bytecode, message) →
      ∃ result, floor.results[who]? = some result ∧
        Unmixed crossingSession fee bytecode message who floor.log result) ∧
    (∀ event ∈ floor.log, event.who < jobs.length) ∧
    ∃ rounds, ∀ result ∈ (floor.follow crossingClients (fun _ => 2)
      (List.replicate rounds (List.range jobs.length)).flatten).results, result.isSome :=
  deploys_unmixed crossingSession ⟨3000000, [⟨"utoken", ⟨75000, by decide⟩⟩]⟩ rfl crossingClients (fun _ => 2) 7
    [([1], .null), ([2], .object [])] [0, 1, 1, 0, 0]

end ContractLaunch.Session
