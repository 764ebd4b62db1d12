import ContractLaunch.Proofs.Setup.Course
import ContractLaunch.Proofs.Setup.Ground
/-!
What the success of a setup rests on. A run that ends with status zero has seen its contract
instantiated by a transaction that landed, from code that the operator named or that the run itself
uploaded.
-/
namespace ContractLaunch

open Dialogue Errand

/-- A transaction landed: the node took it under a hash, and after looks for that hash the last one
found it included, with code zero. -/
def Landed (sending : Invocation) (included : TxResponse) (made : List CommandExchange) : Prop :=
  ∃ answer taken looks last,
    made = ⟨sending, answer⟩ :: (looks ++ [last]) ∧
    (answer.response? = some taken ∧ taken.code = 0) ∧
    (∀ x ∈ looks ++ [last], x.1.errand? = some (.lookup taken.hash)) ∧
    (last.2.response? = some included ∧ included.code = 0)

theorem NodeClient.Course.has_landed {client : NodeClient} {sent : Invocation}
    {made : List CommandExchange} {included : TxResponse}
    (course : Course client sent made (.ok included)) : Landed sent included made := by
  obtain ⟨answer, taken, waits, last, rfl, response, zero, pending, -, found, code⟩ := course.landed
  refine ⟨answer, taken, waits, ⟨client.lookup taken.hash, last⟩, rfl, ⟨response, zero⟩, ?_,
    ⟨found, code⟩⟩
  intro x inside
  rcases List.mem_append.mp inside with early | final
  · rw [(pending x early).1]
    rfl
  · rw [List.mem_singleton.mp final]
    rfl

theorem Landed.count {sending : Invocation} {included : TxResponse} {made : List CommandExchange}
    (landed : Landed sending included made) {e : Errand} (fresh : e.isLookup = false) :
    (ofCommands made).count (some e) = [sending.errand?].count (some e) := by
  obtain ⟨answer, taken, looks, last, rfl, -, looking, -⟩ := landed
  have others : (ofCommands (looks ++ [last])).count (some e) = 0 := by
    apply List.count_eq_zero_of_not_mem
    intro member
    obtain ⟨x, inside, errand⟩ := List.mem_map.mp member
    obtain rfl := Option.some.inj ((looking x inside).symm.trans errand)
    contradiction
  change (sending.errand? :: ofCommands (looks ++ [last])).count (some e) = _
  rw [List.count_cons, others, List.count_singleton]
  omega

namespace Setup

/-- Code of that id was uploaded by the commands: its transaction landed at their end, and what the
daemon was shown are the bytes of the artifact. -/
def Uploaded (around : Surroundings) (name : String) (s : Settings) (codeId : CodeId)
    (made : List CommandExchange) : Prop :=
  ∃ path bytes earlier upload sending included,
    Artifact.path s.artifactsDir name = .ok path ∧ around.disk path = some (.file bytes) ∧
    made = earlier ++ upload ∧ sending.errand? = some .store ∧
    sending.arguments[3]? = some (.staged bytes) ∧ Landed sending included upload ∧
    included.storedCode? = some codeId

/-- What a deployment reports has happened: one contract was instantiated, by a transaction that
landed at the end of the commands, from code that the settings name or that was uploaded before. -/
def Backed (around : Surroundings) (name : String) (s : Settings) (made : List CommandExchange)
    (d : Deployment) : Prop :=
  ∃ before creation sending included codeId raw,
    made = before ++ creation ∧ (ofCommands made).count (some .instantiate) = 1 ∧
    sending.errand? = some .instantiate ∧ sending.arguments[3]? = some (.text (toString codeId)) ∧
    Landed sending included creation ∧
    included.attributeOf? "instantiate" "_contract_address" = some raw ∧
    d.contract.address = Text.trimmed raw ∧ d.contract.address ≠ "" ∧
    (s.resumeCode = some codeId.value ∨ Uploaded around name s codeId before)

variable {around : Surroundings} {name : String} {p : Plan} {made : List CommandExchange}

theorem count_keys {keys : List CommandExchange}
    (completes : Completes (Keyring.errands .deployer ++ Keyring.errands .tester) keys) :
    (ofCommands keys).count (some .instantiate) = 0 := by
  rw [completes.done]
  rfl

theorem backed_of_instantiation {s : Session} {before rest : List CommandExchange} {codeId : CodeId}
    {message : Json} {d : Deployment} (others : (ofCommands before).count (some .instantiate) = 0)
    (source : p.configuration.settings.resumeCode = some codeId.value ∨
      Uploaded around name p.configuration.settings codeId before)
    (ran : Transcript (p.daemon.carryOut s (s.instantiate codeId message)) rest (.ok d.contract)) :
    Backed around name p.configuration.settings (before ++ rest) d := by
  obtain ⟨included, course, raw, named, trimmed, filled⟩ := DaemonSetup.instantiate_ok ran
  have landed := course.has_landed
  refine ⟨before, rest, _, included, codeId, raw, rfl, ?_, rfl, rfl, landed, named, trimmed, filled,
    source⟩
  rw [ofCommands_append, List.count_append, others, landed.count rfl]
  rfl

theorem carryOut_backed (grounded : Grounded around name p) {d : Deployment}
    (ran : Transcript (carryOut p) made (.ok d)) :
    Backed around name p.configuration.settings made d := by
  obtain ⟨keys, established, rest, rfl, establishing, next⟩ := transcript_bind.mp ran
  cases established with
  | error cause =>
    obtain ⟨-, failed⟩ := transcript_pure.mp next
    contradiction
  | ok session =>
    have none_yet := count_keys ((DaemonSetup.establish_follows establishing).2 session rfl)
    obtain ⟨rest, result, _, rfl, deploying, ended⟩ := transcript_bind.mp next
    obtain ⟨rfl, outcome⟩ := transcript_pure.mp ended
    have deployed := except_mapError_ok outcome.symm
    rw [List.append_nil]
    have sourced := grounded.sourced
    unfold attempt at deploying
    cases source : p.source with
    | inl codeId =>
      rw [source] at deploying sourced
      obtain ⟨created, instantiating, same⟩ := DaemonSetup.resume_split deploying
      obtain ⟨contract, rfl, rfl⟩ := except_map_ok (same.symm.trans deployed)
      exact backed_of_instantiation none_yet (.inl sourced) instantiating
    | inr bytecode =>
      rw [source] at deploying sourced
      obtain ⟨-, path, leads, file⟩ := sourced
      rcases DaemonSetup.deploy_split deploying with
        ⟨fault, failed, -⟩ | ⟨upload, stored, rest, created, rfl, storing, instantiating, same⟩
      · rw [failed] at deployed
        contradiction
      · obtain ⟨contract, rfl, rfl⟩ := except_map_ok (same.symm.trans deployed)
        obtain ⟨fee, included, course, code⟩ := DaemonSetup.storeCode_ok storing
        have landed := course.has_landed
        have uploaded : Uploaded around name p.configuration.settings stored.codeId (keys ++ upload) :=
          ⟨path, bytecode, keys, upload, _, included, leads, file, rfl, rfl, rfl, landed, code⟩
        have others : (ofCommands (keys ++ upload)).count (some .instantiate) = 0 := by
          rw [ofCommands_append, List.count_append, none_yet, landed.count rfl]
          rfl
        rw [← List.append_assoc]
        exact backed_of_instantiation others (.inr uploaded) instantiating

def addressLine (d : Deployment) : String := "  contractAddress: " ++ d.contract.address ++ "\n"

theorem unlines_around (before after : List String) (line : String) :
    Report.unlines (before ++ line :: after) =
      Report.unlines before ++ (line ++ "\n") ++ Report.unlines after := by
  simp only [Report.unlines, List.map_append, List.map_cons, String.join_append, String.join_cons,
    String.append_assoc]

theorem success_shows_address (d : Deployment) :
    ∃ head tail, Report.success d = head ++ addressLine d ++ tail := by
  obtain ⟨store, contract⟩ := d
  cases store with
  | none => exact ⟨_, _, unlines_around [_, _, _] [_, _] _⟩
  | some stored => exact ⟨_, _, unlines_around [_, _, _, _, _, _] [_, _] _⟩

theorem contractName?_eq_some {arguments : List String} (only : contractName? arguments = some name) :
    arguments = [name] := by
  unfold contractName? at only
  split at only
  next given =>
    split at only
    next => contradiction
    next => rw [Option.some.inj only]
  next => contradiction

theorem deploy_backed {outcome : Except SetupFault Deployment} {d : Deployment}
    (ran : Transcript (deploy around name) made outcome) (deployed : outcome = .ok d) :
    ∃ c, Configuration.ofEnvironment around.disk around.environment = .ok c ∧
      Backed around name c.settings made d := by
  unfold deploy at ran
  split at ran
  next fault _ =>
    obtain ⟨-, failed⟩ := transcript_pure.mp ran
    rw [failed] at deployed
    contradiction
  next p planned =>
    have grounded := plan_grounded planned
    subst deployed
    exact ⟨p.configuration, grounded.configured, carryOut_backed grounded ran⟩

/-- A run ends with status zero only if what it prints is backed by what the daemon was asked and
answered; else it ends with status one and prints nothing, or how to use it. -/
theorem run_backed (around : Surroundings) (blocked : Option String) (arguments : List String)
    (daemon : Respondent Invocation fun _ => Outcome) :
    let (finish, made) := (run around blocked arguments).run daemon []
    (finish.status = 0 ∧ ∃ name c d, arguments = [name] ∧
        Configuration.ofEnvironment around.disk around.environment = .ok c ∧
        Backed around name c.settings made d ∧ finish.output = Report.success d ∧
        ∃ head tail, finish.output = head ++ addressLine d ++ tail) ∨
      (finish.status = 1 ∧ (finish.output = "" ∨ finish.output = usage ++ "\n")) := by
  have ran := transcript_of_run daemon (run around blocked arguments)
  generalize (run around blocked arguments).run daemon [] = ended at ran
  obtain ⟨finish, made⟩ := ended
  dsimp only at ran ⊢
  unfold run at ran
  split at ran
  next =>
    obtain ⟨-, rfl⟩ := transcript_pure.mp ran
    exact .inr ⟨rfl, .inr rfl⟩
  next name only =>
    obtain ⟨made, outcome, _, rfl, deploying, ended⟩ := transcript_bind.mp ran
    obtain ⟨rfl, rfl⟩ := transcript_pure.mp ended
    rw [List.append_nil]
    cases outcome with
    | error fault => exact .inr ⟨rfl, .inl rfl⟩
    | ok d =>
      obtain ⟨c, configured, backed⟩ := deploy_backed deploying rfl
      exact .inl ⟨rfl, name, c, d, contractName?_eq_some only, configured, backed, rfl,
        success_shows_address d⟩

end Setup

end ContractLaunch
