import ContractLaunch.Proofs.Setup.Course
import ContractLaunch.Proofs.Setup.Ground
import Mathlib.Data.List.Count
import Mathlib.Data.List.Nodup
/-!
The sequence of commands in a setup. Whatever the daemon answers, the commands of one run are a
beginning of one itinerary: nothing is sent twice, and nothing follows an answer that was not
accepted.
-/
namespace ContractLaunch

open Dialogue Errand

namespace Setup

/-- The errands of a whole setup: the keys of both accounts, the code unless it is on the chain
already, and the contract. -/
def itinerary (s : Settings) (stored : String) (n : Nat) (created : String) (m : Nat) : List Errand :=
  (Keyring.errands .deployer ++ Keyring.errands .tester) ++
    ((if s.resumeCode.isSome then [] else NodeClient.errands .store stored n) ++
      NodeClient.errands .instantiate created m)

/-- The commands are the beginning of an itinerary, with as many looks as the settings allow. -/
def OnItinerary (s : Settings) (made : List CommandExchange) : Prop :=
  ∃ stored n created m, (0 < n ∧ n ≤ s.confirmAttempts.toNat) ∧
    (0 < m ∧ m ≤ s.confirmAttempts.toNat) ∧ Follows (itinerary s stored n created m) made

section

variable {around : Surroundings} {name : String} {p : Plan} {s : Session}
  {made : List CommandExchange}

theorem instantiate_follows (grounded : Grounded around name p) {codeId : CodeId} {message : Json}
    {result : Except DeployFault LiveContract}
    (ran : Transcript (p.daemon.carryOut s (s.instantiate codeId message)) made result) :
    ∃ created m, (0 < m ∧ m ≤ p.configuration.settings.confirmAttempts.toNat) ∧
      Follows (NodeClient.errands .instantiate created m) made := by
  obtain ⟨found, course, -⟩ := DaemonSetup.instantiate_course ran
  obtain ⟨created, m, several, bounded, follows, -⟩ := course.follows rfl rfl grounded.positive
  exact ⟨created, m, ⟨several, bounded.trans_eq grounded.attempts⟩, follows⟩

theorem storeCode_follows (grounded : Grounded around name p) {bytecode : Bytes}
    {result : Except DeployFault StoredCode}
    (ran : Transcript (p.daemon.carryOut s (s.storeCode bytecode)) made result) :
    ∃ stored n, (0 < n ∧ n ≤ p.configuration.settings.confirmAttempts.toNat) ∧
      Follows (NodeClient.errands .store stored n) made ∧
      ∀ code, result = .ok code → Completes (NodeClient.errands .store stored n) made := by
  cases result with
  | error fault =>
    rcases DaemonSetup.storeCode_course ran with ⟨_, rfl, -⟩ | ⟨fee, found, course, -⟩
    · refine ⟨"", 1, ⟨Nat.one_pos, grounded.attempts ▸ grounded.positive⟩, Follows.nil, ?_⟩
      intro code ok
      contradiction
    · obtain ⟨stored, n, several, bounded, follows, -⟩ := course.follows rfl rfl grounded.positive
      refine ⟨stored, n, ⟨several, bounded.trans_eq grounded.attempts⟩, follows, ?_⟩
      intro code ok
      contradiction
  | ok code =>
    obtain ⟨fee, included, course, named⟩ := DaemonSetup.storeCode_ok ran
    obtain ⟨stored, n, several, bounded, follows, whole⟩ := course.follows rfl rfl grounded.positive
    refine ⟨stored, n, ⟨several, bounded.trans_eq grounded.attempts⟩, follows, fun _ _ => ?_⟩
    exact whole included rfl (named ▸ rfl)

theorem attempt_follows (grounded : Grounded around name p) {result : Except DeployFault Deployment}
    (ran : Transcript (p.daemon.carryOut s (attempt p s)) made result) :
    ∃ stored n created m, (0 < n ∧ n ≤ p.configuration.settings.confirmAttempts.toNat) ∧
      (0 < m ∧ m ≤ p.configuration.settings.confirmAttempts.toNat) ∧
      Follows ((if p.configuration.settings.resumeCode.isSome then []
        else NodeClient.errands .store stored n) ++ NodeClient.errands .instantiate created m) made := by
  have sourced := grounded.sourced
  unfold attempt at ran
  cases source : p.source with
  | inl codeId =>
    rw [source] at ran sourced
    obtain ⟨outcome, instantiating, -⟩ := DaemonSetup.resume_split ran
    obtain ⟨created, m, range, follows⟩ := instantiate_follows grounded instantiating
    have resumes : p.configuration.settings.resumeCode.isSome = true := by
      rw [show p.configuration.settings.resumeCode = some codeId.value from sourced]
      rfl
    refine ⟨"", m, created, m, range, range, ?_⟩
    rw [if_pos resumes]
    exact follows
  | inr bytecode =>
    rw [source] at ran sourced
    have stores : ¬ p.configuration.settings.resumeCode.isSome = true := by
      rw [sourced.1]
      exact Bool.false_ne_true
    simp only [if_neg stores]
    rcases DaemonSetup.deploy_split ran with
      ⟨fault, -, storing⟩ | ⟨first, code, rest, outcome, rfl, storing, instantiating, -⟩
    · obtain ⟨stored, n, range, follows, -⟩ := storeCode_follows grounded storing
      exact ⟨stored, n, "", n, range, range, follows.extend _⟩
    · obtain ⟨stored, n, range, -, completes⟩ := storeCode_follows grounded storing
      obtain ⟨created, m, range', follows⟩ := instantiate_follows grounded instantiating
      refine ⟨stored, n, created, m, range, range', ?_⟩
      refine (completes code rfl).append_follows follows ?_
      intro e same
      cases same
      rfl

theorem carryOut_follows (grounded : Grounded around name p) {outcome : Except SetupFault Deployment}
    (ran : Transcript (carryOut p) made outcome) : OnItinerary p.configuration.settings made := by
  have some_look : 0 < 1 ∧ 1 ≤ p.configuration.settings.confirmAttempts.toNat :=
    ⟨Nat.one_pos, grounded.attempts ▸ grounded.positive⟩
  obtain ⟨first, established, rest, rfl, establishing, next⟩ := transcript_bind.mp ran
  obtain ⟨follows, completes⟩ := DaemonSetup.establish_follows establishing
  cases established with
  | error cause =>
    obtain ⟨rfl, -⟩ := transcript_pure.mp next
    rw [List.append_nil]
    exact ⟨"", 1, "", 1, some_look, some_look, follows.extend _⟩
  | ok session =>
    obtain ⟨_, result, _, rfl, deploying, ended⟩ := transcript_bind.mp next
    obtain ⟨rfl, -⟩ := transcript_pure.mp ended
    rw [List.append_nil]
    obtain ⟨stored, n, created, m, range, range', onward⟩ := attempt_follows grounded deploying
    refine ⟨stored, n, created, m, range, range', ?_⟩
    refine (completes session rfl).append_follows onward ?_
    intro e first
    by_cases resumes : p.configuration.settings.resumeCode.isSome = true
    · rw [if_pos resumes] at first
      cases first
      rfl
    · rw [if_neg resumes] at first
      cases first
      rfl

theorem run_followed {blocked : Option String} {arguments : List String} {finish : Finish}
    (ran : Transcript (run around blocked arguments) made finish) :
    made = [] ∨ ∃ c, Configuration.ofEnvironment around.disk around.environment = .ok c ∧
      OnItinerary c.settings made := by
  unfold run at ran
  split at ran
  next => exact .inl (transcript_pure.mp ran).1
  next name _ =>
    obtain ⟨made, outcome, _, rfl, deploying, ended⟩ := transcript_bind.mp ran
    obtain ⟨rfl, -⟩ := transcript_pure.mp ended
    rw [List.append_nil]
    unfold deploy at deploying
    split at deploying
    next => exact .inl (transcript_pure.mp deploying).1
    next p planned =>
      have grounded := plan_grounded planned
      exact .inr ⟨p.configuration, grounded.configured, carryOut_follows grounded deploying⟩

end

theorem errands_fresh (sending : Errand) (hash : String) (looks : Nat) :
    (NodeClient.errands sending hash looks).filter (!·.isLookup) = [sending].filter (!·.isLookup) := by
  have stale : (List.replicate looks (lookup hash)).filter (!·.isLookup) = [] := by
    refine List.filter_eq_nil_iff.mpr fun e inside => ?_
    rw [List.eq_of_mem_replicate inside]
    exact Bool.false_ne_true
  unfold NodeClient.errands
  rw [← List.singleton_append, List.filter_append, stale, List.append_nil]

theorem itinerary_fresh (s : Settings) (stored : String) (n : Nat) (created : String) (m : Nat) :
    ((itinerary s stored n created m).filter (!·.isLookup)).Nodup := by
  unfold itinerary
  simp only [List.filter_append, errands_fresh]
  cases s.resumeCode.isSome with
  | true =>
    rw [if_pos rfl]
    decide
  | false =>
    rw [if_neg Bool.false_ne_true, errands_fresh]
    decide

/-- No itinerary does anything twice but look for a transaction. -/
theorem OnItinerary.count_le_one {s : Settings} {made : List CommandExchange} {e : Errand}
    (follows : OnItinerary s made) (fresh : e.isLookup = false) : (ofCommands made).count (some e) ≤ 1 := by
  obtain ⟨stored, n, created, m, -, -, follows⟩ := follows
  refine (follows.planned.sublist.count_le _).trans ?_
  have kept : (!e.isLookup) = true := by rw [fresh]; rfl
  have once := List.nodup_iff_count_le_one.mp (itinerary_fresh s stored n created m) e
  rwa [List.count_map_of_injective _ _ fun _ _ => Option.some.inj,
    ← List.count_filter (p := fun e : Errand => !e.isLookup) kept]

theorem OnItinerary.count_sent {s : Settings} {made : List CommandExchange} {e : Errand}
    (follows : OnItinerary s made) (sending : e = .store ∨ e = .instantiate) :
    (ofCommands made).count (some e) ≤ 1 := by
  rcases sending with rfl | rfl <;> exact follows.count_le_one rfl

/-- The commands of a run are a beginning of one itinerary, whatever the daemon answers; in
particular at most one upload and one instantiation are sent. -/
theorem run_on_itinerary (around : Surroundings) (blocked : Option String) (arguments : List String)
    (daemon : Respondent Invocation fun _ => Outcome) :
    let made := ((run around blocked arguments).run daemon []).2
    made = [] ∨ ∃ c, Configuration.ofEnvironment around.disk around.environment = .ok c ∧
      OnItinerary c.settings made ∧ (ofCommands made).count (some .store) ≤ 1 ∧
      (ofCommands made).count (some .instantiate) ≤ 1 := by
  intro made
  rcases run_followed (transcript_of_run daemon (run around blocked arguments)) with
    silent | ⟨c, configured, follows⟩
  · exact .inl silent
  · exact .inr ⟨c, configured, follows, follows.count_sent (.inl rfl), follows.count_sent (.inr rfl)⟩

end Setup

end ContractLaunch
