import ContractLaunch.Proofs.Setup.Errand
/-!
The plans of the two kinds of work that a setup consists of: putting a key into the keyring, and
sending a transaction and looking for it.
-/
namespace ContractLaunch

open Dialogue Errand

namespace Keyring

variable {d : Daemon} {role : Role} {made : List CommandExchange}

def errands (role : Role) : List Errand :=
  [.deleteKey (entry role).name, .addKey (entry role).name, .showKey (entry role).name]

def deleteCommand (d : Daemon) (role : Role) : Invocation :=
  d.invocation ((command d ["delete", (entry role).name, "-y"]).map .text)

def addCommand (d : Daemon) (role : Role) (words : String) : Invocation :=
  { d.invocation ((command d ["add", (entry role).name, "--recover"]).map .text) with
    input := Text.trimmed words ++ "\n" }

def showCommand (d : Daemon) (role : Role) : Invocation :=
  d.invocation ((command d ["show", (entry role).name, "-a"]).map .text)

def isBlocked (d : Daemon) : Bool :=
  d.program.toList.contains '\x00' || d.keyringFlags.any fun flag => flag.toList.contains '\x00'

theorem hasNul_command {parts : List String} {input : String}
    (clean : (parts.any fun part => part.toList.contains '\x00') = false) :
    ({ d.invocation ((command d parts).map .text) with input } : Invocation).hasNul =
      isBlocked d := by
  have word : "keys".toList.contains '\x00' = false := by decide
  have flags : ((command d parts).any fun part => part.toList.contains '\x00') =
      d.keyringFlags.any fun flag => flag.toList.contains '\x00' := by
    change ("keys" :: parts ++ d.keyringFlags).any (fun part => part.toList.contains '\x00') = _
    rw [List.any_append, List.any_cons, word, clean]
    rfl
  rw [isBlocked, ← flags]
  exact Invocation.hasNul_texts rfl

def added (answer : Except CommandFault String) : Except ClientFault Unit :=
  (answer.map fun _ => ()).mapError fault

/-- The old key goes before the new one comes, unless no command can be given. -/
theorem recover_made {words : String} {result : Except ClientFault Unit}
    (ran : Transcript (recover d (entry role) words) made result) :
    (isBlocked d = true ∧ made = [] ∧ result = added (.error (addCommand d role words).nulFault)) ∨
      (isBlocked d = false ∧ ∃ deletion addition,
        made = [⟨deleteCommand d role, deletion⟩, ⟨addCommand d role words, addition⟩] ∧
        result = added (addition.read (addCommand d role words).description)) := by
  have delete : (deleteCommand d role).hasNul = isBlocked d :=
    hasNul_command (by cases role <;> decide)
  have add : (addCommand d role words).hasNul = isBlocked d :=
    hasNul_command (by cases role <;> decide)
  change Transcript (((fun _ => ()) <$> (deleteCommand d role).run) >>= fun _ =>
    (addCommand d role words).run >>= fun answer => pure (added answer)) made result at ran
  simp only [transcript_bind, transcript_map, Invocation.transcript_run, transcript_pure, delete,
    add] at ran
  cases blocked : isBlocked d with
  | true =>
    simp only [blocked] at ran
    obtain ⟨_, _, _, rfl, ⟨_, -, ⟨-, rfl, -⟩ | ⟨⟨⟩, -⟩⟩, _, _, _, rfl, ⟨-, rfl, rfl⟩ | ⟨⟨⟩, -⟩, rfl, rfl⟩ :=
      ran
    exact .inl ⟨rfl, rfl, rfl⟩
  | false =>
    simp only [blocked] at ran
    obtain ⟨_, _, _, rfl, ⟨_, -, ⟨⟨⟩, -⟩ | ⟨-, deletion, rfl, -⟩⟩, _, _, _, rfl,
      ⟨⟨⟩, -⟩ | ⟨-, addition, rfl, rfl⟩, rfl, rfl⟩ := ran
    exact .inr ⟨rfl, deletion, addition, rfl, rfl⟩

theorem added_ok {answer : Except CommandFault String} {u : Unit} (ok : added answer = .ok u) :
    ∃ text, answer = .ok text := by
  cases answer with
  | error fault => contradiction
  | ok text => exact ⟨text, rfl⟩

theorem shown_ok {answer : Except CommandFault String} {addressPrefix : String} {account : Account}
    (ok : (answer.mapError fault).bind (accountOf role addressPrefix) = .ok account) :
    ∃ text, answer = .ok text := by
  cases answer with
  | error fault => contradiction
  | ok text => exact ⟨text, rfl⟩

/-- Importing the key of an account follows the plan for it, and completes it if there is an account
in the end. -/
theorem derive_follows {words addressPrefix : String} {result : Except ClientFault Account}
    (ran : Transcript (derive d role words addressPrefix) made result) :
    Follows (errands role) made ∧ ∀ account, result = .ok account → Completes (errands role) made := by
  obtain ⟨first, recovered, rest, rfl, recovering, showing⟩ := transcript_bind.mp ran
  rcases recover_made recovering with ⟨-, rfl, rfl⟩ | ⟨clean, deletion, addition, rfl, rfl⟩
  · obtain ⟨rfl, rfl⟩ := transcript_pure.mp showing
    refine ⟨Follows.nil, ?_⟩
    intro account ok
    contradiction
  · have started : [⟨deleteCommand d role, deletion⟩, ⟨addCommand d role words, addition⟩].IsChain
        Leads :=
      List.isChain_pair.mpr trivial
    split at showing
    next fault _ =>
      obtain ⟨rfl, rfl⟩ := transcript_pure.mp showing
      refine ⟨⟨⟨[some (.showKey (entry role).name)], rfl⟩, started⟩, ?_⟩
      intro account ok
      contradiction
    next ok =>
      obtain ⟨text, read⟩ := added_ok ok
      have sendable : (showCommand d role).hasNul = false :=
        (hasNul_command (by cases role <;> decide)).trans clean
      obtain ⟨_, shown, _, rfl, asking, ended⟩ := transcript_bind.mp showing
      obtain ⟨rfl, rfl⟩ := transcript_pure.mp ended
      rcases Invocation.transcript_run.mp asking with ⟨nul, -⟩ | ⟨-, answer, rfl, rfl⟩
      · exact absurd (sendable.symm.trans nul) Bool.false_ne_true
      · have printed : addition.printed?.isSome = true := by
          rw [Outcome.read_ok_iff.mp read]
          rfl
        have led : [⟨deleteCommand d role, deletion⟩, ⟨addCommand d role words, addition⟩,
            ⟨showCommand d role, answer⟩].IsChain Leads :=
          List.isChain_cons_cons.mpr ⟨trivial, List.isChain_pair.mpr printed⟩
        refine ⟨⟨List.prefix_rfl, led⟩, ?_⟩
        intro account named
        refine ⟨rfl, led, ?_⟩
        intro x same
        cases same
        obtain ⟨shown, read⟩ := shown_ok named
        change answer.printed?.isSome = true
        rw [Outcome.read_ok_iff.mp read]
        rfl

end Keyring

namespace NodeClient

variable {client : NodeClient} {hash : String} {sent : Invocation} {looks made : List CommandExchange}

def errands (sending : Errand) (hash : String) (looks : Nat) : List Errand :=
  sending :: List.replicate looks (.lookup hash)

theorem ofCommands_looks (same : ∀ x ∈ looks, x.1 = client.lookup hash) :
    ofCommands looks = (List.replicate looks.length (Errand.lookup hash)).map some := by
  rw [List.map_replicate, List.eq_replicate_iff]
  refine ⟨List.length_map _, ?_⟩
  intro errand member
  obtain ⟨x, inside, rfl⟩ := List.mem_map.mp member
  rw [same x inside]
  rfl

theorem leads_of_pending {x y : CommandExchange} (first : x.1 = client.lookup hash)
    (second : y.1 = client.lookup hash) (pending : x.2.isPending = true) : Leads x y := by
  obtain ⟨_, answer⟩ := x
  obtain ⟨_, next⟩ := y
  obtain rfl : _ = client.lookup hash := first
  obtain rfl : _ = client.lookup hash := second
  exact pending

theorem Waits.pairwise (waits : Waits client hash looks) : looks.Pairwise Leads := by
  apply List.pairwise_of_forall_mem_list
  intro x first y second
  exact leads_of_pending (waits x first).1 (waits y second).1 (waits x first).2

theorem Waits.led (waits : Waits client hash looks) (answer : Outcome) :
    (looks ++ [(⟨client.lookup hash, answer⟩ : CommandExchange)]).IsChain Leads := by
  apply List.Pairwise.isChain
  refine List.pairwise_append.mpr ⟨waits.pairwise, List.pairwise_singleton _ _, ?_⟩
  intro x first y second
  have last : y.1 = client.lookup hash := by rw [List.mem_singleton.mp second]
  exact leads_of_pending (waits x first).1 last (waits x first).2

/-- Looking for a transaction follows a plan of looks. If there is a response in the end, the plan is
done, and the last look brought the response. -/
theorem Watch.follows {attempts : Nat} {found : Except ClientFault TxResponse} (positive : 0 < attempts)
    (watch : Watch client hash attempts looks found) :
    ∃ n, 0 < n ∧ n ≤ attempts ∧ Follows (List.replicate n (.lookup hash)) looks ∧
      (∀ x ∈ looks, x.1 = client.lookup hash) ∧
      ∀ r, found = .ok r →
        looks.length = n ∧ ∃ answer, looks.getLast? = some ⟨client.lookup hash, answer⟩ ∧
          answer.response? = some r := by
  cases watch with
  | exhausted waits pending spent =>
    have same : ∀ x ∈ looks, x.1 = client.lookup hash := fun x inside => (pending x inside).1
    have planned : ofCommands looks = (List.replicate attempts (.lookup hash)).map some := by
      rw [ofCommands_looks same, spent]
    refine ⟨attempts, positive, le_refl _, ⟨?_, pending.pairwise.isChain⟩, same, ?_⟩
    · exact planned ▸ List.prefix_rfl
    · intro r ok
      contradiction
  | unasked nul left =>
    refine ⟨1, Nat.one_pos, left, Follows.nil, ?_, ?_⟩
    · intro x inside
      cases inside
    · intro r ok
      contradiction
  | decided waits pending answer decisive left =>
    have same : ∀ x ∈ waits ++ [⟨client.lookup hash, answer⟩], x.1 = client.lookup hash := by
      intro x inside
      rcases List.mem_append.mp inside with early | last
      · exact (pending x early).1
      · rw [List.mem_singleton.mp last]
    have planned := ofCommands_looks same
    rw [List.length_append, List.length_singleton] at planned
    refine ⟨waits.length + 1, Nat.succ_pos _, left, ⟨?_, pending.led answer⟩, same, ?_⟩
    · exact planned ▸ List.prefix_rfl
    · intro r ok
      exact ⟨by simp, answer, by simp, Outcome.verdict_ok_iff.mp ok⟩

theorem led_of_taken (answer : Outcome) {sending : Errand} {taken : TxResponse}
    (errand : sent.errand? = some sending) (fresh : sending.isLookup = false)
    (response : answer.response? = some taken) (zero : taken.code = 0)
    (same : ∀ x ∈ looks, x.1 = client.lookup taken.hash) (led : looks.IsChain Leads) :
    (⟨sent, answer⟩ :: looks : List CommandExchange).IsChain Leads := by
  refine List.isChain_cons.mpr ⟨?_, led⟩
  intro next first
  have asked : next.1 = client.lookup taken.hash := same next (List.mem_of_mem_head? first)
  have looked : next.1.errand? = some (.lookup taken.hash) := by
    rw [asked]
    rfl
  unfold Leads
  rw [looked]
  dsimp only
  rw [errand]
  cases sending with
  | lookup hash => contradiction
  | deleteKey | addKey | showKey | store | instantiate => exact ⟨taken, response, zero, rfl⟩

/-- Sending a transaction follows the plan for it. If it is found included, and the response names a
code id, the plan is completed. -/
theorem Course.follows {sending : Errand} {result : Except ClientFault TxResponse}
    (errand : sent.errand? = some sending) (fresh : sending.isLookup = false)
    (positive : 0 < client.settings.confirmAttempts) (course : Course client sent made result) :
    ∃ hash n, 0 < n ∧ n ≤ client.settings.confirmAttempts ∧ Follows (errands sending hash n) made ∧
      ∀ r, result = .ok r → r.storedCode?.isSome = true →
        Completes (errands sending hash n) made := by
  cases course with
  | unsent nul =>
    refine ⟨"", 1, Nat.one_pos, positive, Follows.nil, ?_⟩
    intro r ok
    contradiction
  | turnedDown sendable answer fault refused =>
    refine ⟨"", 1, Nat.one_pos, positive, ⟨?_, List.isChain_singleton _⟩, ?_⟩
    · change [sent.errand?] <+: _
      rw [errand]
      exact ⟨[some (.lookup "")], rfl⟩
    · intro r ok
      contradiction
  | watched sendable answer taken response zero looks found watch =>
    obtain ⟨n, several, bounded, follows, same, seen⟩ := watch.follows positive
    have led := led_of_taken answer errand fresh response zero same follows.led
    refine ⟨taken.hash, n, several, bounded, ⟨?_, led⟩, ?_⟩
    · change sent.errand? :: ofCommands looks <+: _
      rw [errand]
      exact List.cons_prefix_cons.mpr ⟨rfl, follows.planned⟩
    · intro r ok named
      cases found with
      | error fault => contradiction
      | ok included =>
        obtain ⟨rfl, accepted⟩ := accepted_ok_iff.mp ok
        obtain ⟨length, last, final, included⟩ := seen _ rfl
        refine ⟨?_, led, ?_⟩
        · change sent.errand? :: ofCommands looks = _
          rw [errand, ofCommands_looks same, length]
          rfl
        · intro x latest
          rw [List.getLast?_cons, final] at latest
          obtain rfl : _ = x := Option.some.inj latest
          exact ⟨_, included, accepted, named⟩

end NodeClient

end ContractLaunch
