import ContractLaunch.Proofs.Daemon.Answer
/-!
The course of a broadcast. The transaction is sent by one command. If the node takes it, equal looks
follow, one after the other, until one of them brings more than the news that the transaction is in no
block yet, or the attempts are used up.
-/
namespace ContractLaunch.NodeClient

open Dialogue

variable {client : NodeClient} {hash : String} {sent : Invocation} {made : List CommandExchange}

/-- Looks that found the transaction in no block yet. -/
def Waits (client : NodeClient) (hash : String) (made : List CommandExchange) : Prop :=
  ∀ x ∈ made, x.1 = client.lookup hash ∧ x.2.isPending = true

/-- The ways in which looking for a transaction can go: the exchanges made within so many attempts,
and what is known in the end. -/
inductive Watch (client : NodeClient) (hash : String) (attempts : Nat) :
    List CommandExchange → Except ClientFault TxResponse → Prop
  | exhausted (waits) (pending : Waits client hash waits) (spent : waits.length = attempts) :
      Watch client hash attempts waits (.error (client.unconfirmed hash))
  | unasked (nul : (client.lookup hash).hasNul = true) (left : 0 < attempts) :
      Watch client hash attempts [] (.error (client.lookup hash).nulFault.clientFault)
  | decided (waits) (pending : Waits client hash waits) (answer : Outcome)
      (decisive : answer.isPending = false) (left : waits.length < attempts) :
      Watch client hash attempts (waits ++ [⟨client.lookup hash, answer⟩])
        (answer.verdict (client.lookup hash).description)

inductive Course (client : NodeClient) (sent : Invocation) :
    List CommandExchange → Except ClientFault TxResponse → Prop
  | unsent (nul : sent.hasNul = true) : Course client sent [] (.error sent.nulFault.clientFault)
  | turnedDown (sendable : sent.hasNul = false) (answer : Outcome) (fault : ClientFault)
      (refused : submitted (answer.read sent.description) = .error fault) :
      Course client sent [⟨sent, answer⟩] (.error fault)
  | watched (sendable : sent.hasNul = false) (answer : Outcome) (taken : TxResponse)
      (response : answer.response? = some taken) (zero : taken.code = 0) (looks) (found : Except ClientFault TxResponse)
      (watch : Watch client taken.hash client.settings.confirmAttempts looks found) :
      Course client sent (⟨sent, answer⟩ :: looks) (found.bind accepted)

theorem Waits.nil : Waits client hash [] := by
  intro x member
  cases member

theorem Waits.cons {answer : Outcome} (first : answer.isPending = true)
    (rest : Waits client hash made) : Waits client hash (⟨client.lookup hash, answer⟩ :: made) := by
  intro x member
  rcases List.mem_cons.mp member with rfl | inside
  · exact ⟨rfl, first⟩
  · exact rest x inside

theorem Watch.wait {attempts : Nat} {found : Except ClientFault TxResponse} {answer : Outcome}
    (sendable : (client.lookup hash).hasNul = false) (first : answer.isPending = true)
    (rest : Watch client hash attempts made found) :
    Watch client hash (attempts + 1) (⟨client.lookup hash, answer⟩ :: made) found := by
  cases rest with
  | exhausted waits pending spent =>
    exact .exhausted _ (pending.cons first) (by simp [spent])
  | unasked nul left => simp [sendable] at nul
  | decided waits pending last decisive left =>
    have longer : (⟨client.lookup hash, answer⟩ :: waits).length < attempts + 1 := by simp [left]
    exact .decided _ (pending.cons first) last decisive longer

theorem accepted_ok_iff {r s : TxResponse} : accepted r = .ok s ↔ r = s ∧ r.code = 0 := by
  unfold accepted TxResponse.check
  split
  next zero => simp [Except.map, zero]
  next code => simp [Except.map, code]

theorem submitted_ok_iff {command : String} {answer : Outcome} {taken : TxResponse} :
    submitted (answer.read command) = .ok taken ↔
      answer.response? = some taken ∧ taken.code = 0 := by
  rw [← @Outcome.verdict_ok_iff command]
  change (answer.verdict command).bind accepted = .ok taken ↔ _
  cases answer.verdict command with
  | error fault => simp [Except.bind]
  | ok r =>
    simp only [Except.bind, accepted_ok_iff, Except.ok.injEq]
    constructor
    · intro given
      obtain ⟨rfl, zero⟩ := given
      exact ⟨rfl, zero⟩
    · intro given
      obtain ⟨rfl, zero⟩ := given
      exact ⟨rfl, zero⟩

theorem confirm_watch {attempts : Nat} {found : Except ClientFault TxResponse}
    (ran : Transcript (client.confirm hash attempts) made found) :
    Watch client hash attempts made found := by
  induction attempts generalizing made with
  | zero =>
    obtain ⟨rfl, rfl⟩ := transcript_pure.mp ran
    exact .exhausted [] Waits.nil rfl
  | succ n ih =>
    obtain ⟨first, text, rest, rfl, look, followed⟩ := transcript_bind.mp ran
    rcases Invocation.transcript_run.mp look with ⟨nul, rfl, rfl⟩ | ⟨sendable, answer, rfl, read⟩
    · obtain ⟨rfl, rfl⟩ := transcript_pure.mp followed
      exact .unasked nul (Nat.succ_pos n)
    · cases text with
      | ok output =>
        obtain ⟨rfl, rfl⟩ := transcript_pure.mp followed
        have decisive := Outcome.isPending_of_read_ok read.symm
        rw [← Outcome.verdict_of_read_ok read.symm]
        exact .decided [] Waits.nil answer decisive (Nat.succ_pos n)
      | error fault =>
        have pending := Outcome.isPending_of_read_error read.symm
        dsimp only at followed
        split at followed
        next again => exact (ih followed).wait sendable (pending.trans again)
        next final =>
          obtain ⟨rfl, rfl⟩ := transcript_pure.mp followed
          have decisive : answer.isPending = false := by simpa [pending] using final
          rw [← Outcome.verdict_of_read_error read.symm]
          exact .decided [] Waits.nil answer decisive (Nat.succ_pos n)

theorem broadcast_course {arguments : List Argument} {result : Except ClientFault TxResponse}
    (ran : Transcript (client.broadcast arguments) made result) :
    Course client (client.daemon.invocation arguments) made result := by
  obtain ⟨first, text, rest, rfl, send, followed⟩ := transcript_bind.mp ran
  rcases Invocation.transcript_run.mp send with ⟨nul, rfl, rfl⟩ | ⟨sendable, answer, rfl, rfl⟩
  · obtain ⟨rfl, rfl⟩ := transcript_pure.mp followed
    exact .unsent nul
  · split at followed
    next fault refused =>
      obtain ⟨rfl, rfl⟩ := transcript_pure.mp followed
      exact .turnedDown sendable answer fault refused
    next taken took =>
      obtain ⟨response, zero⟩ := submitted_ok_iff.mp took
      obtain ⟨looks, found, _, rfl, watching, ended⟩ := transcript_bind.mp followed
      obtain ⟨rfl, rfl⟩ := transcript_pure.mp ended
      have watch := confirm_watch watching
      rw [List.append_nil]
      exact .watched sendable answer taken response zero looks found watch

theorem Watch.commands {attempts : Nat} {found : Except ClientFault TxResponse}
    (watch : Watch client hash attempts made found) : ∀ x ∈ made, x.1 = client.lookup hash := by
  cases watch with
  | exhausted waits pending spent => exact fun x inside => (pending x inside).1
  | unasked nul left => exact nofun
  | decided waits pending answer decisive left =>
    intro x inside
    rcases List.mem_append.mp inside with early | final
    · exact (pending x early).1
    · rw [List.mem_singleton.mp final]

theorem Course.commands {found : Except ClientFault TxResponse}
    (course : Course client sent made found) :
    made = [] ∨ ∃ answer hash looks, made = ⟨sent, answer⟩ :: looks ∧
      ∀ x ∈ looks, x.1 = client.lookup hash := by
  cases course with
  | unsent nul => exact .inl rfl
  | turnedDown sendable answer fault refused => exact .inr ⟨answer, "", [], rfl, nofun⟩
  | watched sendable answer taken response zero looks found watch =>
    exact .inr ⟨answer, taken.hash, looks, rfl, watch.commands⟩

theorem Course.eq_nil_iff {found : Except ClientFault TxResponse}
    (course : Course client sent made found) : made = [] ↔ sent.hasNul = true := by
  cases course with
  | unsent nul => simp [nul]
  | turnedDown sendable answer fault refused => simp [sendable]
  | watched sendable answer taken response zero looks found watch => simp [sendable]

/-- A broadcast that succeeds has been taken by the node, and a last look has found it included. -/
theorem Course.landed {included : TxResponse} (course : Course client sent made (.ok included)) :
    ∃ answer taken waits last, made = ⟨sent, answer⟩ :: (waits ++ [⟨client.lookup taken.hash, last⟩]) ∧
      answer.response? = some taken ∧ taken.code = 0 ∧ Waits client taken.hash waits ∧
      waits.length < client.settings.confirmAttempts ∧ last.response? = some included ∧
      included.code = 0 := by
  generalize ended : (.ok included : Except ClientFault TxResponse) = result at course
  cases course with
  | unsent nul => contradiction
  | turnedDown sendable answer fault refused => contradiction
  | watched sendable answer taken response zero looks found watch =>
    cases watch with
    | exhausted waits pending spent => contradiction
    | unasked nul left => contradiction
    | decided waits pending last decisive left =>
      cases verdict : last.verdict (client.lookup taken.hash).description with
      | error fault =>
        rw [verdict] at ended
        contradiction
      | ok seen =>
        rw [verdict] at ended
        obtain ⟨rfl, accepted⟩ := accepted_ok_iff.mp ended.symm
        exact ⟨answer, taken, waits, last, rfl, response, zero, pending, left,
          Outcome.verdict_ok_iff.mp verdict, accepted⟩

/-- A broadcast ends with the first command that fails, unless it is a look that found the transaction
in no block yet. -/
theorem Course.error_of_failure {found : Except ClientFault TxResponse} {x : CommandExchange}
    {text : String} (course : Course client sent made found) (member : x ∈ made)
    (failed : x.2.failure? = some text) (decisive : made.head? = some x ∨ x.2.isPending = false) :
    found = .error (Failure.classify text) := by
  have silent := Outcome.response?_of_failure failed
  cases course with
  | unsent nul => cases member
  | turnedDown sendable answer fault refused =>
    obtain rfl := List.mem_singleton.mp member
    have verdict : answer.verdict sent.description = .error (Failure.classify text) :=
      Outcome.verdict_of_failure failed
    change (answer.verdict sent.description).bind accepted = .error fault at refused
    rw [verdict] at refused
    exact refused.symm
  | watched sendable answer taken response zero looks found watch =>
    rcases List.mem_cons.mp member with rfl | looked
    · simp [silent] at response
    have decided : x.2.isPending = false := by
      refine decisive.resolve_left ?_
      intro first
      obtain rfl : (⟨sent, answer⟩ : CommandExchange) = x := Option.some.inj first
      simp [silent] at response
    cases watch with
    | exhausted waits pending spent => simp [(pending x looked).2] at decided
    | unasked nul left => cases looked
    | decided waits pending last final left =>
      rcases List.mem_append.mp looked with early | latest
      · simp [(pending x early).2] at decided
      · obtain rfl := List.mem_singleton.mp latest
        rw [Outcome.verdict_of_failure failed]
        rfl

theorem Course.error_of_refusal {found : Except ClientFault TxResponse} {x : CommandExchange}
    {r : TxResponse} {fault : ClientFault} (course : Course client sent made found) (member : x ∈ made)
    (response : x.2.response? = some r) (refused : r.check = .error fault) : found = .error fault := by
  have verdict : accepted r = .error fault := by simp [accepted, refused, Except.map]
  have judged (command : String) : (x.2.verdict command).bind accepted = .error fault := by
    rw [Outcome.verdict_ok_iff.mpr response]
    exact verdict
  cases course with
  | unsent nul => cases member
  | turnedDown sendable answer other refused =>
    obtain rfl := List.mem_singleton.mp member
    exact refused.symm.trans (judged _)
  | watched sendable answer taken taking zero looks found watch =>
    rcases List.mem_cons.mp member with rfl | looked
    · obtain rfl := Option.some.inj (response.symm.trans taking)
      rw [TxResponse.check, if_pos zero] at refused
      contradiction
    have decided := Outcome.isPending_of_response response
    cases watch with
    | exhausted waits pending spent => simp [(pending x looked).2] at decided
    | unasked nul left => cases looked
    | decided waits pending last final left =>
      rcases List.mem_append.mp looked with early | latest
      · simp [(pending x early).2] at decided
      · obtain rfl := List.mem_singleton.mp latest
        exact judged _

/-- A signed call ends for want of a key or of its arguments, or it goes as its broadcast does. -/
theorem signed_course {α : Type} {sender : String}
    {arguments : KeyName → Except ClientFault (List Argument)} {read : TxResponse → α}
    {reply : Except ClientFault α} (ran : Transcript (client.signed sender arguments read) made reply) :
    (∃ fault, (client.signingKey sender).bind arguments = .error fault ∧ made = [] ∧
        reply = .error fault) ∨
      ∃ ready result, (client.signingKey sender).bind arguments = .ok ready ∧ reply = result.map read ∧
        Course client (client.daemon.invocation ready) made result := by
  unfold signed at ran
  split at ran
  next fault unready =>
    obtain ⟨rfl, rfl⟩ := transcript_pure.mp ran
    exact .inl ⟨fault, unready, rfl, rfl⟩
  next ready found =>
    obtain ⟨first, result, rest, rfl, broadcasting, ended⟩ := transcript_bind.mp ran
    obtain ⟨rfl, rfl⟩ := transcript_pure.mp ended
    rw [List.append_nil]
    exact .inr ⟨ready, result, found, rfl, broadcast_course broadcasting⟩

/-- Once the node has taken a transaction, the rest of a broadcast is the looking for it. -/
theorem run_broadcast {daemon : Respondent Invocation fun _ => Outcome} {past : List CommandExchange}
    {arguments : List Argument} {taken : TxResponse}
    (sendable : (client.daemon.invocation arguments).hasNul = false)
    (took : submitted ((daemon past (client.daemon.invocation arguments)).read
      (client.daemon.invocation arguments).description) = .ok taken) :
    (client.broadcast arguments).run daemon past =
      ((client.confirm taken.hash client.settings.confirmAttempts).run daemon
        (past ++ [⟨client.daemon.invocation arguments,
          daemon past (client.daemon.invocation arguments)⟩])).map (·.bind accepted) id := by
  rw [broadcast, run_bind, Invocation.run_run sendable, took]
  exact run_bind _ _ _ _

end ContractLaunch.NodeClient
