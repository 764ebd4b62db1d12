import ContractLaunch.Proofs.Daemon.Broadcast
import Mathlib.Data.List.Basic
import Mathlib.Order.Basic
/-!
How a broadcast is settled by the answers to its commands. The transaction is sent once. If its answer
is a fault, that is the end; else equal looks follow until one of them says more than that the
transaction is in no block yet. What this one says is the outcome: a response that the chain accepted,
or the fault of that answer. When all attempts are used up, nothing is known.
-/
namespace ContractLaunch

open Dialogue NodeClient

namespace Outcome

/-- What an answer means for a transaction: the response in it, if the chain accepted the transaction,
or else the answer's own fault. -/
inductive Means (command : String) : Outcome → Except ClientFault TxResponse → Prop
  | accepted (answer : Outcome) (r : TxResponse) (response : answer.response? = some r)
      (zero : r.code = 0) : Means command answer (.ok r)
  | refused (answer : Outcome) (r : TxResponse) (response : answer.response? = some r)
      (nonzero : r.code ≠ 0) :
      Means command answer (.error (.rejected (if r.codespace.isEmpty then none else some r.codespace)
        (some r.code) (Failure.contractMessageText r.rawLog)))
  | unreadable (answer : Outcome) (text : String) (printed : answer.printed? = some text)
      (unread : answer.response? = none) :
      Means command answer (.error (.transport ("unexpected transaction response: " ++ Json.complaint)))
  | failed (status : Nat) (output complaints : Bytes) :
      Means command (.exited (status + 1) output complaints)
        (.error (Failure.classify (failureText output complaints)))
  | notText (output complaints : Bytes) (undecoded : Utf8.decode? output = none) :
      Means command (.exited 0 output complaints) (.error (.transport (CommandFault.notText command).message))
  | notStarted (reason : String) :
      Means command (.notStarted reason)
        (.error (.transport (CommandFault.notStarted command reason).message))

/-- What a client makes of an answer that is to settle a transaction. -/
def judged (command : String) (answer : Outcome) : Except ClientFault TxResponse :=
  (answer.verdict command).bind NodeClient.accepted

variable {command text : String} {answer : Outcome} {r : TxResponse}
  {result other : Except ClientFault TxResponse}

theorem judged_response (response : answer.response? = some r) :
    answer.judged command = NodeClient.accepted r := by
  rw [judged, verdict_ok_iff.mpr response]
  rfl

theorem judged_unreadable (printed : answer.printed? = some text) (unread : answer.response? = none) :
    answer.judged command =
      .error (.transport ("unexpected transaction response: " ++ Json.complaint)) := by
  rw [judged, verdict_of_read_ok (read_ok_iff.mpr printed)]
  rw [response?, printed, Option.bind_some, TxResponse.parse] at unread
  rw [TxResponse.parse]
  split at unread
  · contradiction
  · rfl

theorem judged_failed (status : Nat) (output complaints : Bytes) :
    (Outcome.exited (status + 1) output complaints).judged command =
      .error (Failure.classify (failureText output complaints)) := by
  rw [judged, verdict_failed]
  rfl

theorem judged_notText {output complaints : Bytes} (undecoded : Utf8.decode? output = none) :
    (Outcome.exited 0 output complaints).judged command =
      .error (.transport (CommandFault.notText command).message) := by
  have read : (Outcome.exited 0 output complaints).read command = .error (.notText command) := by
    simp [Outcome.read, undecoded]
  rw [judged, verdict_of_read_error read]
  rfl

theorem Means.judged (means : answer.Means command result) : answer.judged command = result := by
  cases means with
  | accepted _ r response zero =>
    rw [judged_response response]
    exact accepted_ok_iff.mpr ⟨rfl, zero⟩
  | refused _ r response nonzero =>
    rw [judged_response response]
    simp [NodeClient.accepted, TxResponse.check, nonzero, Except.map]
  | unreadable _ text printed unread => exact judged_unreadable printed unread
  | failed status output complaints => exact judged_failed status output complaints
  | notText output complaints undecoded => exact judged_notText undecoded
  | notStarted reason => rfl

theorem means_judged (command : String) (answer : Outcome) :
    answer.Means command (answer.judged command) := by
  cases response : answer.response? with
  | some r =>
    rw [judged_response response]
    by_cases zero : r.code = 0
    · rw [accepted_ok_iff.mpr ⟨rfl, zero⟩]
      exact .accepted answer r response zero
    · have means : answer.Means command _ := .refused answer r response zero
      rwa [← means.judged, judged_response response] at means
  | none =>
    rcases answer with ⟨_ | status, output, complaints⟩ | reason
    · cases decoded : Utf8.decode? output with
      | none =>
        rw [judged_notText decoded]
        exact .notText output complaints decoded
      | some text =>
        have printed : (Outcome.exited 0 output complaints).printed? = some text := decoded
        rw [judged_unreadable printed response]
        exact .unreadable _ text printed response
    · rw [judged_failed]
      exact .failed status output complaints
    · exact .notStarted reason

theorem Means.unique (one : answer.Means command result) (another : answer.Means command other) :
    result = other :=
  one.judged.symm.trans another.judged

end Outcome

namespace Invocation

/-- What comes of a command that the daemon would answer so: one that cannot be started has no answer
of the daemon. -/
def outcome (i : Invocation) (answer : Outcome) : Outcome :=
  if i.hasNul then .notStarted "nul byte found in provided data" else answer

/-- The commands that reach the daemon, of those that are issued. -/
def started (issued : List Invocation) : List Invocation := issued.filter (!·.hasNul)

def heard (i : Invocation) (answer : Outcome) : List CommandExchange :=
  if i.hasNul then [] else [⟨i, answer⟩]

variable {i : Invocation} {answer : Outcome} {daemon : Respondent Invocation fun _ => Outcome}
  {past : List CommandExchange}

theorem run_outcome : i.run.run daemon past =
    ((i.outcome (daemon past i)).read i.description, past ++ i.heard (daemon past i)) := by
  cases nul : i.hasNul with
  | true => simp [Invocation.run, outcome, heard, nul, run_pure, Outcome.read]
  | false => simp [run_run nul, outcome, heard, nul]

theorem map_heard : (i.heard answer).map (·.1) = started [i] := by
  cases nul : i.hasNul <;> simp [heard, started, nul]

theorem hasNul_of_isPending (pending : (i.outcome answer).isPending = true) : i.hasNul = false := by
  by_contra nul
  simp only [Bool.not_eq_false] at nul
  simp [outcome, nul, Outcome.isPending] at pending

theorem hasNul_of_exited {status : Nat} {output complaints : Bytes}
    (ended : i.outcome answer = .exited status output complaints) : i.hasNul = false := by
  by_contra nul
  rw [outcome, if_pos (by simpa using nul)] at ended
  cases ended

theorem outcome_of_hasNul (clean : i.hasNul = false) : i.outcome answer = answer := by
  simp [outcome, clean]

end Invocation

namespace NodeClient

/-- A daemon that gives these answers, one after the other, whatever it is asked. -/
def scripted (answers : Nat → Outcome) : Respondent Invocation fun _ => Outcome :=
  fun past _ => answers past.length

/-- The answer with this number, of those to looks, is the first that says more than that the
transaction is in no block yet. -/
structure DecidesAt (answers : Nat → Outcome) (j : Nat) : Prop where
  look : 1 ≤ j
  waits : ∀ k, 1 ≤ k → k < j → (answers k).isPending = true
  decisive : (answers j).isPending = false

/-- Answers with others put in before the one with this number. -/
def inserted (p : Nat) (extra : List Outcome) (answers : Nat → Outcome) : Nat → Outcome :=
  fun k => if k < p then answers k else (extra[k - p]?).getD (answers (k - extra.length))

variable {client : NodeClient} {hash : String} {answers : Nat → Outcome}
  {daemon : Respondent Invocation fun _ => Outcome} {past : List CommandExchange} {attempts : Nat}

theorem scripted_apply (i : Invocation) : scripted answers past i = answers past.length := rfl

theorem run_confirm_succ : (client.confirm hash (attempts + 1)).run daemon past =
    if ((client.lookup hash).outcome (daemon past (client.lookup hash))).isPending then
      (client.confirm hash attempts).run daemon
        (past ++ (client.lookup hash).heard (daemon past (client.lookup hash)))
    else
      (((client.lookup hash).outcome (daemon past (client.lookup hash))).verdict
        (client.lookup hash).description,
        past ++ (client.lookup hash).heard (daemon past (client.lookup hash))) := by
  rw [confirm, run_bind, Invocation.run_outcome]
  cases read : ((client.lookup hash).outcome (daemon past (client.lookup hash))).read
      (client.lookup hash).description with
  | ok text =>
    rw [if_neg (by simp [Outcome.isPending_of_read_ok read]), Outcome.verdict_of_read_ok read]
    rfl
  | error fault =>
    rw [Outcome.isPending_of_read_error read, Outcome.verdict_of_read_error read]
    dsimp only
    split
    next pending => rfl
    next final => rfl

theorem run_confirm_waits {w : Nat} (waits : ∀ k < w,
      ((client.lookup hash).outcome (answers (past.length + k))).isPending = true) (left : Nat) :
    ∃ looks, looks.length = w ∧
      looks.map (·.1) = Invocation.started (List.replicate w (client.lookup hash)) ∧
      (client.confirm hash (left + w)).run (scripted answers) past =
        (client.confirm hash left).run (scripted answers) (past ++ looks) := by
  induction w generalizing past with
  | zero => exact ⟨[], rfl, rfl, by simp⟩
  | succ w ih =>
    have first : ((client.lookup hash).outcome (answers past.length)).isPending = true :=
      waits 0 (Nat.succ_pos w)
    have sendable := Invocation.hasNul_of_isPending first
    let look : CommandExchange := ⟨client.lookup hash, answers past.length⟩
    have rest : ∀ k < w,
        ((client.lookup hash).outcome (answers ((past ++ [look]).length + k))).isPending = true := by
      intro k less
      have later := waits (k + 1) (Nat.succ_lt_succ less)
      rwa [List.length_append, List.length_singleton, Nat.add_assoc, Nat.add_comm 1 k]
    obtain ⟨looks, length, commands, followed⟩ := ih rest
    refine ⟨look :: looks, by simp [length], ?_, ?_⟩
    · rw [List.map_cons, commands, List.replicate_succ]
      simp [Invocation.started, sendable, look]
    · have heard : (client.lookup hash).heard (answers past.length) = [look] := by
        simp [Invocation.heard, sendable, look]
      rw [← Nat.add_assoc, run_confirm_succ, scripted_apply, if_pos first, heard, followed,
        List.append_assoc, List.singleton_append]

theorem run_confirm_decided {w : Nat} (left : w < attempts)
    (waits : ∀ k < w, ((client.lookup hash).outcome (answers (past.length + k))).isPending = true)
    (decisive : ((client.lookup hash).outcome (answers (past.length + w))).isPending = false) :
    ∃ looks, looks.map (·.1) = Invocation.started (List.replicate (w + 1) (client.lookup hash)) ∧
      (client.confirm hash attempts).run (scripted answers) past =
        (((client.lookup hash).outcome (answers (past.length + w))).verdict
          (client.lookup hash).description, past ++ looks) := by
  obtain ⟨n, rfl⟩ := Nat.exists_eq_add_of_lt left
  obtain ⟨looks, length, commands, followed⟩ := run_confirm_waits waits (n + 1)
  have last : (past ++ looks).length = past.length + w := by rw [List.length_append, length]
  refine ⟨looks ++ (client.lookup hash).heard (answers (past.length + w)), ?_, ?_⟩
  · rw [List.map_append, commands, Invocation.map_heard, List.replicate_succ',
      Invocation.started, Invocation.started, Invocation.started, List.filter_append]
  · have counted : w + n + 1 = n + 1 + w := by omega
    rw [counted, followed, run_confirm_succ, scripted_apply, last, if_neg (by simp [decisive]),
      List.append_assoc]

theorem run_confirm_exhausted
    (waits : ∀ k < attempts,
      ((client.lookup hash).outcome (answers (past.length + k))).isPending = true) :
    ∃ looks, looks.map (·.1) = Invocation.started (List.replicate attempts (client.lookup hash)) ∧
      (client.confirm hash attempts).run (scripted answers) past =
        (.error (client.unconfirmed hash), past ++ looks) := by
  obtain ⟨looks, -, commands, followed⟩ := run_confirm_waits waits 0
  rw [Nat.zero_add] at followed
  exact ⟨looks, commands, followed⟩

section Broadcast

variable {arguments : List Argument} {sent : Invocation} {fault : ClientFault} {taken : TxResponse}
  {result : Except ClientFault TxResponse}

theorem run_broadcast_fault (sending : client.daemon.invocation arguments = sent)
    (means : (sent.outcome (daemon past sent)).Means sent.description (.error fault)) :
    (client.broadcast arguments).run daemon past =
      (.error fault, past ++ sent.heard (daemon past sent)) := by
  have refused : submitted ((sent.outcome (daemon past sent)).read sent.description) = .error fault :=
    means.judged
  rw [broadcast, sending, run_bind, Invocation.run_outcome, refused]
  rfl

theorem hasNul_of_taken {answer : Outcome}
    (means : (sent.outcome answer).Means sent.description (.ok taken)) : sent.hasNul = false := by
  by_contra nul
  have judged := means.judged
  rw [Invocation.outcome, if_pos (by simpa using nul)] at judged
  cases judged

theorem run_broadcast_taken (sending : client.daemon.invocation arguments = sent)
    (means : (sent.outcome (daemon past sent)).Means sent.description (.ok taken)) :
    (client.broadcast arguments).run daemon past =
      ((client.confirm taken.hash client.settings.confirmAttempts).run daemon
        (past ++ [⟨sent, daemon past sent⟩])).map (·.bind accepted) id := by
  have sendable := hasNul_of_taken means
  have took : submitted ((daemon past sent).read sent.description) = .ok taken := by
    have judged := means.judged
    rwa [Invocation.outcome_of_hasNul sendable] at judged
  subst sending
  exact run_broadcast sendable took

end Broadcast

section Decision

variable {j : Nat}

theorem decidesAt_or_pending (answers : Nat → Outcome) (n : Nat) :
    (∃ j ≤ n, DecidesAt answers j) ∨ ∀ k, 1 ≤ k → k ≤ n → (answers k).isPending = true := by
  induction n with
  | zero => exact .inr fun k first last => by omega
  | succ n ih =>
    obtain ⟨j, least, decides⟩ | waits := ih
    · exact .inl ⟨j, Nat.le_succ_of_le least, decides⟩
    · cases pending : (answers (n + 1)).isPending with
      | false =>
        exact .inl ⟨n + 1, Nat.le_refl _, Nat.succ_pos n, fun k first less => waits k first (by omega),
          pending⟩
      | true =>
        refine .inr fun k first last => ?_
        rcases Nat.lt_or_eq_of_le last with less | rfl
        · exact waits k first (Nat.le_of_lt_succ less)
        · exact pending

theorem inserted_before {p k : Nat} {extra : List Outcome} (less : k < p) :
    inserted p extra answers k = answers k := if_pos less

theorem inserted_behind {p k : Nat} {extra : List Outcome} (behind : p ≤ k) :
    inserted p extra answers (k + extra.length) = answers k := by
  have none : extra[k + extra.length - p]? = .none := List.getElem?_eq_none (by omega)
  rw [inserted, if_neg (by omega), none, Option.getD_none, Nat.add_sub_cancel]

theorem DecidesAt.insert {p : Nat} {extra : List Outcome} (decides : DecidesAt answers j)
    (first : 1 ≤ p) (early : p ≤ j) (pending : ∀ x ∈ extra, x.isPending = true) :
    DecidesAt (inserted p extra answers) (j + extra.length) where
  look := Nat.le_add_right_of_le decides.look
  waits k begun less := by
    by_cases before : k < p
    · rw [inserted_before before]
      exact decides.waits k begun (by omega)
    · cases found : extra[k - p]? with
      | some x =>
        rw [inserted, if_neg before, found]
        exact pending x (List.mem_of_getElem? found)
      | none =>
        have passed := List.getElem?_eq_none_iff.mp found
        rw [inserted, if_neg before, found]
        exact decides.waits _ (by omega) (by omega)
  decisive := by
    rw [inserted_behind early]
    exact decides.decisive

end Decision

/-- How a transaction ends that is sent by a command when the commands are answered so: what the result
is, and which commands are given. -/
structure Settled (client : NodeClient) (sent : Invocation) (answers : Nat → Outcome)
    (ended : Except ClientFault TxResponse × List CommandExchange) : Prop where
  /-- The answer to the transaction is a fault. -/
  turnedDown (fault : ClientFault)
    (means : (sent.outcome (answers 0)).Means sent.description (.error fault)) :
    ended.1 = .error fault ∧ ended.2.map (·.1) = Invocation.started [sent]
  /-- The node takes the transaction, and the answer to some look decides. -/
  decided (taken : TxResponse)
    (means : (sent.outcome (answers 0)).Means sent.description (.ok taken)) (j : Nat)
    (left : j ≤ client.settings.confirmAttempts)
    (decides : DecidesAt ((client.lookup taken.hash).outcome ∘ answers) j) :
    ((client.lookup taken.hash).outcome (answers j)).Means (client.lookup taken.hash).description
        ended.1 ∧
      ended.2.map (·.1) = Invocation.started (sent :: List.replicate j (client.lookup taken.hash))
  /-- The node takes the transaction, and no look within the attempts decides. -/
  unsettled (taken : TxResponse)
    (means : (sent.outcome (answers 0)).Means sent.description (.ok taken))
    (undecided : ¬ ∃ j ≤ client.settings.confirmAttempts,
      DecidesAt ((client.lookup taken.hash).outcome ∘ answers) j) :
    ended.1 = .error (client.unconfirmed taken.hash) ∧
      ended.2.map (·.1) = Invocation.started
        (sent :: List.replicate client.settings.confirmAttempts (client.lookup taken.hash))

theorem started_cons {sent : Invocation} (sendable : sent.hasNul = false) (rest : List Invocation) :
    Invocation.started (sent :: rest) = sent :: Invocation.started rest := by
  simp [Invocation.started, sendable]

theorem settled_run (client : NodeClient) (arguments : List Argument) (answers : Nat → Outcome) :
    Settled client (client.daemon.invocation arguments) answers
      ((client.broadcast arguments).run (scripted answers) []) where
  turnedDown fault means := by
    rw [run_broadcast_fault rfl means]
    exact ⟨rfl, Invocation.map_heard⟩
  decided taken means j left decides := by
    obtain ⟨w, rfl⟩ := Nat.exists_eq_add_of_le decides.look
    -- The answers to the looks follow the one to the transaction.
    have waits : ∀ k < w,
        ((client.lookup taken.hash).outcome (answers (1 + k))).isPending = true :=
      fun k less => decides.waits (1 + k) (by omega) (by omega)
    obtain ⟨looks, commands, confirmed⟩ := @run_confirm_decided client taken.hash answers
      [⟨client.daemon.invocation arguments, answers 0⟩] client.settings.confirmAttempts w (by omega)
      waits decides.decisive
    rw [run_broadcast_taken rfl means, scripted_apply, List.nil_append, List.length_nil, confirmed]
    refine ⟨Outcome.means_judged _ _, ?_⟩
    rw [started_cons (hasNul_of_taken means), Nat.add_comm 1 w, ← commands]
    rfl
  unsettled taken means undecided := by
    have pending := (decidesAt_or_pending _ client.settings.confirmAttempts).resolve_left undecided
    have waits : ∀ k < client.settings.confirmAttempts,
        ((client.lookup taken.hash).outcome (answers (1 + k))).isPending = true :=
      fun k less => pending (1 + k) (by omega) (by omega)
    obtain ⟨looks, commands, confirmed⟩ := @run_confirm_exhausted client taken.hash answers
      [⟨client.daemon.invocation arguments, answers 0⟩] client.settings.confirmAttempts waits
    rw [run_broadcast_taken rfl means, scripted_apply, List.nil_append, List.length_nil, confirmed]
    refine ⟨rfl, ?_⟩
    rw [started_cons (hasNul_of_taken means), ← commands]
    rfl

/-- News that say nothing, put in anywhere before the answer that decides, leave another one to decide
that means the same. -/
theorem DecidesAt.insert_outcome {i : Invocation} {j p n : Nat} {extra : List Outcome}
    (decides : DecidesAt (i.outcome ∘ answers) j) (first : 1 ≤ p) (early : p ≤ j)
    (pending : ∀ x ∈ extra, x.isPending = true) (within : j + extra.length ≤ n) :
    ∃ j' ≤ n, DecidesAt (i.outcome ∘ inserted p extra answers) j' ∧
      i.outcome (inserted p extra answers j') = i.outcome (answers j) := by
  cases nul : i.hasNul with
  | true =>
    -- No look can be given, and the first one already ends in that.
    have blocked (answer : Outcome) : i.outcome answer = .notStarted "nul byte found in provided data" :=
      if_pos nul
    have once : DecidesAt (i.outcome ∘ inserted p extra answers) 1 :=
      ⟨Nat.le_refl 1, fun k begun less => by omega, by simp [blocked, Outcome.isPending]⟩
    exact ⟨1, by omega, once, by rw [blocked, blocked]⟩
  | false =>
    have clear (answers : Nat → Outcome) : i.outcome ∘ answers = answers :=
      funext fun k => Invocation.outcome_of_hasNul nul
    rw [clear] at decides
    refine ⟨j + extra.length, within, ?_, ?_⟩
    · rw [clear]
      exact decides.insert first early pending
    · rw [inserted_behind early]

/-- The answers settle a broadcast as described. News that say nothing, put in before the answer that
decides, do not change what it comes to as long as the attempts last. -/
theorem broadcast_settled (client : NodeClient) (arguments : List Argument)
    (answers : Nat → Outcome) :
    let sent := client.daemon.invocation arguments
    let ended (answers : Nat → Outcome) := (client.broadcast arguments).run (scripted answers) []
    Settled client sent answers (ended answers) ∧
    ∀ taken, (sent.outcome (answers 0)).Means sent.description (.ok taken) →
      ∀ j, DecidesAt ((client.lookup taken.hash).outcome ∘ answers) j →
      ∀ (p : Nat) (extra : List Outcome), 1 ≤ p → p ≤ j → (∀ x ∈ extra, x.isPending = true) →
        j + extra.length ≤ client.settings.confirmAttempts →
        (ended (inserted p extra answers)).1 = (ended answers).1 := by
  intro sent ended
  have settled := settled_run client arguments
  refine ⟨settled answers, ?_⟩
  intro taken means j decides p extra first early pending within
  obtain ⟨j', left, later, same⟩ := decides.insert_outcome first early pending within
  have means' : (sent.outcome (inserted p extra answers 0)).Means sent.description (.ok taken) := by
    rwa [inserted_before first]
  have before := ((settled answers).decided taken means j (by omega) decides).1
  have after := ((settled (inserted p extra answers)).decided taken means' j' left later).1
  rw [same] at after
  exact after.unique before

end NodeClient

end ContractLaunch
