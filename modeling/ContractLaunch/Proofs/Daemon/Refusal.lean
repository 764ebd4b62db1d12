import ContractLaunch.Proofs.Daemon.Broadcast
import ContractLaunch.Session.Task
import Mathlib
/-!
What a client may report of a transaction that the node has taken. Such a transaction can still land
whatever the client sees of it, so it counts as refused only when a look has found it in a block with
a code that is not zero. A client keeps to this unless a look fails with a text that reads like the
failure of a broadcast: the text is classified in the same way, and then the report is wrong.
-/
namespace ContractLaunch

open Dialogue

theorem Failure.classify_transport_iff {text : String} :
    (Failure.classify text).kind = .transport ↔
      (Failure.transportMarks.any (Failure.mentions text.toList)) = true := by
  dsimp only [Failure.classify]
  split
  next marked => exact iff_of_true rfl marked
  next unmarked =>
    refine iff_of_false ?_ unmarked
    split
    · simp [ClientFault.kind]
    · split
      · simp [ClientFault.kind, ClientFault.plainRejection]
      · split <;> simp [ClientFault.kind, ClientFault.plainRejection, ClientFault.sdkRejection]

namespace Outcome

/-- Whether a command failed with a text that says neither that a transaction was not found nor that
the node could not be reached. -/
def isMisleading : Outcome → Bool
  | .exited (_ + 1) output complaints =>
    let text := failureText output complaints
    !Failure.isNotFound text && !Failure.transportMarks.any (Failure.mentions text.toList)
  | _ => false

theorem isMisleading_of_pending {answer : Outcome} (pending : answer.isPending = true) :
    answer.isMisleading = false := by
  rcases answer with ⟨_ | status, output, complaints⟩ | reason
  · rfl
  · simp only [isPending] at pending
    simp [isMisleading, pending]
  · rfl

theorem isMisleading_of_response {answer : Outcome} {r : TxResponse}
    (response : answer.response? = some r) : answer.isMisleading = false := by
  rcases answer with ⟨_ | status, output, complaints⟩ | reason
  · rfl
  · simp [response?, printed?] at response
  · rfl

theorem verdict_error_kind {command : String} {answer : Outcome} {fault : ClientFault}
    (decisive : answer.isPending = false) (failed : answer.verdict command = .error fault) :
    fault.kind = .transport ↔ answer.isMisleading = false := by
  rcases verdict_error failed with ⟨text, rfl⟩ | ⟨status, output, complaints, rfl, classified⟩
  · have clear : answer.isMisleading = false := by
      rcases answer with ⟨_ | status, output, complaints⟩ | reason
      · rfl
      · rw [verdict_failed] at failed
        have kind : (Failure.classify (failureText output complaints)).kind = .transport := by
          rw [Except.error.inj failed]
          rfl
        simp [isMisleading, Failure.classify_transport_iff.mp kind]
      · rfl
    simp [ClientFault.kind, clear]
  · simp only [isPending] at decisive
    rw [classified, Failure.classify_transport_iff]
    simp [isMisleading, decisive]

end Outcome

namespace NodeClient

variable {client : NodeClient} {hash : String} {looks : List CommandExchange}

/-- Some look found the transaction in a block, with a code that is not zero. -/
def Refused (client : NodeClient) (hash : String) (looks : List CommandExchange) : Prop :=
  ∃ answer r, ⟨client.lookup hash, answer⟩ ∈ looks ∧ answer.response? = some r ∧ r.code ≠ 0

/-- A fault that may be reported of a transaction which the node has taken, after these looks. -/
structure Warranted (client : NodeClient) (hash : String) (looks : List CommandExchange)
    (fault : ClientFault) : Prop where
  /-- It is a rejection exactly if some look found one. -/
  rejection : fault.kind = .chainRejection ↔ Refused client hash looks
  /-- Else nothing is known, and nothing else is said. -/
  unsettled : fault.kind = .transport ↔ ¬ Refused client hash looks
  /-- An execute transaction counts as refused by the contract only if some look found a rejection. -/
  execution (contract : String) :
    (Session.executeFault contract fault).kind = .contractRejected → Refused client hash looks

theorem executeFault_kind {contract : String} {fault : ClientFault}
    (refused : (Session.executeFault contract fault).kind = .contractRejected) :
    fault.kind = .chainRejection := by
  cases fault with
  | transport text => simp [Session.executeFault, DeployFault.kind, ClientFault.kind] at refused
  | signature text => simp [Session.executeFault, DeployFault.kind, ClientFault.kind] at refused
  | rejected codespace code log => rfl

theorem warranted_of_refused {fault : ClientFault} (kind : fault.kind = .chainRejection)
    (refused : Refused client hash looks) : Warranted client hash looks fault where
  rejection := iff_of_true kind refused
  unsettled := by simp [kind, refused]
  execution _ _ := refused

theorem warranted_of_transport {fault : ClientFault} (kind : fault.kind = .transport)
    (unrefused : ¬ Refused client hash looks) : Warranted client hash looks fault where
  rejection := by simp [kind, unrefused]
  unsettled := iff_of_true kind unrefused
  execution contract rejected := by simp [executeFault_kind rejected] at kind

theorem Waits.not_refused (waits : Waits client hash looks) : ¬ Refused client hash looks := by
  intro given
  obtain ⟨answer, r, member, response, -⟩ := given
  have pending := (waits _ member).2
  simp [Outcome.isPending_of_response response] at pending

theorem Waits.clear (waits : Waits client hash looks) : ∀ x ∈ looks, x.2.isMisleading = false :=
  fun x member => Outcome.isMisleading_of_pending (waits x member).2

theorem Waits.refused_iff (waits : Waits client hash looks) {answer : Outcome} :
    Refused client hash (looks ++ [⟨client.lookup hash, answer⟩]) ↔
      ∃ r, answer.response? = some r ∧ r.code ≠ 0 := by
  constructor
  · intro given
    obtain ⟨found, r, member, response, nonzero⟩ := given
    rcases List.mem_append.mp member with early | last
    · exact absurd ⟨found, r, early, response, nonzero⟩ waits.not_refused
    · cases List.mem_singleton.mp last
      exact ⟨r, response, nonzero⟩
  · intro given
    obtain ⟨r, response, nonzero⟩ := given
    exact ⟨answer, r, by simp, response, nonzero⟩

theorem Waits.clear_iff (waits : Waits client hash looks) {answer : Outcome} :
    (∀ x ∈ looks ++ [⟨client.lookup hash, answer⟩], x.2.isMisleading = false) ↔
      answer.isMisleading = false := by
  constructor
  · exact fun all => all ⟨client.lookup hash, answer⟩ (by simp)
  · intro last x member
    rcases List.mem_append.mp member with early | final
    · exact waits.clear x early
    · cases List.mem_singleton.mp final
      exact last

theorem accepted_error_kind {r : TxResponse} {fault : ClientFault}
    (refused : accepted r = .error fault) : fault.kind = .chainRejection ∧ r.code ≠ 0 := by
  unfold accepted TxResponse.check at refused
  split at refused
  · contradiction
  next nonzero =>
    obtain rfl := Except.error.inj refused
    exact ⟨rfl, nonzero⟩

/-- Looking for a transaction ends in a warranted report exactly if no look was misleading. -/
theorem Watch.warranted_iff {attempts : Nat} {found : Except ClientFault TxResponse}
    (watch : Watch client hash attempts looks found) :
    (∀ fault, found.bind accepted = .error fault → Warranted client hash looks fault) ↔
      ∀ x ∈ looks, x.2.isMisleading = false := by
  cases watch with
  | exhausted waits pending spent =>
    refine iff_of_true ?_ pending.clear
    intro fault same
    cases same
    exact warranted_of_transport rfl pending.not_refused
  | unasked nul left =>
    have pending : Waits client hash [] := Waits.nil
    refine iff_of_true ?_ pending.clear
    intro fault same
    cases same
    exact warranted_of_transport rfl pending.not_refused
  | decided waits pending answer decisive left =>
    rw [pending.clear_iff]
    cases verdict : answer.verdict (client.lookup hash).description with
    | ok r =>
      have response := Outcome.verdict_ok_iff.mp verdict
      refine iff_of_true ?_ (Outcome.isMisleading_of_response response)
      intro fault refused
      obtain ⟨kind, nonzero⟩ := accepted_error_kind refused
      exact warranted_of_refused kind (pending.refused_iff.mpr ⟨r, response, nonzero⟩)
    | error fault =>
      have unanswered : answer.response? = none := by
        rw [Option.eq_none_iff_forall_ne_some]
        intro r response
        simp [Outcome.verdict_ok_iff.mpr response] at verdict
      have unrefused : ¬ Refused client hash (waits ++ [⟨client.lookup hash, answer⟩]) := by
        simp [pending.refused_iff, unanswered]
      rw [← Outcome.verdict_error_kind decisive verdict]
      constructor
      · exact fun warranted => (warranted fault rfl).unsettled.mpr unrefused
      · intro kind _ same
        cases same
        exact warranted_of_transport kind unrefused

theorem call_course {c : ClientCall} {made : List CommandExchange} {reply : c.Reply}
    (isSigned : c.isSigned = true) (ran : Transcript (client.call c) made reply) :
    made = [] ∨ ∃ sent result, ∃ read : TxResponse → c.Answer, reply = result.map read ∧
      Course client sent made result := by
  cases c with
  | upload sender bytecode fee memo =>
    rcases signed_course ran with ⟨_, -, silent, -⟩ | ⟨_, result, -, mapped, course⟩
    · exact .inl silent
    · exact .inr ⟨_, result, _, mapped, course⟩
  | instantiate sender codeId message label fee =>
    rcases signed_course ran with ⟨_, -, silent, -⟩ | ⟨_, result, -, mapped, course⟩
    · exact .inl silent
    · exact .inr ⟨_, result, _, mapped, course⟩
  | execute sender contract message fee memo funds =>
    rcases signed_course ran with ⟨_, -, silent, -⟩ | ⟨_, result, -, mapped, course⟩
    · exact .inl silent
    · exact .inr ⟨_, result, _, mapped, course⟩
  | query contract message => simp [ClientCall.isSigned] at isSigned

variable {daemon : Respondent Invocation fun _ => Outcome} {past : List CommandExchange}

theorem run_signed {α : Type} {sender : String} {ready : List Argument}
    {arguments : KeyName → Except ClientFault (List Argument)} {read : TxResponse → α}
    (found : (client.signingKey sender).bind arguments = .ok ready) :
    (client.signed sender arguments read).run daemon past =
      ((client.broadcast ready).run daemon past).map (Except.map read) id := by
  rw [signed, found]
  exact run_bind _ _ _ _

theorem run_confirm_failed {attempts : Nat} {fault : CommandFault}
    (sendable : (client.lookup hash).hasNul = false)
    (failed : (daemon past (client.lookup hash)).read (client.lookup hash).description = .error fault)
    (final : isPending fault = false) :
    (client.confirm hash (attempts + 1)).run daemon past =
      (.error fault.clientFault, past ++ [⟨client.lookup hash, daemon past (client.lookup hash)⟩]) := by
  rw [confirm, run_bind, Invocation.run_run sendable, failed]
  simp only [final, Bool.false_eq_true, if_false, run_pure]

section Stumble

def takenAnswer : Outcome := .exited 0 (Utf8.encode "\x7b\"txhash\":\"AB\"\x7d") []

def brokenLook : Outcome := .exited 1 [] (Utf8.encode "Error: internal error\n")

/-- A node that takes a transaction and then fails whenever it is asked about it. -/
def stumbling : Respondent Invocation fun _ => Outcome
  | [], _ => takenAnswer
  | _ :: _, _ => brokenLook

def stumblingClient : NodeClient where
  daemon := { program := "wasmd", node := "tcp://localhost:26657", chainId := "testing" }
  settings := ⟨"0.025ucosm", 2, 0⟩
  signer := some ⟨⟨"cwdeploy-tester"⟩, "wasm1tester"⟩
  staging _ := none

abbrev stumblingCall : ClientCall :=
  .execute "wasm1tester" "wasm1contract" (.object []) .auto "execute a message" []

def stumblingSent : Invocation :=
  stumblingClient.daemon.invocation
    ((stumblingClient.executeArguments ⟨"cwdeploy-tester"⟩ "wasm1contract" (.object []) .auto
      "execute a message" []).map .text)

def stumblingTaken : TxResponse := ⟨0, "AB", 0, "", "", 0, 0, [], []⟩

theorem response?_takenAnswer : takenAnswer.response? = some stumblingTaken := by
  have decoded : Utf8.decode? (Utf8.encode "\x7b\"txhash\":\"AB\"\x7d") =
      some "\x7b\"txhash\":\"AB\"\x7d" := by
    cbv
  have lexed : Json.lex? (Text.trim "\x7b\"txhash\":\"AB\"\x7d".toList) =
      some [.beginObject, .text (some "txhash"), .colon, .text (some "AB"), .endObject] := by
    cbv
  have parsed : TxResponse.parse "\x7b\"txhash\":\"AB\"\x7d" = .ok stumblingTaken :=
    TxResponse.parse_of_tokens lexed rfl
  simp [takenAnswer, Outcome.response?, Outcome.printed?, decoded, parsed, Except.toOption]

theorem read_brokenLook (command : String) :
    brokenLook.read command = .error (.failed command 1 "Error: internal error") := by
  have text : Text.trimmed (Utf8.decodeLenient (Utf8.encode "Error: internal error\n")) =
      "Error: internal error" := by
    cbv
  dsimp only [brokenLook, Outcome.read, Outcome.failureText]
  rw [text]
  rfl

theorem run_stumblingCall :
    (stumblingClient.call stumblingCall).run stumbling [] =
      (.error (.plainRejection "internal error"),
        [⟨stumblingSent, takenAnswer⟩, ⟨stumblingClient.lookup "AB", brokenLook⟩]) := by
  have final (command : String) :
      isPending (.failed command 1 "Error: internal error") = false := by
    change Failure.isNotFound "Error: internal error" = false
    decide
  have rejection : Failure.classify "Error: internal error" = .plainRejection "internal error" := by
    decide
  have confirmed : (stumblingClient.confirm "AB" 2).run stumbling [⟨stumblingSent, takenAnswer⟩] =
      (.error (.plainRejection "internal error"),
        [⟨stumblingSent, takenAnswer⟩, ⟨stumblingClient.lookup "AB", brokenLook⟩]) := by
    have sendable : (stumblingClient.lookup "AB").hasNul = false := by decide
    rw [run_confirm_failed sendable (read_brokenLook _) (final _), CommandFault.clientFault, rejection]
    rfl
  have sent : (stumblingClient.broadcast stumblingSent.arguments).run stumbling [] =
      (.error (.plainRejection "internal error"),
        [⟨stumblingSent, takenAnswer⟩, ⟨stumblingClient.lookup "AB", brokenLook⟩]) := by
    rw [run_broadcast (by decide) (submitted_ok_iff.mpr ⟨response?_takenAnswer, rfl⟩)]
    change ((stumblingClient.confirm "AB" 2).run stumbling [⟨stumblingSent, takenAnswer⟩]).map
      (·.bind accepted) id = _
    rw [confirmed]
    rfl
  have call : stumblingClient.call stumblingCall = stumblingClient.signed "wasm1tester"
      (fun key => .ok ((stumblingClient.executeArguments key "wasm1contract" (.object []) .auto
        "execute a message" []).map .text)) TxResponse.receipt := rfl
  have found : (stumblingClient.signingKey "wasm1tester").bind (fun key =>
      .ok ((stumblingClient.executeArguments key "wasm1contract" (.object []) .auto
        "execute a message" []).map .text)) = .ok stumblingSent.arguments := rfl
  rw [call, run_signed found, sent]
  rfl

end Stumble

/-- Once the node has taken the transaction of a signed call, the call ends well or in a warranted
report, exactly unless a look was misleading. -/
theorem taken_call_warranted_iff (daemon : Respondent Invocation fun _ => Outcome)
    (client : NodeClient) (c : ClientCall) (isSigned : c.isSigned = true) (sent : Invocation)
    (answer : Outcome) (looks : List CommandExchange) (reply : c.Reply)
    (ran : (client.call c).run daemon [] = (reply, ⟨sent, answer⟩ :: looks)) (taken : TxResponse)
    (response : answer.response? = some taken) (zero : taken.code = 0) :
    (∀ fault, reply = .error fault → Warranted client taken.hash looks fault) ↔
      ∀ x ∈ looks, x.2.isMisleading = false := by
  have transcript := transcript_of_run daemon (client.call c)
  rw [ran] at transcript
  dsimp only at transcript
  rcases call_course isSigned transcript with silent | ⟨_, result, read, mapped, course⟩
  · contradiction
  · have same : ∀ fault, reply = .error fault ↔ result = .error fault := by
      intro fault
      cases result <;> simp [mapped, Except.map]
    simp only [same]
    cases course with
    | turnedDown sendable _ fault refused =>
      rw [submitted_ok_iff.mpr ⟨response, zero⟩] at refused
      contradiction
    | watched sendable _ other read _ _ found watch =>
      obtain rfl := Option.some.inj (response.symm.trans read)
      exact watch.warranted_iff

theorem taken_call_warranted_iff_stumbling :
    (∀ fault, (.error (.plainRejection "internal error") : stumblingCall.Reply) = .error fault →
        Warranted stumblingClient "AB" [⟨stumblingClient.lookup "AB", brokenLook⟩] fault) ↔
      ∀ x ∈ [(⟨stumblingClient.lookup "AB", brokenLook⟩ : CommandExchange)],
        x.2.isMisleading = false :=
  taken_call_warranted_iff stumbling stumblingClient stumblingCall rfl stumblingSent takenAnswer _ _
    run_stumblingCall stumblingTaken response?_takenAnswer rfl

/-- Not every report on a transaction that the node has taken is warranted. -/
theorem taken_call_not_always_warranted :
    ¬ ∀ (daemon : Respondent Invocation fun _ => Outcome) (client : NodeClient) (c : ClientCall)
        (sent : Invocation) (answer : Outcome) (looks : List CommandExchange) (reply : c.Reply)
        (taken : TxResponse), c.isSigned = true →
        (client.call c).run daemon [] = (reply, ⟨sent, answer⟩ :: looks) →
        answer.response? = some taken → taken.code = 0 →
        ∀ fault, reply = .error fault → Warranted client taken.hash looks fault := by
  intro claimed
  have warranted := claimed stumbling stumblingClient stumblingCall _ _ _ _ stumblingTaken rfl
    run_stumblingCall response?_takenAnswer rfl _ rfl
  obtain ⟨answer, r, member, response, -⟩ := warranted.rejection.mp rfl
  cases List.mem_singleton.mp member
  cases response

end NodeClient

end ContractLaunch
