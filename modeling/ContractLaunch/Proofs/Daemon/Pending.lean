import ContractLaunch.Proofs.Daemon.Confirmation
import ContractLaunch.Proofs.Daemon.Precedence
import ContractLaunch.Proofs.Daemon.Refusal
import ContractLaunch.Proofs.Deploy.Verdict
/-!
Whether "in no block yet" is told apart from trouble. A look whose failure says that something was not
found is passed over, whatever else its text says. What the daemon prints of a transaction that it does
not have says nothing else, so it is no trouble; but a text that names an unreachable node or an unusable
key can have the same words in it, and then the trouble is passed over with it.
-/
namespace ContractLaunch

open Dialogue

namespace Failure

variable {text hash : String}

theorem classify_kind_of_clear (clear : isOvershadowed text = false) :
    (classify text).kind = .chainRejection := by
  obtain ⟨reachable, signable⟩ := Bool.or_eq_false_iff.mp clear
  simp only [classify, reachable, signable, Bool.false_eq_true, if_false]
  split
  · rfl
  · split <;> rfl

theorem classify_untroubled_iff :
    (classify text).kind ≠ .transport ∧ (classify text).kind ≠ .signature ↔
      isOvershadowed text = false := by
  cases hidden : isOvershadowed text with
  | false =>
    refine iff_of_true ?_ rfl
    simp [classify_kind_of_clear hidden]
  | true =>
    refine iff_of_false ?_ Bool.noConfusion
    rcases classify_overshadowed hidden with ⟨line, classified⟩ | ⟨line, classified⟩
    · simp [classified, ClientFault.kind]
    · simp [classified, ClientFault.kind]

section Report

def hexDigits : List Char := "0123456789abcdef".toList

/-- The text with which the daemon fails when it does not have a transaction. -/
def notFoundReport (hash : String) : String := "Error: tx (" ++ hash ++ ") not found"

theorem foldCase_notFoundReport : Text.foldCase (notFoundReport hash).toList =
    "error: tx ".toList ++ '(' :: (Text.foldCase hash.toList ++ ')' :: " not found".toList) := by
  have parts : (notFoundReport hash).toList =
      "Error: tx (".toList ++ hash.toList ++ ") not found".toList := by
    simp [notFoundReport]
  have before : Text.foldCase "Error: tx (".toList = "error: tx ".toList ++ ['('] := by decide
  have behind : Text.foldCase ") not found".toList = ')' :: " not found".toList := by decide
  have folded (one other : List Char) :
      Text.foldCase (one ++ other) = Text.foldCase one ++ Text.foldCase other := List.flatMap_append
  rw [parts, folded, folded, before, behind]
  simp

theorem mem_foldCase_of_hex (hex : ∀ c ∈ hash.toList, c.toLower ∈ hexDigits) :
    ∀ c ∈ Text.foldCase hash.toList, c ∈ hexDigits := by
  intro c inside
  obtain ⟨d, member, folded⟩ := List.mem_flatMap.mp inside
  have digit := hex d member
  unfold Text.foldChar at folded
  split at folded
  next kelvin =>
    subst kelvin
    exact absurd digit (by decide)
  split at folded
  next _ dotted =>
    subst dotted
    exact absurd digit (by decide)
  · rwa [List.mem_singleton.mp folded]

/-- The marks of trouble: none of them stands in the report around a hash, none reaches into the hash,
and none can be made of the digits of a hash. -/
theorem trouble_marks : ∀ mark ∈ transportMarks ++ signatureMarks,
    '(' ∉ mark.toList ∧ ')' ∉ mark.toList ∧ Text.occurs mark.toList "error: tx ".toList = false ∧
      Text.occurs mark.toList " not found".toList = false ∧
        (mark.toList.all fun c => hexDigits.contains c) = false := by
  decide

theorem not_mentions_notFoundReport (hex : ∀ c ∈ hash.toList, c.toLower ∈ hexDigits) :
    ∀ mark ∈ transportMarks ++ signatureMarks, mentions (notFoundReport hash).toList mark = false := by
  intro mark member
  obtain ⟨noOpen, noClose, notBefore, notBehind, other⟩ := trouble_marks mark member
  have before : ¬ mark.toList <:+: "error: tx ".toList := by
    rw [← Text.occurs_iff, notBefore]
    exact Bool.false_ne_true
  have behind : ¬ mark.toList <:+: " not found".toList := by
    rw [← Text.occurs_iff, notBehind]
    exact Bool.false_ne_true
  have within : ¬ mark.toList <:+: Text.foldCase hash.toList := by
    intro inside
    have digits : (mark.toList.all fun c => hexDigits.contains c) = true := by
      rw [List.all_eq_true]
      intro c there
      exact List.contains_iff_mem.mpr (mem_foldCase_of_hex hex c (inside.subset there))
    rw [digits] at other
    contradiction
  rw [Bool.eq_false_iff, Ne, mentions_iff, foldCase_notFoundReport,
    Text.infix_around_of_not_mem noOpen, Text.infix_around_of_not_mem noClose]
  exact not_or.mpr ⟨before, not_or.mpr ⟨within, behind⟩⟩

/-- The daemon's own report of a transaction that it does not have is told apart from trouble, whatever
the hash. -/
theorem notFoundReport_told_apart (hex : ∀ c ∈ hash.toList, c.toLower ∈ hexDigits) :
    isNotFound (notFoundReport hash) = true ∧ isOvershadowed (notFoundReport hash) = false := by
  have clear := not_mentions_notFoundReport hex
  constructor
  · have named : "tx".toList <:+: Text.foldCase (notFoundReport hash).toList := by
      rw [foldCase_notFoundReport]
      exact ⟨"error: ".toList, _, rfl⟩
    have missed : "not found".toList <:+: Text.foldCase (notFoundReport hash).toList := by
      rw [foldCase_notFoundReport]
      exact ⟨"error: tx ".toList ++ '(' :: (Text.foldCase hash.toList ++ ") ".toList), [], by simp⟩
    rw [isNotFound, mentions_iff.mpr named, mentions_iff.mpr missed]
    rfl
  · rw [isOvershadowed, Bool.or_eq_false_iff, List.any_eq_false, List.any_eq_false]
    constructor
    · intro mark member
      simp [clear mark (List.mem_append_left _ member)]
    · intro mark member
      simp [clear mark (List.mem_append_right _ member)]

end Report

end Failure

theorem Outcome.isPending_of_failure {answer : Outcome} {text : String}
    (failed : answer.failure? = some text) : answer.isPending = Failure.isNotFound text := by
  rcases answer with ⟨_ | status, output, complaints⟩ | reason
  · contradiction
  · obtain rfl := Option.some.inj failed
    rfl
  · contradiction

namespace NodeClient

variable {client : NodeClient} {sent : Invocation} {hash : String}
  {made looks before after : List CommandExchange} {found result : Except ClientFault TxResponse}
  {x : CommandExchange}

theorem Watch.passed_over {attempts : Nat} (watch : Watch client hash attempts looks found)
    (split : looks = before ++ x :: after) (pending : x.2.isPending = true) :
    after ≠ [] ∨ before.length + 1 = attempts ∧ found = .error (client.unconfirmed hash) := by
  cases watch with
  | exhausted waits _ spent =>
    cases after with
    | cons y others => exact .inl (List.cons_ne_nil y others)
    | nil =>
      refine .inr ⟨?_, rfl⟩
      rw [← spent, split]
      simp
  | unasked nul left => simp at split
  | decided waits _ answer decisive left =>
    cases after with
    | cons y others => exact .inl (List.cons_ne_nil y others)
    | nil =>
      obtain ⟨-, same⟩ := List.append_inj' split rfl
      cases same
      simp [decisive] at pending

theorem Course.passed_over (course : Course client sent made result)
    (split : made = before ++ x :: after) (later : before ≠ []) (pending : x.2.isPending = true) :
    after ≠ [] ∨ before.length = client.settings.confirmAttempts ∧
      ∃ hash, result = .error (client.unconfirmed hash) := by
  obtain ⟨first, others, rfl⟩ := List.exists_cons_of_ne_nil later
  rw [List.cons_append] at split
  cases course with
  | unsent nul => simp at split
  | turnedDown sendable answer fault refused => simp at split
  | watched sendable answer taken response zero looks found watch =>
    obtain ⟨-, rest⟩ := List.cons.inj split
    refine (watch.passed_over rest pending).imp_right ?_
    rintro ⟨spent, rfl⟩
    exact ⟨spent, taken.hash, rfl⟩

end NodeClient

/-- A text that says "not found" is told apart from trouble exactly if it has no mark of trouble. Marked
or not, a look that fails with it is passed over: another look follows, unless the attempts are used up,
and then nothing is known. -/
theorem Failure.not_found_untroubled_iff (text : String) (pending : isNotFound text = true) :
    ((classify text).kind ≠ .transport ∧ (classify text).kind ≠ .signature ↔
      isOvershadowed text = false) ∧
    ∀ (client : NodeClient) (arguments : List Argument)
      (daemon : Respondent Invocation fun _ => Outcome),
      let ended := (client.broadcast arguments).run daemon []
      ∀ before x after, ended.2 = before ++ x :: after → before ≠ [] → x.2.failure? = some text →
        after ≠ [] ∨ before.length = client.settings.confirmAttempts ∧
          ∃ hash, ended.1 = .error (client.unconfirmed hash) := by
  refine ⟨classify_untroubled_iff, ?_⟩
  intro client arguments daemon ended before x after split later failed
  have course := NodeClient.broadcast_course (transcript_of_run daemon (client.broadcast arguments))
  exact course.passed_over split later ((Outcome.isPending_of_failure failed).trans pending)

section Lost

open NodeClient

def lostText : String := "Error: post failed: Post \"http://tx-node:26657\": 404 Not Found"

def lostAnswer : Outcome := .exited 1 [] (Utf8.encode lostText)

def lostAnswers : Nat → Outcome
  | 0 => takenAnswer
  | _ + 1 => lostAnswer

def lostLook : CommandExchange := ⟨stumblingClient.lookup "AB", lostAnswer⟩

theorem lost_pending : Failure.isNotFound lostText = true := by decide +kernel

theorem lost_overshadowed : Failure.isOvershadowed lostText = true := by
  have unreachable : Failure.transportMarks.any (Failure.mentions lostText.toList) = true := by
    decide +kernel
  simp [Failure.isOvershadowed, unreachable]

theorem lost_failure : lostAnswer.failure? = some lostText := by decide +kernel

theorem run_confirm_lost (sent : CommandExchange) (looks : List CommandExchange) (attempts : Nat) :
    (stumblingClient.confirm "AB" (attempts + 1)).run (scripted lostAnswers) (sent :: looks) =
      (stumblingClient.confirm "AB" attempts).run (scripted lostAnswers)
        (sent :: looks ++ [lostLook]) := by
  have sendable : (stumblingClient.lookup "AB").hasNul = false := by decide
  have answered : scripted lostAnswers (sent :: looks) (stumblingClient.lookup "AB") = lostAnswer := rfl
  have pending : ((stumblingClient.lookup "AB").outcome lostAnswer).isPending = true := by
    rw [Invocation.outcome_of_hasNul sendable, Outcome.isPending_of_failure lost_failure, lost_pending]
  have heard : (stumblingClient.lookup "AB").heard lostAnswer = [lostLook] := by
    simp [Invocation.heard, sendable, lostLook]
  rw [run_confirm_succ, answered, if_pos pending, heard]

theorem run_broadcast_lost :
    (stumblingClient.broadcast stumblingSent.arguments).run (scripted lostAnswers) [] =
      (.error (stumblingClient.unconfirmed "AB"),
        [⟨stumblingSent, takenAnswer⟩, lostLook, lostLook]) := by
  have sending : stumblingClient.daemon.invocation stumblingSent.arguments = stumblingSent := rfl
  have sendable : stumblingSent.hasNul = false := by decide
  have taken : (stumblingSent.outcome takenAnswer).Means stumblingSent.description
      (.ok stumblingTaken) := by
    rw [Invocation.outcome_of_hasNul sendable]
    exact .accepted _ _ response?_takenAnswer rfl
  have confirmed : (stumblingClient.confirm "AB" 2).run (scripted lostAnswers)
      [⟨stumblingSent, takenAnswer⟩] =
      (.error (stumblingClient.unconfirmed "AB"),
        [⟨stumblingSent, takenAnswer⟩, lostLook, lostLook]) := by
    rw [run_confirm_lost, List.cons_append, run_confirm_lost]
    rfl
  rw [run_broadcast_taken sending taken]
  change ((stumblingClient.confirm "AB" 2).run (scripted lostAnswers)
    [⟨stumblingSent, takenAnswer⟩]).map (·.bind accepted) id = _
  rw [confirmed]
  rfl

theorem Failure.not_found_untroubled_iff_unreachable :
    Failure.isNotFound lostText = true ∧
      ¬ ((Failure.classify lostText).kind ≠ .transport ∧
        (Failure.classify lostText).kind ≠ .signature) ∧
      ∃ hash, ((stumblingClient.broadcast stumblingSent.arguments).run (scripted lostAnswers) []).1 =
        .error (stumblingClient.unconfirmed hash) := by
  obtain ⟨told, passed⟩ := Failure.not_found_untroubled_iff lostText lost_pending
  refine ⟨lost_pending, ?_, ?_⟩
  · intro untroubled
    have clear := told.mp untroubled
    rw [lost_overshadowed] at clear
    contradiction
  · have ended := congrArg Prod.snd run_broadcast_lost
    have last := passed stumblingClient stumblingSent.arguments (scripted lostAnswers)
      [⟨stumblingSent, takenAnswer⟩, lostLook] lostLook [] ended (List.cons_ne_nil _ _) lost_failure
    exact (last.resolve_left (· rfl)).2

theorem Failure.not_found_not_always_untroubled :
    ¬ ∀ text, Failure.isNotFound text = true →
      (Failure.classify text).kind ≠ .transport ∧ (Failure.classify text).kind ≠ .signature := by
  intro claimed
  have clear := Failure.classify_untroubled_iff.mp (claimed lostText lost_pending)
  rw [lost_overshadowed] at clear
  contradiction

end Lost

end ContractLaunch
