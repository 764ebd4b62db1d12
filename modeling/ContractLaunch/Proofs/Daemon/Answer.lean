import ContractLaunch.Daemon.NodeClient
import ContractLaunch.Proofs.Transcript
/-!
What can be read off the answer to a command: a transaction response, or that a transaction is in no
block yet. What a client makes of an answer depends on nothing else than these readings and, when the
command failed, on the text of its failure.
-/
namespace ContractLaunch

open Dialogue

abbrev CommandExchange := Exchange Invocation fun _ => Outcome

theorem TxResponse.parse_of_tokens {output : String} {tokens : List Json.Token}
    {response : TxResponse} (lexed : Json.lex? (Text.trim output.toList) = some tokens)
    (read : ((Json.Written.ofTokens? tokens).bind fun w => term? ⟨w, Json.nestingLimit⟩) =
      some response) :
    TxResponse.parse output = .ok response := by
  simp [parse, Json.Reader.ofChars?, Json.Written.read?, lexed, read]

namespace Outcome

/-- The text that a command printed, if it ended with status zero. -/
def printed? : Outcome → Option String
  | .exited 0 output _ => Utf8.decode? output
  | _ => none

/-- The transaction response that a command answered with: it ended with status zero, and what it
printed reads as a response. -/
def response? (answer : Outcome) : Option TxResponse :=
  answer.printed?.bind fun text => (TxResponse.parse text).toOption

def failure? : Outcome → Option String
  | .exited (_ + 1) output complaints => some (failureText output complaints)
  | _ => none

def isPending : Outcome → Bool
  | .exited (_ + 1) output complaints => Failure.isNotFound (failureText output complaints)
  | _ => false

/-- What a client makes of an answer that is to hold a transaction response. -/
def verdict (command : String) (answer : Outcome) : Except ClientFault TxResponse :=
  ((answer.read command).mapError CommandFault.clientFault).bind TxResponse.parse

theorem read_ok_iff {command text : String} {answer : Outcome} :
    answer.read command = .ok text ↔ answer.printed? = some text := by
  rcases answer with ⟨_ | status, output, complaints⟩ | reason
  · cases decoded : Utf8.decode? output with
    | none => simp [read, printed?, decoded]
    | some text => simp [read, printed?, decoded]
  · simp [read, printed?]
  · simp [read, printed?]

theorem response?_eq_some_iff {answer : Outcome} {r : TxResponse} :
    answer.response? = some r ↔ ∃ text, answer.printed? = some text ∧ TxResponse.parse text = .ok r := by
  simp only [response?, Option.bind_eq_some_iff]
  refine exists_congr fun text => and_congr_right fun _ => ?_
  cases TxResponse.parse text <;> simp [Except.toOption]

theorem verdict_of_read_error {command : String} {answer : Outcome} {fault : CommandFault}
    (failed : answer.read command = .error fault) :
    answer.verdict command = .error fault.clientFault := by
  rw [verdict, failed]
  rfl

theorem verdict_of_read_ok {command text : String} {answer : Outcome}
    (read : answer.read command = .ok text) : answer.verdict command = TxResponse.parse text := by
  rw [verdict, read]
  rfl

theorem verdict_ok_iff {command : String} {answer : Outcome} {r : TxResponse} :
    answer.verdict command = .ok r ↔ answer.response? = some r := by
  simp only [response?_eq_some_iff, ← @read_ok_iff command]
  cases outcome : answer.read command with
  | error fault =>
    rw [verdict_of_read_error outcome]
    simp
  | ok text =>
    rw [verdict_of_read_ok outcome]
    simp

theorem isPending_of_read_ok {command text : String} {answer : Outcome}
    (read : answer.read command = .ok text) : answer.isPending = false := by
  rcases answer with ⟨_ | status, output, complaints⟩ | reason
  · rfl
  · simp [Outcome.read] at read
  · rfl

theorem read_error {command : String} {answer : Outcome} {fault : CommandFault}
    (failed : answer.read command = .error fault) :
    (∃ reason, answer = .notStarted reason ∧ fault = .notStarted command reason) ∨
      (∃ output complaints, answer = .exited 0 output complaints ∧ fault = .notText command) ∨
        ∃ status output complaints, answer = .exited (status + 1) output complaints ∧
          fault = .failed command (status + 1) (failureText output complaints) := by
  rcases answer with ⟨_ | status, output, complaints⟩ | reason
  · cases decoded : Utf8.decode? output with
    | none =>
      simp only [read, decoded, if_true, Except.error.injEq] at failed
      exact .inr (.inl ⟨output, complaints, rfl, failed.symm⟩)
    | some text => simp [read, decoded] at failed
  · simp only [read, Nat.succ_ne_zero, if_false, Except.error.injEq] at failed
    exact .inr (.inr ⟨status, output, complaints, rfl, failed.symm⟩)
  · simp only [read, Except.error.injEq] at failed
    exact .inl ⟨reason, rfl, failed.symm⟩

theorem isPending_of_read_error {command : String} {answer : Outcome} {fault : CommandFault}
    (failed : answer.read command = .error fault) :
    answer.isPending = NodeClient.isPending fault := by
  obtain ⟨_, rfl, rfl⟩ | ⟨_, _, rfl, rfl⟩ | ⟨_, _, _, rfl, rfl⟩ := read_error failed
  · rfl
  · rfl
  · rfl

theorem isPending_of_response {answer : Outcome} {r : TxResponse}
    (response : answer.response? = some r) : answer.isPending = false := by
  rcases answer with ⟨_ | status, output, complaints⟩ | reason
  · rfl
  · simp [response?, printed?] at response
  · rfl

theorem verdict_error {command : String} {answer : Outcome} {fault : ClientFault}
    (failed : answer.verdict command = .error fault) :
    (∃ text, fault = .transport text) ∨
      ∃ status output complaints, answer = .exited (status + 1) output complaints ∧
        fault = Failure.classify (failureText output complaints) := by
  cases outcome : answer.read command with
  | ok text =>
    rw [verdict_of_read_ok outcome, TxResponse.parse] at failed
    split at failed
    · contradiction
    · exact .inl ⟨_, (Except.error.inj failed).symm⟩
  | error cause =>
    rw [verdict_of_read_error outcome] at failed
    obtain rfl := Except.error.inj failed
    obtain ⟨_, rfl, rfl⟩ | ⟨_, _, rfl, rfl⟩ | ⟨status, output, complaints, rfl, rfl⟩ := read_error outcome
    · exact .inl ⟨_, rfl⟩
    · exact .inl ⟨_, rfl⟩
    · exact .inr ⟨status, output, complaints, rfl, rfl⟩

theorem verdict_failed (command : String) (status : Nat) (output complaints : Bytes) :
    (Outcome.exited (status + 1) output complaints).verdict command =
      .error (Failure.classify (failureText output complaints)) := by
  have failed : (Outcome.exited (status + 1) output complaints).read command =
      .error (.failed command (status + 1) (failureText output complaints)) := by simp [read]
  rw [verdict_of_read_error failed, CommandFault.clientFault]

theorem verdict_of_failure {command text : String} {answer : Outcome}
    (failed : answer.failure? = some text) :
    answer.verdict command = .error (Failure.classify text) := by
  rcases answer with ⟨_ | status, output, complaints⟩ | reason
  · contradiction
  · rw [verdict_failed, Option.some.inj failed]
  · contradiction

theorem response?_of_failure {text : String} {answer : Outcome} (failed : answer.failure? = some text) :
    answer.response? = none := by
  rcases answer with ⟨_ | status, output, complaints⟩ | reason
  · contradiction
  · simp [response?, printed?]
  · contradiction

end Outcome

namespace Invocation

theorem hasNul_texts {i : Invocation} {words : List String} (texts : i.arguments = words.map .text) :
    i.hasNul = (i.program.toList.contains '\x00' || words.any fun word => word.toList.contains '\x00') := by
  rw [hasNul, texts, List.any_map]
  rfl

def nulFault (i : Invocation) : CommandFault :=
  .notStarted i.description "nul byte found in provided data"

theorem transcript_run {i : Invocation} {made : List CommandExchange}
    {text : Except CommandFault String} :
    Transcript i.run made text ↔
      (i.hasNul = true ∧ made = [] ∧ text = .error i.nulFault) ∨
        (i.hasNul = false ∧ ∃ answer, made = [⟨i, answer⟩] ∧ text = answer.read i.description) := by
  unfold run
  split
  next nul => simp [nul, nulFault]
  next clean =>
    simp only [transcript_bind, transcript_question, transcript_pure]
    constructor
    · intro given
      obtain ⟨_, answer, _, rfl, rfl, rfl, rfl⟩ := given
      exact .inr ⟨by simpa using clean, answer, rfl, rfl⟩
    · intro given
      obtain ⟨nul, _⟩ | ⟨_, answer, rfl, rfl⟩ := given
      · exact absurd nul clean
      · exact ⟨[⟨i, answer⟩], answer, [], rfl, rfl, rfl, rfl⟩

theorem run_run {i : Invocation} (clean : i.hasNul = false)
    (daemon : Respondent Invocation fun _ => Outcome) (past : List CommandExchange) :
    i.run.run daemon past = ((daemon past i).read i.description, past ++ [⟨i, daemon past i⟩]) := by
  rw [run, if_neg (by simp [clean]), run_bind, run_question, run_pure]

end Invocation

end ContractLaunch
