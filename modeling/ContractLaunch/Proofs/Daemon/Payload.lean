import ContractLaunch.Proofs.Daemon.Confirmation
import ContractLaunch.Proofs.Json.Meaning
/-!
Messages to contracts and what contracts answer. A message goes to the daemon as one argument, from which
it can be read back whatever else the command holds; what the daemon prints under the name of the data is
what a query gives, whatever else is printed.
-/
namespace ContractLaunch

namespace NodeClient

open Dialogue Json

/-- The message stands in this place of the arguments, and is read back from there. -/
def Carries (arguments : List String) (place : Nat) (m : Json) : Prop :=
  ∃ text, arguments[place]? = some text ∧ Json.read? text.toList = some m

def queryCommand (client : NodeClient) (contract : String) (message : Json) : Invocation :=
  client.daemon.invocation ((client.queryArguments contract message).map .text)

variable {client : NodeClient} {contract output : String} {message m m' : Json} {arguments arguments' : List String}
  {place : Nat} {daemon : Respondent Invocation fun _ => Outcome} {past : List CommandExchange}

theorem Carries.ne (carries : Carries arguments place m) (carries' : Carries arguments' place m')
    (differ : m ≠ m') : arguments ≠ arguments' := by
  rintro rfl
  obtain ⟨text, found, read⟩ := carries
  obtain ⟨text', found', read'⟩ := carries'
  obtain rfl := Option.some.inj (found.symm.trans found')
  exact differ (Option.some.inj (read.symm.trans read'))

theorem carries_compact (message : IsMessage m) (found : arguments[place]? = some m.compact) :
    Carries arguments place m :=
  ⟨m.compact, found, message.read?_compact⟩

theorem run_query : (client.call (.query contract message)).run daemon past =
    let command := client.queryCommand contract message
    let answer := daemon past command
    ((((command.outcome answer).read command.description).mapError CommandFault.clientFault).bind payload,
      past ++ command.heard answer) := by
  change ((client.queryCommand contract message).run >>= fun output =>
    pure ((output.mapError CommandFault.clientFault).bind payload)).run daemon past = _
  rw [run_bind, Invocation.run_outcome, run_pure]

theorem run_query_of_printed {answer : Except ClientFault Json}
    (printed : ((client.queryCommand contract message).outcome
      (daemon past (client.queryCommand contract message))).printed? = some output)
    (held : payload output = answer) :
    ((client.call (.query contract message)).run daemon past).1 = answer := by
  rw [run_query]
  dsimp only
  rw [Outcome.read_ok_iff.mpr printed]
  exact held

theorem run_query_of_undecoded {bytes complaints : Bytes}
    (ended : (client.queryCommand contract message).outcome
      (daemon past (client.queryCommand contract message)) = .exited 0 bytes complaints)
    (undecoded : Utf8.decode? bytes = none) :
    ((client.call (.query contract message)).run daemon past).1 =
      .error (.transport (CommandFault.notText (client.queryCommand contract message).description).message) := by
  rw [run_query]
  dsimp only
  rw [ended, Outcome.read, undecoded]
  rfl

theorem payload_of_data {members : List (String × Json)} {v : Json}
    (text : IsTextOf output.toList (.object members)) (found : members.lookup "data" = some v) :
    payload output = .ok v := by
  rw [payload, read?_trim_eq_some_iff.mpr text]
  dsimp only
  rw [get?, found]

theorem payload_of_not_text (notText : ∀ body, ¬ IsTextOf output.toList body) :
    payload output = .error (.transport ("unexpected query response: " ++ Json.complaint)) := by
  have unread : Json.read? (Text.trim output.toList) = none :=
    Option.eq_none_iff_forall_ne_some.mpr fun body read => notText body (read?_trim_eq_some_iff.mp read)
  rw [payload, unread]

theorem payload_of_no_data {body : Json} (text : IsTextOf output.toList body)
    (missing : ∀ members v, body = .object members → members.lookup "data" ≠ some v) :
    payload output = .error (.transport "query response has no \x60data\x60 field") := by
  have nothing : body.get? "data" = none := by
    cases body with
    | object members => exact Option.eq_none_iff_forall_ne_some.mpr fun v => missing members v rfl
    | null | bool | number | text | array => rfl
  rw [payload, read?_trim_eq_some_iff.mpr text]
  dsimp only
  rw [nothing]
  rfl

/-- A message stands in a fixed place of each command that is made with it and is read back from there, so
that different messages make different commands, whatever else is in them. A query is one command, and
gives what the daemon prints under the name of the data, whatever it is and whatever is printed besides;
an output that is no text, no JSON, or JSON without data is a fault of the transport. -/
theorem payloads_unchanged :
    (∀ m, IsMessage m →
      (∀ (client : NodeClient) key codeId label fee,
        Carries (client.instantiateArguments key codeId m label fee) 4 m) ∧
      (∀ (client : NodeClient) key contract fee memo funds,
        Carries (client.executeArguments key contract m fee memo funds) 4 m) ∧
      ∀ (client : NodeClient) contract, Carries (client.queryArguments contract m) 5 m) ∧
    (∀ m m', IsMessage m → IsMessage m' → m ≠ m' →
      (∀ (client client' : NodeClient) key key' codeId codeId' label label' fee fee',
        client.instantiateArguments key codeId m label fee ≠
          client'.instantiateArguments key' codeId' m' label' fee') ∧
      (∀ (client client' : NodeClient) key key' contract contract' fee fee' memo memo' funds funds',
        client.executeArguments key contract m fee memo funds ≠
          client'.executeArguments key' contract' m' fee' memo' funds') ∧
      ∀ (client client' : NodeClient) contract contract',
        client.queryArguments contract m ≠ client'.queryArguments contract' m') ∧
    ∀ (client : NodeClient) contract message daemon past bytes complaints,
      let command := client.queryCommand contract message
      let ended := (client.call (.query contract message)).run daemon past
      command.outcome (daemon past command) = .exited 0 bytes complaints →
        ended.2 = past ++ [⟨command, daemon past command⟩] ∧
        (Utf8.decode? bytes = none →
          ended.1 = .error (.transport (CommandFault.notText command.description).message)) ∧
        ∀ output, Utf8.decode? bytes = some output →
          (∀ members v, IsTextOf output.toList (.object members) → members.lookup "data" = some v →
            ended.1 = .ok v) ∧
          ((∀ body, ¬ IsTextOf output.toList body) →
            ended.1 = .error (.transport ("unexpected query response: " ++ Json.complaint))) ∧
          ∀ body, IsTextOf output.toList body →
            (∀ members v, body = .object members → members.lookup "data" ≠ some v) →
            ended.1 = .error (.transport "query response has no \x60data\x60 field") := by
  have instantiates {m : Json} (message : IsMessage m) (client : NodeClient) (key : KeyName)
      (codeId : CodeId) (label : String) (fee : FeeSelection) :
      Carries (client.instantiateArguments key codeId m label fee) 4 m := carries_compact message rfl
  have executes {m : Json} (message : IsMessage m) (client : NodeClient) (key : KeyName)
      (contract : String) (fee : FeeSelection) (memo : String) (funds : List Coin) :
      Carries (client.executeArguments key contract m fee memo funds) 4 m := carries_compact message rfl
  have queries {m : Json} (message : IsMessage m) (client : NodeClient) (contract : String) :
      Carries (client.queryArguments contract m) 5 m := carries_compact message rfl
  refine ⟨fun m message => ⟨instantiates message, executes message, queries message⟩,
    fun m m' message message' differ => ⟨?_, ?_, ?_⟩, ?_⟩
  · intros
    exact (instantiates message ..).ne (instantiates message' ..) differ
  · intros
    exact (executes message ..).ne (executes message' ..) differ
  · intros
    exact (queries message ..).ne (queries message' ..) differ
  · intro client contract message daemon past bytes complaints command ended exited
    refine ⟨?_, run_query_of_undecoded exited, fun output decoded => ?_⟩
    · have heard : command.heard (daemon past command) = [⟨command, daemon past command⟩] := by
        simp [Invocation.heard, Invocation.hasNul_of_exited exited]
      rw [← heard]
      exact congrArg Prod.snd run_query
    · have printed : (command.outcome (daemon past command)).printed? = some output := by
        rw [exited]
        exact decoded
      exact ⟨fun members v text found => run_query_of_printed printed (payload_of_data text found),
        fun notText => run_query_of_printed printed (payload_of_not_text notText),
        fun body text missing => run_query_of_printed printed (payload_of_no_data text missing)⟩

def asking : NodeClient :=
  ⟨⟨"wasmd", "http://localhost:26657", "localwasm", "test", none⟩, ⟨"0.025ustake", 30, 1⟩, none,
    fun _ => none⟩

def counter (n : Int) : Json := .object [("increment", .object [("by", .number (.integer n))])]

/-- An output with fields out of order, the data twice. -/
def scrambled : String := Json.compact (.object
  [("height", .ofNat 88), ("data", .text "stale"), ("data", .null), ("code", .ofNat 0)]) ++ "\n"

theorem isMessage_counter {n : Int} (least : -2 ^ 63 ≤ n) (below : n < 2 ^ 64) :
    IsMessage (counter n) := by
  refine ⟨.object _ (List.pairwise_singleton _ _) ?_, ?_⟩
  · rw [List.forall_mem_singleton]
    exact .object _ (List.pairwise_singleton _ _) (List.forall_mem_singleton.mpr (.integer n least below))
  · change 2 ≤ nestingLimit
    decide

theorem isTextOf_scrambled : IsTextOf scrambled.toList
    (.object [("code", .ofNat 0), ("data", .null), ("height", .ofNat 88)]) := by
  have stands := Written.StandsIn.within [] _ ['\n'] (spelled_chars (.object
    [("height", .ofNat 88), ("data", .text "stale"), ("data", .null), ("code", .ofNat 0)]) rfl) rfl rfl
  rw [scrambled, String.toList_append, compact, String.toList_ofList]
  refine ⟨_, stands, .object _ [("height", .ofNat 88), ("data", .text "stale"), ("data", .null),
    ("code", .ofNat 0)] _ rfl ?_ (sorted_eq_iff.mp rfl), by decide⟩
  exact .cons (.number _ _ (by decide))
    (.cons (.text _) (.cons .null (.cons (.number _ _ (by decide)) .nil)))

theorem payloads_unchanged_scrambled :
    let bytes := Utf8.encode scrambled
    Carries (asking.queryArguments "wasm1counter" (counter (-7))) 5 (counter (-7)) ∧
    asking.queryArguments "wasm1counter" (counter (-7)) ≠
      asking.queryArguments "wasm1counter" (counter 7) ∧
    ((asking.call (.query "wasm1counter" (counter (-7)))).run (fun _ _ => .exited 0 bytes []) []).1 =
      .ok .null := by
  intro bytes
  have less : IsMessage (counter (-7)) := isMessage_counter (by decide) (by decide)
  have more : IsMessage (counter 7) := isMessage_counter (by decide) (by decide)
  have apart : counter (-7) ≠ counter 7 := by simp [counter]
  have exited : (asking.queryCommand "wasm1counter" (counter (-7))).outcome (.exited 0 bytes []) =
      .exited 0 bytes [] := Invocation.outcome_of_hasNul (by decide)
  have decoded : Utf8.decode? bytes = some scrambled := by decide +kernel
  obtain ⟨carries, differ, queries⟩ := payloads_unchanged
  obtain ⟨-, -, printed⟩ := queries asking "wasm1counter" (counter (-7)) (fun _ _ => .exited 0 bytes []) []
    bytes [] exited
  exact ⟨(carries _ less).2.2 _ _, (differ _ _ less more apart).2.2 _ _ _ _,
    (printed _ decoded).1 _ _ isTextOf_scrambled rfl⟩

end NodeClient

end ContractLaunch
