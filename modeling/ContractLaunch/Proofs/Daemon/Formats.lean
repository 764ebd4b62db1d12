import ContractLaunch.Daemon.TxResponse
import ContractLaunch.Proofs.Json.Fields
import ContractLaunch.Proofs.Json.Printing
import Mathlib
/-!
The formats of transaction responses. Nodes differ in how they state a transaction: figures are numbers
or texts, what is empty may be left out, and events stand in one list or in one list for each message.
Whatever the format, what is read about a transaction is the same.
-/
namespace ContractLaunch

open Json

structure TxFacts where
  hash : String
  height : UInt64
  code : UInt32
  codespace : String
  rawLog : String
  gasWanted : UInt64
  gasUsed : UInt64
  events : List TxEvent

namespace TxResponse

section Forms

def textField (name text : String) (omissible : Prop) : Field :=
  ⟨name, (· = .text (some text)), omissible⟩

inductive IsFigure (n : UInt64) : Written → Prop
  | number : IsFigure n (.number (.ofInt n.toNat))
  | text : IsFigure n (.text (some (toString n)))
  | empty (zero : n = 0) : IsFigure n (.text (some ""))

/-- A field that holds a figure, left out perhaps if it is zero. -/
def figureField (name : String) (n : UInt64) : Field := ⟨name, IsFigure n, n = 0⟩

/-- A field that holds a list, left out perhaps if it is empty. -/
def listField {α : Type} (name : String) (forms : α → Written → Prop) (as : List α) : Field :=
  ⟨name, Lists forms as, as = []⟩

def IsAttribute (a : TxAttribute) : Written → Prop :=
  States [textField "key" a.key False, textField "value" a.value (a.value = "")]

def IsEvent (e : TxEvent) : Written → Prop :=
  States [textField "type" e.kind False, listField "attributes" IsAttribute e.attributes]

def IsMessageLog (events : List TxEvent) : Written → Prop :=
  States [listField "events" IsEvent events]

/-- The fields of a response that has these events at the top and these in the logs of the messages. -/
def fields (facts : TxFacts) (top : List TxEvent) (parts : List (List TxEvent)) : List Field :=
  [figureField "height" facts.height, textField "txhash" facts.hash False,
    ⟨"code", (· = .number (.ofInt facts.code.toNat)), facts.code = 0⟩,
    textField "codespace" facts.codespace (facts.codespace = ""),
    textField "raw_log" facts.rawLog (facts.rawLog = ""),
    figureField "gas_wanted" facts.gasWanted, figureField "gas_used" facts.gasUsed,
    listField "events" IsEvent top, listField "logs" IsMessageLog parts]

/-- The outputs that state these facts, with the events at the top or split, in their order, among the
logs of any number of messages. -/
inductive Output (facts : TxFacts) (output : String) : Prop
  | stated (top parts w) (split : top ++ parts.flatten = facts.events)
      (states : States (fields facts top parts) w) (stands : w.StandsIn output.toList)

end Forms

section Reading

theorem figure?_text {s : String} (filled : s ≠ "") (room : Nat) :
    figure? ⟨.text (some s), room⟩ = Numeral.readUInt64? s.toList := by
  unfold figure?
  split
  next empty => simp_all
  next same => simp_all
  next other => exact absurd rfl (other s)

theorem gives_figure (n : UInt64) : Gives figure? n (IsFigure n) 0 := by
  rintro w room form -
  cases form with
  | number =>
    have below : n.toNat < UInt64.size := n.toNat_lt
    have read := gives_natBelow below _ room rfl (Nat.zero_le room)
    simp [figure?, Term.uint64?, read]
  | text =>
    have digits := Numeral.toList_toString n
    have filled : toString n ≠ "" := by
      intro empty
      rw [empty] at digits
      exact Numeral.toDigits_ne_nil n.toNat digits.symm
    rw [figure?_text filled, digits, Numeral.readUInt64?_toDigits]
  | empty zero => simp [figure?, zero]

theorem gives_code (code : UInt32) : Gives Term.uint32? code (· = .number (.ofInt code.toNat)) 0 := by
  rintro w room rfl -
  have below : code.toNat < UInt32.size := code.toNat_lt
  have read := gives_natBelow below _ room rfl (Nat.zero_le room)
  simp [Term.uint32?, read]

theorem gives_attribute (a : TxAttribute) : Gives attribute? a (IsAttribute a) 1 := by
  refine gives_record rfl fun r room _ held => ?_
  simp only [List.forall_mem_cons] at held
  obtain ⟨key, value, -⟩ := held
  have readKey : r.required "key" Term.text? = some a.key :=
    key.required not_false (gives_text a.key) (Nat.zero_le room)
  have readValue : r.defaulted "value" "" Term.text? = some a.value :=
    value.defaulted id (gives_text a.value) (Nat.zero_le room)
  simp [readKey, readValue]

theorem gives_event (e : TxEvent) : Gives event? e (IsEvent e) 3 := by
  refine gives_record rfl fun r room deep held => ?_
  simp only [List.forall_mem_cons] at held
  obtain ⟨kind, attributes, -⟩ := held
  have readKind : r.required "type" Term.text? = some e.kind :=
    kind.required not_false (gives_text e.kind) (Nat.zero_le room)
  have readAttributes : r.defaulted "attributes" [] (Term.items? attribute?) = some e.attributes :=
    attributes.defaulted id (gives_items gives_attribute e.attributes) deep
  simp [readKind, readAttributes]

theorem gives_messageEvents (events : List TxEvent) :
    Gives messageEvents? events (IsMessageLog events) 5 := by
  refine gives_record rfl fun r room deep held => ?_
  simp only [List.forall_mem_cons] at held
  exact held.1.defaulted id (gives_items gives_event events) deep

def ofFacts (facts : TxFacts) (top : List TxEvent) (parts : List (List TxEvent)) : TxResponse where
  height := facts.height
  hash := facts.hash
  code := facts.code
  codespace := facts.codespace
  rawLog := facts.rawLog
  gasWanted := facts.gasWanted
  gasUsed := facts.gasUsed
  events := top
  logs := parts

theorem gives_term (facts : TxFacts) (top : List TxEvent) (parts : List (List TxEvent)) :
    Gives term? (ofFacts facts top parts) (States (fields facts top parts)) 7 := by
  refine gives_record rfl fun r room (deep : 6 ≤ room) held => ?_
  simp only [fields, List.forall_mem_cons] at held
  obtain ⟨height, hash, code, codespace, rawLog, gasWanted, gasUsed, events, logs, -⟩ := held
  have readHeight : r.defaulted "height" 0 figure? = some facts.height :=
    height.defaulted id (gives_figure facts.height) (Nat.zero_le room)
  have readHash : r.required "txhash" Term.text? = some facts.hash :=
    hash.required not_false (gives_text facts.hash) (Nat.zero_le room)
  have readCode : r.defaulted "code" 0 Term.uint32? = some facts.code :=
    code.defaulted id (gives_code facts.code) (Nat.zero_le room)
  have readCodespace : r.defaulted "codespace" "" Term.text? = some facts.codespace :=
    codespace.defaulted id (gives_text facts.codespace) (Nat.zero_le room)
  have readLog : r.defaulted "raw_log" "" Term.text? = some facts.rawLog :=
    rawLog.defaulted id (gives_text facts.rawLog) (Nat.zero_le room)
  have readWanted : r.defaulted "gas_wanted" 0 figure? = some facts.gasWanted :=
    gasWanted.defaulted id (gives_figure facts.gasWanted) (Nat.zero_le room)
  have readUsed : r.defaulted "gas_used" 0 figure? = some facts.gasUsed :=
    gasUsed.defaulted id (gives_figure facts.gasUsed) (Nat.zero_le room)
  have readEvents : r.defaulted "events" [] (Term.items? event?) = some top :=
    events.defaulted id (gives_items gives_event top) (by omega)
  have readLogs : r.defaulted "logs" [] (Term.items? messageEvents?) = some parts :=
    logs.defaulted id (gives_items gives_messageEvents parts) deep
  simp [readHeight, readHash, readCode, readCodespace, readLog, readWanted, readUsed,
    readEvents, readLogs, ofFacts]

theorem parse_of_stands {facts : TxFacts} {top : List TxEvent} {parts : List (List TxEvent)} {w : Written}
    {output : String} (states : States (fields facts top parts) w) (stands : w.StandsIn output.toList) :
    parse output = .ok (ofFacts facts top parts) := by
  have read : term? ⟨w, nestingLimit⟩ = some (ofFacts facts top parts) :=
    gives_term facts top parts w nestingLimit states (by decide)
  rw [parse, Reader.ofChars?, stands.read?_trim, Option.bind_some, read]

end Reading

section Attributes

variable {events : List TxEvent} {kind key : String} {answer : Option String}

/-- The value of the first attribute that has the key among the events of the kind in their order, passing
over events of the kind without it; none if there is no such attribute. -/
inductive FirstValue (events : List TxEvent) (kind key : String) : Option String → Prop
  | found (before event after first value last) (place : events = before ++ event :: after)
      (isKind : event.kind = kind) (within : event.attributes = first ++ ⟨key, value⟩ :: last)
      (fresh : ∀ a ∈ first, a.key ≠ key)
      (passed : ∀ e ∈ before, e.kind = kind → ∀ a ∈ e.attributes, a.key ≠ key) :
      FirstValue events kind key (some value)
  | absent (never : ∀ e ∈ events, e.kind = kind → ∀ a ∈ e.attributes, a.key ≠ key) :
      FirstValue events kind key none

theorem FirstValue.cons (value : FirstValue events kind key answer) {e : TxEvent}
    (passed : e.kind = kind → ∀ a ∈ e.attributes, a.key ≠ key) :
    FirstValue (e :: events) kind key answer := by
  cases value with
  | found before event after first value last place isKind within fresh passed' =>
    exact .found (e :: before) event after first value last (by rw [place, List.cons_append]) isKind within
      fresh (List.forall_mem_cons.mpr ⟨passed, passed'⟩)
  | absent never => exact .absent (List.forall_mem_cons.mpr ⟨passed, never⟩)

theorem exists_firstValue (events : List TxEvent) (kind key : String) :
    ∃ answer, FirstValue events kind key answer := by
  induction events with
  | nil => exact ⟨none, .absent (List.forall_mem_nil _)⟩
  | cons e events ih =>
    by_cases here : e.kind = kind ∧ ∃ a ∈ e.attributes, a.key = key
    · obtain ⟨isKind, a, inside, named⟩ := here
      obtain ⟨found, hit⟩ := Option.isSome_iff_exists.mp
        (List.find?_isSome (p := fun a : TxAttribute => decide (a.key = key)).mpr ⟨a, inside, by simpa⟩)
      obtain ⟨named, first, last, within, fresh⟩ := List.find?_eq_some_iff_append.mp hit
      obtain ⟨k, value⟩ := found
      obtain rfl : k = key := by simpa using named
      exact ⟨some value, .found [] e events first value last rfl isKind within (by simpa using fresh)
        (List.forall_mem_nil _)⟩
    · obtain ⟨answer, value⟩ := ih
      exact ⟨answer, value.cons fun isKind a inside named => here ⟨isKind, a, inside, named⟩⟩

theorem attributeOf?_of_firstValue {r : TxResponse} (value : FirstValue r.allEvents kind key answer) :
    r.attributeOf? kind key = answer := by
  unfold attributeOf?
  cases value with
  | found before event after first value last place isKind within fresh passed =>
    have skipped : ((before.filter (·.kind = kind)).flatMap TxEvent.attributes).find? (·.key = key) = none := by
      simpa using passed
    have skipped' : first.find? (·.key = key) = none := by simpa using fresh
    simp [place, isKind, within, skipped, skipped']
  | absent never =>
    simpa using never

theorem attributeOf?_eq_iff {r : TxResponse} :
    r.attributeOf? kind key = answer ↔ FirstValue r.allEvents kind key answer := by
  constructor
  · rintro rfl
    -- there is a first value or none, and it is what the search gives
    obtain ⟨answer, value⟩ := exists_firstValue r.allEvents kind key
    rwa [attributeOf?_of_firstValue value]
  · exact attributeOf?_of_firstValue

end Attributes

/-- Every output that states the facts about a transaction is read, and what is learned from it depends on
the facts alone. -/
theorem formats_agree {facts : TxFacts} {output : String} (stated : Output facts output) :
    ∃ r, parse output = .ok r ∧
      r.receipt = ⟨facts.hash, facts.height, facts.gasWanted, facts.gasUsed⟩ ∧
      r.check = (if facts.code = 0 then .ok () else .error (.rejected
        (if facts.codespace = "" then none else some facts.codespace) (some facts.code)
        (Failure.contractMessageText facts.rawLog))) ∧
      ∀ kind key answer, r.attributeOf? kind key = answer ↔ FirstValue facts.events kind key answer := by
  obtain ⟨top, parts, w, split, states, stands⟩ := stated
  refine ⟨ofFacts facts top parts, parse_of_stands states stands, rfl, ?_, fun kind key answer => ?_⟩
  · simp [check, ofFacts, String.isEmpty_iff]
  · rw [attributeOf?_eq_iff, ← split]
    rfl

/-- An output of an older node: events for each message, a figure as a text, one left out, fields that are
not known. -/
def olderOutput : Json := .object [("tx", .null), ("gas_used", .text "201000"), ("height", .ofNat 88),
  ("logs", .array [.object [("msg_index", .ofNat 0), ("events", .array [.object [
    ("attributes", .array [.object [("value", .text "42"), ("key", .text "code_id")]]),
    ("type", .text "instantiate")]])]]), ("txhash", .text "AA")]

theorem formats_agree_older_output : ∃ r, parse olderOutput.compact = .ok r ∧
    r.receipt = ⟨"AA", 88, 0, 201000⟩ ∧ r.check = .ok () ∧
    r.attributeOf? "instantiate" "code_id" = some "42" := by
  have stated : Output ⟨"AA", 88, 0, "", "", 0, 201000, [⟨"instantiate", [⟨"code_id", "42"⟩]⟩]⟩
      olderOutput.compact := by
    refine ⟨[], [[⟨"instantiate", [⟨"code_id", "42"⟩]⟩]], _, rfl, ?_, standsIn_compact rfl⟩
    refine .object _ (by simp) ?_
    simp only [fields, List.forall_mem_cons]
    refine ⟨.given _ rfl rfl .number, .given _ rfl rfl rfl, .leftOut rfl trivial,
      .leftOut rfl trivial, .leftOut rfl trivial, .leftOut rfl rfl, .given _ rfl rfl .text, .leftOut rfl rfl,
      .given _ rfl rfl (.array _ (.cons (.object _ (by simp) ?_) .nil)), List.forall_mem_nil _⟩
    simp only [List.forall_mem_cons]
    refine ⟨.given _ rfl rfl (.array _ (.cons (.object _ (by simp) ?_) .nil)), List.forall_mem_nil _⟩
    simp only [List.forall_mem_cons]
    refine ⟨.given _ rfl rfl rfl, .given _ rfl rfl (.array _ (.cons (.object _ (by simp) ?_) .nil)),
      List.forall_mem_nil _⟩
    simp only [List.forall_mem_cons]
    exact ⟨.given _ rfl rfl rfl, .given _ rfl rfl rfl, List.forall_mem_nil _⟩
  obtain ⟨r, read, receipt, check, attributes⟩ := formats_agree stated
  refine ⟨r, read, receipt, check, (attributes "instantiate" "code_id" _).mpr ?_⟩
  exact .found [] _ [] [] "42" [] rfl rfl rfl (List.forall_mem_nil _) (List.forall_mem_nil _)

end TxResponse

end ContractLaunch
