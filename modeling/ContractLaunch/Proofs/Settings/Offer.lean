import ContractLaunch.Proofs.Decimal.Printing
import ContractLaunch.Proofs.Session.Plan
import ContractLaunch.Proofs.Settings.Price
import Mathlib
/-!
Gas prices as texts. A text is a price exactly if it falls apart into a decimal and the name of a token,
which it does in one way at most; and a price reads back from its text, so what is offered for gas on a
command line is the price that uploads are paid at.
-/
namespace ContractLaunch

open Dialogue

/-- The name of a token: a letter, and after it 2 to 127 letters, digits and marks. -/
def NamesToken (cs : List Char) : Prop :=
  ∃ first rest, cs = first :: rest ∧ first.isAlpha = true ∧ 2 ≤ rest.length ∧ rest.length ≤ 127 ∧
    ∀ c ∈ rest, c.isAlphanum = true ∨ c ∈ ['/', ':', '.', '_', '-']

theorem isDenom_iff {cs : List Char} : isDenom cs = true ↔ NamesToken cs := by
  cases cs with
  | nil => simp [isDenom, NamesToken]
  | cons first rest =>
    simp only [isDenom, isDenomChar, NamesToken, Bool.and_eq_true, decide_eq_true_eq,
      List.all_eq_true, Bool.or_eq_true, List.contains_iff_mem, List.cons.injEq]
    constructor
    · rintro ⟨⟨⟨letter, others⟩, least⟩, most⟩
      exact ⟨first, rest, ⟨rfl, rfl⟩, letter, least, most, others⟩
    · rintro ⟨_, _, ⟨rfl, rfl⟩, letter, least, most, others⟩
      exact ⟨⟨⟨letter, others⟩, least⟩, most⟩

namespace GasPrice

/-- A way for a text to fall apart into a decimal and the name of a token. -/
structure Splits (cs amount token : List Char) : Prop where
  text : cs = amount ++ token
  decimal : ∃ d, Decimal.parse (String.ofList amount) = .ok d
  named : NamesToken token

variable {cs amount token amount' token' : List Char} {s : String} {price : GasPrice}

theorem parse_ofList {d : Decimal} :
    Decimal.parse (String.ofList amount) = .ok d ↔ Decimal.read? amount = some d := by
  rw [Decimal.parse_eq_ok_iff, String.toList_ofList]

theorem Splits.unique (split : Splits cs amount token) (also : Splits cs amount' token') :
    amount = amount' ∧ token = token' := by
  obtain ⟨d, read⟩ := split.decimal
  obtain ⟨d', read'⟩ := also.decimal
  obtain ⟨front, back⟩ := split_of_isDenom
    (Decimal.isChar_of_read? (parse_ofList.mp read)) (isDenom_iff.mpr split.named)
  obtain ⟨front', back'⟩ := split_of_isDenom
    (Decimal.isChar_of_read? (parse_ofList.mp read')) (isDenom_iff.mpr also.named)
  rw [← split.text] at front back
  rw [← also.text] at front' back'
  exact ⟨front.symm.trans front', back.symm.trans back'⟩

theorem parse_eq_ok_iff : parse s = .ok price ↔ read? (Text.trim s.toList) = some price := by
  unfold parse
  cases read? (Text.trim s.toList) <;> simp

theorem parse_eq_error_iff :
    parse s = .error (.invalidGasPrice s) ↔ read? (Text.trim s.toList) = none := by
  unfold parse
  cases read? (Text.trim s.toList) <;> simp

theorem read?_eq_none_iff : read? cs = none ↔ ¬ ∃ amount token, Splits cs amount token := by
  constructor
  · rintro unread ⟨amount, token, text, ⟨d, read⟩, named⟩
    have found : read? cs = some ⟨d, String.ofList token⟩ := by
      refine read?_eq_some_iff.mpr ⟨amount, ?_, parse_ofList.mp read, ?_⟩
      · rwa [String.toList_ofList]
      · rw [String.toList_ofList]
        exact isDenom_iff.mpr named
    rw [unread] at found
    cases found
  · intro apart
    cases found : read? cs with
    | none => rfl
    | some price =>
      obtain ⟨amount, text, read, named⟩ := read?_eq_some_iff.mp found
      exact absurd ⟨amount, _, text, ⟨_, parse_ofList.mpr read⟩, isDenom_iff.mp named⟩ apart

theorem toList_toString (price : GasPrice) :
    (toString price).toList = price.amount.written ++ price.denom.toList := by
  change (toString price.amount ++ price.denom).toList = _
  rw [String.toList_append, Decimal.toList_toString]

theorem isDenomChar_of_isChar {c : Char} (amount : Decimal.isChar c = true) : isDenomChar c = true := by
  rcases Bool.or_eq_true .. ▸ amount with digit | point
  · simp [isDenomChar, Char.isAlphanum, digit]
  · rw [of_decide_eq_true point]
    rfl

theorem isDenomChar_of_mem_toString (named : isDenom price.denom.toList = true) :
    ∀ c ∈ (toString price).toList, isDenomChar c = true := by
  intro c inside
  rw [toList_toString] at inside
  rcases List.mem_append.mp inside with amount | token
  · exact isDenomChar_of_isChar (Decimal.isChar_of_read? (Decimal.read?_written price.amount) c amount)
  · exact isDenomChar_of_isDenom named c token

/-- The text of a price has no blanks, and falls apart where it was joined. -/
theorem parse_toString (named : isDenom price.denom.toList = true) :
    parse (toString price) = .ok price := by
  have read := Decimal.read?_written price.amount
  have visible : ∀ c ∈ (toString price).toList, Text.isBlank c = false :=
    fun c inside => not_isBlank_of_isDenomChar (isDenomChar_of_mem_toString named c inside)
  have trimmed := Text.trim_eq_self (fun c first => visible c (List.mem_of_mem_head? first))
    (fun c last => visible c (List.mem_of_getLast? last))
  rw [parse_eq_ok_iff, trimmed, toList_toString, read?_eq_some_iff]
  exact ⟨_, rfl, read, named⟩

theorem parse_toString_of_read? (read : read? cs = some price) : parse (toString price) = .ok price := by
  obtain ⟨_, -, -, named⟩ := read?_eq_some_iff.mp read
  exact parse_toString named

end GasPrice

namespace Session

def UploadsAt (price : GasPrice) (act : Act) : Prop :=
  ∀ role sender bytecode fee memo, act = .call role (.upload sender bytecode fee memo) →
    Fee.compute Fee.uploadGasLimit price = .ok fee

theorem Task.plan_uploads {s : Session} (task : Task) :
    Every (fun x => ∀ sender bytecode fee memo, x.2 = .upload sender bytecode fee memo →
      Fee.compute Fee.uploadGasLimit s.gasPrice = .ok fee) (task.plan s) := by
  cases task with
  | instantiate | resume | execute | query => exact .ask _ _ nofun fun _ => .done _
  | storeCode bytecode =>
    change Every _ (paying _ (uploadFee s))
    cases paid : uploadFee s with
    | error fault => exact .done _
    | ok fee =>
      refine .ask _ _ ?_ fun _ => .done _
      rintro _ _ _ _ ⟨⟩
      exact paid
  | deploy bytecode message =>
    change Every _ (paying _ (uploadFee s))
    cases paid : uploadFee s with
    | error fault => exact .done _
    | ok fee =>
      refine .ask _ _ ?_ fun reply => ?_
      · rintro _ _ _ _ ⟨⟩
        exact paid
      · cases storedFrom reply with
        | error fault => exact .done _
        | ok stored => exact .ask _ _ nofun fun _ => .done _

theorem attempt_uploads (s : Session) (task : Task) :
    Every (UploadsAt s.gasPrice) (task.attempt s).run := by
  rw [Task.attempt_run]
  refine (Plan.program_every (Task.plan_uploads task)).mono ?_
  intro act uploads role sender bytecode fee memo same
  exact uploads role _ same sender bytecode fee memo rfl

end Session

namespace DaemonSetup

/-- The clients of a setup offer a text for gas wherever the node chooses the fee. -/
def Offers (d : DaemonSetup) (text : String) : Prop :=
  ∀ account codeId contract message label memo funds,
    ["--gas-prices", text] <:+:
      (d.clientOf account).instantiateArguments account.key codeId message label .auto ∧
    ["--gas-prices", text] <:+:
      (d.clientOf account).executeArguments account.key contract message .auto memo funds

theorem offers (d : DaemonSetup) : d.Offers d.settings.gasPrice := by
  intro account codeId contract message label memo funds
  have flags : ["--gas-prices", d.settings.gasPrice] <:+:
      NodeClient.feeFlags (d.clientOf account).settings .auto :=
    ⟨["--gas", "auto", "--gas-adjustment", NodeClient.gasAdjustment], [], rfl⟩
  constructor
  · exact flags.trans (List.infix_append _ _ _)
  · exact (flags.trans (List.infix_append _ _ _)).trans (List.prefix_append _ _).isInfix

theorem txSettingsOf_eq {settings : Settings} {price : GasPrice} (priced : settings.price = .ok price) :
    txSettingsOf settings =
      .ok ⟨toString price, max settings.confirmAttempts.toNat 1, settings.confirmInterval⟩ := by
  unfold txSettingsOf
  rw [priced]
  rfl

theorem gasPrice_of_ofSettings {settings : Settings} {price : GasPrice} {env : Environment}
    {staging : Staging} {d : DaemonSetup} (priced : settings.price = .ok price)
    (settled : ofSettings settings env staging = .ok d) :
    d.settings.gasPrice = toString price := by
  obtain ⟨daemon, -, rest⟩ := except_bind_ok settled
  obtain ⟨t, offering, made⟩ := except_bind_ok rest
  rw [txSettingsOf_eq priced] at offering
  obtain rfl := Except.ok.inj made
  obtain rfl := Except.ok.inj offering
  rfl

end DaemonSetup

/-- The price of a configuration is what its clients offer for gas, read back from the text on their
command lines, and what the uploads of its sessions pay at. -/
structure Configuration.Offers (c : Configuration) (price : GasPrice) : Prop where
  settled : ∃ t, DaemonSetup.txSettingsOf c.settings = .ok t ∧ GasPrice.parse t.gasPrice = .ok price
  offered : ∀ env staging d, DaemonSetup.ofSettings c.settings env staging = .ok d →
    ∃ text, d.Offers text ∧ GasPrice.parse text = .ok price
  paid : ∀ (Q : Type) (R : Q → Type) (settle : (act : IdentityAct) → Dialogue Q R act.Reply)
    (respond : Respondent Q R) (session : Session),
    (((Session.establish c).run.expand settle).run respond []).1 = .ok session →
    ∀ task : Session.Task, Every (Session.UploadsAt price) (task.attempt session).run

theorem Configuration.offers {c : Configuration} {price : GasPrice}
    (priced : c.settings.price = .ok price) : c.Offers price where
  settled := ⟨_, DaemonSetup.txSettingsOf_eq priced,
    GasPrice.parse_toString_of_read? (Settings.price_eq_ok_iff.mp priced)⟩
  offered env staging d settled := by
    refine ⟨_, d.offers, ?_⟩
    rw [DaemonSetup.gasPrice_of_ofSettings priced settled]
    exact GasPrice.parse_toString_of_read? (Settings.price_eq_ok_iff.mp priced)
  paid Q R settle respond session established task := by
    have ran := transcript_of_run respond ((Session.establish c).run.expand settle)
    rw [established] at ran
    obtain ⟨terms, -⟩ := Session.established_terms ran
    obtain rfl := Except.ok.inj (priced.symm.trans terms)
    exact Session.attempt_uploads session task

/-- What texts are prices, that each is one price, and that prices read back from their texts; so what
a configuration offers for gas on a command line is the price that its uploads pay at. -/
theorem GasPrice.text_round_trip :
    (∀ s price, parse s = .ok price ↔ ∃ amount, Text.trim s.toList = amount ++ price.denom.toList ∧
      Decimal.parse (String.ofList amount) = .ok price.amount ∧ NamesToken price.denom.toList) ∧
    (∀ s, parse s = .error (.invalidGasPrice s) ↔
      ¬ ∃ amount token, Splits (Text.trim s.toList) amount token) ∧
    (∀ cs amount token amount' token', Splits cs amount token → Splits cs amount' token' →
      amount = amount' ∧ token = token') ∧
    (∀ s price, parse s = .ok price → parse (toString price) = .ok price) ∧
    ∀ (c : Configuration) price, c.settings.price = .ok price → c.Offers price := by
  refine ⟨?_, ?_, ?_, ?_, ?_⟩
  · intro s price
    rw [parse_eq_ok_iff, read?_eq_some_iff]
    simp only [parse_ofList, isDenom_iff]
  · intro s
    rw [parse_eq_error_iff, read?_eq_none_iff]
  · intro cs amount token amount' token' split also
    exact split.unique also
  · intro s price parsed
    exact parse_toString_of_read? (parse_eq_ok_iff.mp parsed)
  · intro c price priced
    exact Configuration.offers priced

/-- A price with blanks around it and more zeros than it needs is read, and so is its text. -/
theorem GasPrice.text_round_trip_padded :
    parse " 01.50ibc/atom " = .ok ⟨⟨1500000000000000000⟩, "ibc/atom"⟩ ∧
    parse "1.5ibc/atom" = .ok ⟨⟨1500000000000000000⟩, "ibc/atom"⟩ := by
  have padded : parse " 01.50ibc/atom " = .ok ⟨⟨1500000000000000000⟩, "ibc/atom"⟩ := by
    refine (text_round_trip.1 _ _).mpr ⟨"01.50".toList, by decide +kernel, ?_, ?_⟩
    · exact parse_ofList.mpr (by decide +kernel)
    · exact isDenom_iff.mp (by decide +kernel)
  have written : toString (⟨⟨1500000000000000000⟩, "ibc/atom"⟩ : GasPrice) = "1.5ibc/atom" := by
    decide +kernel
  have again := text_round_trip.2.2.2.1 _ _ padded
  rw [written] at again
  exact ⟨padded, again⟩

end ContractLaunch
