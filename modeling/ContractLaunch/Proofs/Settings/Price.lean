import ContractLaunch.Proofs.Decimal.Reading
import ContractLaunch.Proofs.Fee
import ContractLaunch.Proofs.Setup.Precheck
import ContractLaunch.Proofs.Text.Trimming
import Mathlib
/-!
The gas price of a configuration. Settings hold its amount and the native token as two free texts, and
the price is read from both of them joined. The reading comes apart where the texts were joined
exactly if the one writes an amount and the other names a token; else characters pass from one to the
other, and what is offered for gas is not in the native token.
-/
namespace ContractLaunch

open Dialogue

namespace Decimal

def isChar (c : Char) : Bool := c.isDigit || c = '.'

theorem isChar_of_read? {cs : List Char} {d : Decimal} (read : read? cs = some d) :
    ∀ c ∈ cs, isChar c = true := by
  obtain ⟨whole, fraction, writes⟩ := writes_of_read? read
  have digit : ∀ c ∈ whole ++ fraction, isChar c = true :=
    fun c inside => by simp [isChar, writes.digits c inside]
  obtain ⟨before, after⟩ := List.forall_mem_append.mp digit
  rcases writes.form with ⟨rfl, -⟩ | rfl
  · exact before
  · exact List.forall_mem_append.mpr ⟨before, List.forall_mem_cons.mpr ⟨rfl, after⟩⟩

end Decimal

section Characters

variable {c : Char}

theorem Decimal.not_isChar_of_isAlpha (alpha : c.isAlpha = true) : isChar c = false := by
  have letter : c ≠ '.' := by
    rintro rfl
    revert alpha
    decide
  have digit : c.isDigit = false := by
    grind [Char.isDigit, Char.isAlpha, Char.isUpper, Char.isLower]
  simp [isChar, letter, digit]

theorem isDenomChar_of_isAlpha (alpha : c.isAlpha = true) : isDenomChar c = true := by
  simp [isDenomChar, Char.isAlphanum, alpha]

theorem toNat_of_isDenomChar (denom : isDenomChar c = true) : 0x21 ≤ c.toNat ∧ c.toNat ≤ 0x7E := by
  have cases : c.isAlphanum = true ∨ c ∈ ['/', ':', '.', '_', '-'] := by
    simpa [isDenomChar] using denom
  rcases cases with letter | mark
  · simp only [Char.isAlphanum, Char.isAlpha, Char.isUpper, Char.isLower, Char.isDigit,
      Bool.or_eq_true, Bool.and_eq_true, decide_eq_true_eq, ge_iff_le, UInt32.le_iff_toNat_le,
      Char.reduceVal, UInt32.reduceToNat] at letter
    change 0x21 ≤ c.val.toNat ∧ c.val.toNat ≤ 0x7E
    omega
  · simp only [List.mem_cons, List.not_mem_nil, or_false] at mark
    rcases mark with rfl | rfl | rfl | rfl | rfl <;> decide

theorem not_isBlank_of_isDenomChar (denom : isDenomChar c = true) : Text.isBlank c = false := by
  obtain ⟨low, high⟩ := toNat_of_isDenomChar denom
  exact Text.isBlank_of_printable low high

end Characters

section Denom

variable {cs : List Char}

theorem isAlpha_head?_of_isDenom (denom : isDenom cs = true) : ∀ c ∈ cs.head?, c.isAlpha = true := by
  cases cs with
  | nil => exact nofun
  | cons first rest =>
    have parts : first.isAlpha = true := by
      simp only [isDenom, Bool.and_eq_true] at denom
      exact denom.1.1.1
    intro c same
    obtain rfl := Option.some.inj same
    exact parts

theorem isDenomChar_of_isDenom (denom : isDenom cs = true) : ∀ c ∈ cs, isDenomChar c = true := by
  cases cs with
  | nil => exact nofun
  | cons first rest =>
    have parts : first.isAlpha = true ∧ rest.all isDenomChar = true := by
      simp only [isDenom, Bool.and_eq_true] at denom
      exact denom.1.1
    exact List.forall_mem_cons.mpr ⟨isDenomChar_of_isAlpha parts.1, List.all_eq_true.mp parts.2⟩

theorem ne_nil_of_isDenom (denom : isDenom cs = true) : cs ≠ [] := by
  rintro rfl
  cases denom

/-- Where an amount and the name of a token are joined, the joint shows. -/
theorem split_of_isDenom {amount : List Char} (chars : ∀ c ∈ amount, Decimal.isChar c = true)
    (denom : isDenom cs = true) :
    (amount ++ cs).takeWhile Decimal.isChar = amount ∧ (amount ++ cs).dropWhile Decimal.isChar = cs := by
  have stop : cs.takeWhile Decimal.isChar = [] ∧ cs.dropWhile Decimal.isChar = cs := by
    cases cs with
    | nil => cases denom
    | cons first rest =>
      have letter := Decimal.not_isChar_of_isAlpha (isAlpha_head?_of_isDenom denom first rfl)
      simp [letter]
  rw [List.takeWhile_append_of_pos chars, List.dropWhile_append_of_pos chars, stop.1, stop.2]
  exact ⟨List.append_nil _, rfl⟩

end Denom

namespace GasPrice

theorem read?_eq_some_iff {cs : List Char} {price : GasPrice} :
    read? cs = some price ↔
      ∃ amount, cs = amount ++ price.denom.toList ∧ Decimal.read? amount = some price.amount ∧
        isDenom price.denom.toList = true := by
  have reading : read? cs = if isDenom (cs.dropWhile Decimal.isChar) then
      (Decimal.read? (cs.takeWhile Decimal.isChar)).map
        (⟨·, String.ofList (cs.dropWhile Decimal.isChar)⟩)
      else none := rfl
  rw [reading]
  constructor
  · intro read
    split at read
    next denom =>
      obtain ⟨amount, written, rfl⟩ := Option.map_eq_some_iff.mp read
      refine ⟨cs.takeWhile Decimal.isChar, ?_, written, ?_⟩
      · rw [String.toList_ofList, List.takeWhile_append_dropWhile]
      · rwa [String.toList_ofList]
    next => cases read
  · intro given
    obtain ⟨amount, rfl, written, denom⟩ := given
    obtain ⟨first, second⟩ := split_of_isDenom (Decimal.isChar_of_read? written) denom
    rw [first, second, if_pos denom, written, String.ofList_toList]
    rfl

end GasPrice

namespace Fee

theorem denoms_of_compute {gasLimit : UInt64} {price : GasPrice} {fee : Fee}
    (computed : Fee.compute gasLimit price = .ok fee) : fee.amount.map Coin.denom = [price.denom] := by
  obtain ⟨-, -, amount, -, rfl⟩ := compute_eq_ok_iff.mp computed
  simp

end Fee

namespace Settings

variable {s : Settings} {price : GasPrice}

theorem price_eq_ok_iff :
    s.price = .ok price ↔
      GasPrice.read? (Text.trim (Text.trim s.gasPrice.toList ++ s.nativeDenom.toList)) = some price := by
  have joined : (Text.trimmed s.gasPrice ++ s.nativeDenom).toList =
      Text.trim s.gasPrice.toList ++ s.nativeDenom.toList := by
    rw [String.toList_append, Text.trimmed, String.toList_ofList]
  unfold Settings.price GasPrice.parse
  rw [joined]
  cases GasPrice.read? (Text.trim (Text.trim s.gasPrice.toList ++ s.nativeDenom.toList)) with
  | none => simp [Except.mapError]
  | some read => simp [Except.mapError]

/-- The text of the amount writes an amount, and that of the token names a token. -/
def WritesPrice (s : Settings) : Prop :=
  (∃ amount, Decimal.parse (Text.trimmed s.gasPrice) = .ok amount) ∧
    isDenom s.nativeDenom.toList = true

theorem parse_gasPrice_iff {amount : Decimal} :
    Decimal.parse (Text.trimmed s.gasPrice) = .ok amount ↔
      Decimal.read? (Text.trim s.gasPrice.toList) = some amount := by
  unfold Decimal.parse Text.trimmed
  rw [String.toList_ofList]
  cases Decimal.read? (Text.trim s.gasPrice.toList) <;> simp

theorem trim_joined (denom : isDenom s.nativeDenom.toList = true) :
    Text.trim (Text.trim s.gasPrice.toList ++ s.nativeDenom.toList) =
      Text.trim s.gasPrice.toList ++ s.nativeDenom.toList := by
  have visible : ∀ c ∈ s.nativeDenom.toList, Text.isBlank c = false :=
    fun c inside => not_isBlank_of_isDenomChar (isDenomChar_of_isDenom denom c inside)
  have some := ne_nil_of_isDenom denom
  apply Text.trim_eq_self
  · intro c first
    cases amount : Text.trim s.gasPrice.toList with
    | nil =>
      rw [amount, List.nil_append] at first
      exact visible c (List.mem_of_mem_head? first)
    | cons d rest =>
      rw [amount] at first
      exact Text.head?_trim _ c (by rwa [amount])
  · intro c last
    rw [List.getLast?_append_of_ne_nil _ some] at last
    exact visible c (List.mem_of_getLast? last)

/-- A price is in the native token exactly if the settings write a price; its amount is then the
written one. -/
theorem price_denom_iff (priced : s.price = .ok price) :
    (price.denom = s.nativeDenom ↔ s.WritesPrice) ∧
      (price.denom = s.nativeDenom → Decimal.parse (Text.trimmed s.gasPrice) = .ok price.amount) := by
  obtain ⟨amount, split, written, denom⟩ := GasPrice.read?_eq_some_iff.mp (price_eq_ok_iff.mp priced)
  have apart (native : price.denom = s.nativeDenom) :
      Decimal.parse (Text.trimmed s.gasPrice) = .ok price.amount := by
    rw [native] at split denom
    rw [trim_joined denom] at split
    rw [parse_gasPrice_iff, List.append_cancel_right split]
    exact written
  refine ⟨⟨fun native => ⟨⟨price.amount, apart native⟩, native ▸ denom⟩, ?_⟩, apart⟩
  intro writes
  obtain ⟨⟨whole, parsed⟩, named⟩ := writes
  have joined : s.price = .ok ⟨whole, s.nativeDenom⟩ := by
    refine price_eq_ok_iff.mpr (GasPrice.read?_eq_some_iff.mpr ?_)
    exact ⟨Text.trim s.gasPrice.toList, trim_joined named, parse_gasPrice_iff.mp parsed, named⟩
  rw [Except.ok.inj (priced.symm.trans joined)]

end Settings

namespace Session

variable {Q : Type} {R : Q → Type} {settle : (act : IdentityAct) → Dialogue Q R act.Reply}
  {made : List (Exchange Q R)} {c : Configuration} {s : Session}

/-- However its accounts came about, a session has the price, the native token and the label of its
settings. -/
theorem established_terms
    (ran : Transcript ((Session.establish c).run.expand settle) made (.ok s)) :
    c.settings.price = .ok s.gasPrice ∧ s.nativeDenom = c.settings.nativeDenom ∧
      s.label = c.settings.label := by
  rcases transcript_expand_bind.mp ran with ⟨_, ⟨⟩, -⟩ | ⟨_, deployer, _, rfl, -, next⟩
  rcases transcript_expand_bind.mp next with ⟨_, ⟨⟩, -⟩ | ⟨_, tester, _, rfl, -, last⟩
  rcases transcript_expand_bind.mp last with ⟨_, ⟨⟩, -⟩ | ⟨_, price, _, rfl, pricing, ended⟩
  obtain ⟨-, priced⟩ := transcript_expand_lift.mp pricing
  obtain ⟨-, same⟩ := transcript_expand_pure.mp ended
  cases same
  exact ⟨priced.symm, rfl, rfl⟩

/-- What a session pays with: the fee of its upload and its offer for gas are in the token of the
price, its funds in the native token. -/
structure Pays (s : Session) (settings : Settings) (price : GasPrice) : Prop where
  upload : ∀ fee, Fee.compute Fee.uploadGasLimit s.gasPrice = .ok fee →
    fee.amount.map Coin.denom = [price.denom]
  gas : ∀ env staging d, DaemonSetup.ofSettings settings env staging = .ok d →
    d.settings.gasPrice = toString price.amount ++ price.denom
  funds : ∀ amount coin, s.nativeFunds amount = some coin → coin.denom = settings.nativeDenom

theorem pays {settings : Settings} (native : s.nativeDenom = settings.nativeDenom)
    (priced : settings.price = .ok s.gasPrice) : s.Pays settings s.gasPrice where
  upload _ computed := Fee.denoms_of_compute computed
  gas env staging d settled := by
    obtain ⟨daemon, -, rest⟩ := except_bind_ok settled
    obtain ⟨settings, offering, made⟩ := except_bind_ok rest
    obtain ⟨price, offered, same⟩ := except_bind_ok offering
    obtain rfl := Except.ok.inj made
    obtain rfl := Except.ok.inj same
    rw [← Except.ok.inj (priced.symm.trans offered)]
    rfl
  funds amount coin funded := by
    unfold nativeFunds at funded
    split at funded
    · cases funded
    · rw [← Option.some.inj funded]
      exact native

end Session

namespace Configuration

/-- Every configuration that passes its checks has a price. The price is in the native token, with the
amount that is written, exactly if the settings write an amount and the name of a token; and exactly
then is everything that a session of the configuration pays in one token. -/
theorem price_in_native_token_iff (c : Configuration) (valid : c.validate = .ok ()) :
    ∃ price, c.settings.price = .ok price ∧
      (price.denom = c.settings.nativeDenom ∧
          Decimal.parse (Text.trimmed c.settings.gasPrice) = .ok price.amount ↔
        c.settings.WritesPrice) ∧
      ∀ (Q : Type) (R : Q → Type) (settle : (act : IdentityAct) → Dialogue Q R act.Reply)
        (respond : Respondent Q R) (session : Session),
        (((Session.establish c).run.expand settle).run respond []).1 = .ok session →
        session.gasPrice = price ∧ session.Pays c.settings price ∧
          (session.nativeDenom = session.gasPrice.denom ↔ c.settings.WritesPrice) := by
  obtain ⟨price, priced⟩ := price_of_valid valid
  obtain ⟨native, amount⟩ := Settings.price_denom_iff priced
  refine ⟨price, priced, ⟨fun both => native.mp both.1, ?_⟩, ?_⟩
  · intro writes
    have same := native.mpr writes
    exact ⟨same, amount same⟩
  · intro Q R settle respond session established
    have ran := transcript_of_run respond ((Session.establish c).run.expand settle)
    rw [established] at ran
    obtain ⟨terms, denom, -⟩ := Session.established_terms ran
    obtain rfl := Except.ok.inj (priced.symm.trans terms)
    exact ⟨rfl, session.pays denom priced, by rw [denom, eq_comm, native]⟩

def glued : Configuration where
  settings := { Settings.standard with gasPrice := "0.02", nativeDenom := "5ustake" }
  deployerMnemonic := none
  testerMnemonic := none

theorem glued_valid : glued.validate = .ok () := by decide +kernel

theorem price_in_native_token_iff_glued :
    glued.validate = .ok () ∧
    ∃ price, glued.settings.price = .ok price ∧
      (price.denom = "5ustake" ∧ Decimal.parse (Text.trimmed "0.02") = .ok price.amount ↔
        glued.settings.WritesPrice) ∧
      ∀ (Q : Type) (R : Q → Type) (settle : (act : IdentityAct) → Dialogue Q R act.Reply)
        (respond : Respondent Q R) (session : Session),
        (((Session.establish glued).run.expand settle).run respond []).1 = .ok session →
        session.gasPrice = price ∧ session.Pays glued.settings price ∧
          (session.nativeDenom = session.gasPrice.denom ↔ glued.settings.WritesPrice) :=
  ⟨glued_valid, price_in_native_token_iff glued glued_valid⟩

/-- So the price of a configuration that passes its checks can be in another token, and more than the
amount that is written. -/
theorem price_not_always_in_native_token :
    ¬ ∀ c : Configuration, c.validate = .ok () → ∃ price, c.settings.price = .ok price ∧
      price.denom = c.settings.nativeDenom ∧
      Decimal.parse (Text.trimmed c.settings.gasPrice) = .ok price.amount := by
  intro always
  obtain ⟨price, priced, native, -⟩ := always glued glued_valid
  have read : glued.settings.price = .ok ⟨⟨25000000000000000, by decide⟩, "ustake"⟩ := by
    decide +kernel
  rw [read] at priced
  obtain rfl := Except.ok.inj priced
  revert native
  decide

end Configuration

end ContractLaunch
