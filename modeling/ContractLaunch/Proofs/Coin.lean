import ContractLaunch.Daemon.NodeClient
import ContractLaunch.Proofs.Settings.Price
import Mathlib
/-!
Coins on command lines. The text of a coin is an amount with the name of a token, and the joint shows; no
such text has a comma, so a list of coins is told by the texts between the commas. What a command says of
fees and of funds is therefore said of one fee and of one list of funds only.
-/
namespace ContractLaunch

namespace Coin

/-- Coins of tokens that have names as gas prices know them. -/
def Named (coins : List Coin) : Prop := ∀ c ∈ coins, isDenom c.denom.toList = true

def text (c : Coin) : List Char := Nat.toDigits 10 c.amount.val ++ c.denom.toList

variable {c c' : Coin} {coins coins' : List Coin}

theorem toList_toString (c : Coin) : (toString c).toList = c.text := by
  change (toString c.amount.val ++ c.denom).toList = _
  rw [String.toList_append]
  exact congrArg (· ++ _) Nat.toList_repr

theorem isChar_of_mem_toDigits {n : Nat} : ∀ d ∈ Nat.toDigits 10 n, Decimal.isChar d = true :=
  fun d inside => by simp [Decimal.isChar, Numeral.isDigit_of_mem_toDigits d inside]

/-- A coin is told by its text: the name of a token starts with a letter, where the amount ends. -/
theorem eq_of_text (named : isDenom c.denom.toList = true) (named' : isDenom c'.denom.toList = true)
    (same : c.text = c'.text) : c = c' := by
  obtain ⟨front, back⟩ := split_of_isDenom (isChar_of_mem_toDigits (n := c.amount.val)) named
  obtain ⟨front', back'⟩ := split_of_isDenom (isChar_of_mem_toDigits (n := c'.amount.val)) named'
  change c.text.takeWhile _ = _ at front
  change c.text.dropWhile _ = _ at back
  change c'.text.takeWhile _ = _ at front'
  change c'.text.dropWhile _ = _ at back'
  have amounts : c.amount.val = c'.amount.val := by
    rw [← Numeral.value_toDigits c.amount.val, ← front, same, front', Numeral.value_toDigits]
  have denoms : c.denom.toList = c'.denom.toList := by rw [← back, same, back']
  obtain ⟨denom, amount⟩ := c
  obtain ⟨denom', amount'⟩ := c'
  rw [mk.injEq]
  exact ⟨String.toList_injective denoms, Fin.ext amounts⟩

theorem comma_not_mem_text (named : isDenom c.denom.toList = true) : ',' ∉ c.text := by
  intro inside
  rcases List.mem_append.mp inside with amount | denom
  · exact absurd (Numeral.isDigit_of_mem_toDigits _ amount) (by decide)
  · exact absurd (isDenomChar_of_isDenom named _ denom) (by decide)

theorem text_ne_nil (c : Coin) : c.text ≠ [] :=
  List.append_ne_nil_of_left_ne_nil (Numeral.toDigits_ne_nil _) _

theorem toList_joined (coins : List Coin) : (joined coins).toList = [','].intercalate (coins.map text) := by
  rw [joined, String.toList_intercalate, List.map_map]
  exact congrArg _ (List.map_congr_left fun c _ => toList_toString c)

theorem splitOn_joined (named : Named coins) (filled : coins ≠ []) :
    (joined coins).toList.splitOn ',' = coins.map text := by
  rw [toList_joined]
  refine List.splitOn_intercalate ',' ?_ (List.map_eq_nil_iff.not.mpr filled)
  exact List.forall_mem_map.mpr fun c member => comma_not_mem_text (named c member)

theorem joined_eq_empty_iff : joined coins = "" ↔ coins = [] := by
  refine ⟨fun empty => ?_, fun none => none ▸ rfl⟩
  have nothing : [','].intercalate (coins.map text) = [] := by rw [← toList_joined, empty]; rfl
  cases coins with
  | nil => rfl
  | cons c others =>
    cases others with
    | nil =>
      rw [List.map_cons, List.map_nil, List.intercalate_singleton] at nothing
      exact absurd nothing c.text_ne_nil
    | cons d others =>
      rw [List.map_cons, List.map_cons, List.intercalate_cons_cons] at nothing
      simp [c.text_ne_nil] at nothing

theorem eq_of_texts (named : Named coins) (named' : Named coins')
    (same : coins.map text = coins'.map text) : coins = coins' := by
  induction coins generalizing coins' with
  | nil => exact (List.map_eq_nil_iff.mp same.symm).symm
  | cons c coins ih =>
    cases coins' with
    | nil => cases same
    | cons c' coins' =>
      obtain ⟨first, others⟩ := List.cons.inj same
      obtain ⟨head, tail⟩ := List.forall_mem_cons.mp named
      obtain ⟨head', tail'⟩ := List.forall_mem_cons.mp named'
      rw [eq_of_text head head' first, ih tail tail' others]

theorem joined_inj (named : Named coins) (named' : Named coins') :
    joined coins = joined coins' ↔ coins = coins' := by
  refine ⟨fun same => ?_, congrArg joined⟩
  by_cases none : coins = []
  · have empty : joined coins' = "" := by rw [← same, none]; rfl
    rw [none, joined_eq_empty_iff.mp empty]
  · have filled : coins' ≠ [] := by
      rintro rfl
      exact none (joined_eq_empty_iff.mp same)
    refine eq_of_texts named named' ?_
    rw [← splitOn_joined named none, same, splitOn_joined named' filled]

end Coin

namespace NodeClient

def NamedFee : FeeSelection → Prop
  | .fixed fee => Coin.Named fee.amount
  | .auto => True

variable {fee fee' : Fee} {chosen chosen' : FeeSelection} {funds funds' : List Coin}
  {settings settings' : TxSettings} {rest rest' : List String}

theorem fixedFee_inj (named : Coin.Named fee.amount) (named' : Coin.Named fee'.amount)
    (same : fixedFee fee ++ rest = fixedFee fee' ++ rest') : fee = fee' ∧ rest = rest' := by
  simp only [fixedFee, List.cons_append, List.nil_append, List.cons.injEq, true_and] at same
  obtain ⟨limits, amounts, others⟩ := same
  obtain ⟨limit, amount⟩ := fee
  obtain ⟨limit', amount'⟩ := fee'
  obtain rfl := Numeral.toString_inj.mp limits
  obtain rfl := (Coin.joined_inj named named').mp amounts
  exact ⟨rfl, others⟩

theorem toString_limit_ne_auto (limit : UInt64) : toString limit ≠ "auto" := by
  intro same
  have digits := Numeral.toList_toString limit
  rw [same] at digits
  have letter : 'a' ∈ Nat.toDigits 10 limit.toNat := by rw [← digits]; decide
  exact absurd (Numeral.isDigit_of_mem_toDigits _ letter) (by decide)

theorem feeFlags_inj (named : NamedFee chosen) (named' : NamedFee chosen')
    (same : feeFlags settings chosen ++ rest = feeFlags settings' chosen' ++ rest') : chosen = chosen' := by
  cases chosen with
  | fixed fee =>
    cases chosen' with
    | fixed fee' => rw [(fixedFee_inj named named' same).1]
    | auto =>
      obtain ⟨-, further⟩ := List.cons.inj same
      exact absurd (List.cons.inj further).1 (toString_limit_ne_auto fee.gasLimit)
  | auto =>
    cases chosen' with
    | fixed fee' =>
      obtain ⟨-, further⟩ := List.cons.inj same
      exact absurd (List.cons.inj further).1.symm (toString_limit_ne_auto fee'.gasLimit)
    | auto => rfl

theorem head?_feeFlags (settings : TxSettings) (chosen : FeeSelection) :
    (feeFlags settings chosen).head? = some "--gas" := by
  cases chosen <;> rfl

/-- Funds are told by their flag; where there are none, the flags of the fee follow at once. -/
theorem amountFlag_inj (named : Coin.Named funds) (named' : Coin.Named funds')
    (gas : rest.head? = some "--gas") (gas' : rest'.head? = some "--gas")
    (same : amountFlag funds ++ rest = amountFlag funds' ++ rest') : funds = funds' ∧ rest = rest' := by
  obtain ⟨after, rfl⟩ := List.head?_eq_some_iff.mp gas
  obtain ⟨after', rfl⟩ := List.head?_eq_some_iff.mp gas'
  cases funds with
  | nil =>
    cases funds' with
    | nil => exact ⟨rfl, same⟩
    | cons c' others' => simp [amountFlag] at same
  | cons c others =>
    cases funds' with
    | nil => simp [amountFlag] at same
    | cons c' others' =>
      simp only [amountFlag, List.isEmpty_cons, Bool.false_eq_true, if_false, List.cons_append,
        List.nil_append, List.cons.injEq, true_and] at same
      obtain ⟨texts, equal⟩ := same
      exact ⟨(Coin.joined_inj named named').mp texts, by simpa using equal⟩

/-- Lists of coins of named tokens are joined to the same text only if they are the same list, amounts and
tokens in order. So the arguments of a command tell which fee and which funds it was made with, whatever
else differs. -/
theorem coin_lists_unambiguous :
    (∀ coins coins', Coin.Named coins → Coin.Named coins' →
      Coin.joined coins = Coin.joined coins' → coins = coins') ∧
    (∀ (client client' : NodeClient) key key' code code' fee fee' memo memo',
      Coin.Named fee.amount → Coin.Named fee'.amount →
      client.storeArguments key code fee memo = client'.storeArguments key' code' fee' memo' →
      fee = fee') ∧
    (∀ (client client' : NodeClient) key key' codeId codeId' message message' label label' fee fee',
      NamedFee fee → NamedFee fee' →
      client.instantiateArguments key codeId message label fee =
        client'.instantiateArguments key' codeId' message' label' fee' →
      fee = fee') ∧
    ∀ (client client' : NodeClient) key key' contract contract' message message' fee fee' memo memo'
      funds funds', NamedFee fee → NamedFee fee' → Coin.Named funds → Coin.Named funds' →
      client.executeArguments key contract message fee memo funds =
        client'.executeArguments key' contract' message' fee' memo' funds' →
      fee = fee' ∧ funds = funds' := by
  refine ⟨fun coins coins' named named' => (Coin.joined_inj named named').mp, ?_, ?_, ?_⟩
  · intro client client' key key' code code' fee fee' memo memo' named named' same
    have texts : (fixedFee fee ++ memoFlag memo ++ client.daemon.txFlags key).map Argument.text =
        (fixedFee fee' ++ memoFlag memo' ++ client'.daemon.txFlags key').map Argument.text :=
      congrArg (List.drop 4) same
    have flags := List.map_injective_iff.mpr (fun _ _ => Argument.text.inj) texts
    rw [List.append_assoc, List.append_assoc] at flags
    exact (fixedFee_inj named named' flags).1
  · intro client client' key key' codeId codeId' message message' label label' fee fee' named named' same
    have flags : feeFlags client.settings fee ++ client.daemon.txFlags key =
        feeFlags client'.settings fee' ++ client'.daemon.txFlags key' := congrArg (List.drop 8) same
    exact feeFlags_inj named named' flags
  · intro client client' key key' contract contract' message message' fee fee' memo memo' funds funds'
      paid paid' named named' same
    have flags : amountFlag funds ++ feeFlags client.settings fee ++ memoFlag memo ++
        client.daemon.txFlags key = amountFlag funds' ++ feeFlags client'.settings fee' ++ memoFlag memo' ++
        client'.daemon.txFlags key' := congrArg (List.drop 5) same
    simp only [List.append_assoc] at flags
    have gas (settings : TxSettings) (fee : FeeSelection) (rest : List String) :
        (feeFlags settings fee ++ rest).head? = some "--gas" := by
      rw [List.head?_append, head?_feeFlags]
      rfl
    obtain ⟨same, after⟩ := amountFlag_inj named named' (gas ..) (gas ..) flags
    exact ⟨feeFlags_inj paid paid' after, same⟩

section Crossed

/-- Two coins whose texts hold digits and points on both sides of the joint. -/
def crossed : List Coin := [⟨"x1.2", Amount.wrap (Amount.size - 1)⟩, ⟨"ibc/0", Amount.wrap 0⟩]

def payer : NodeClient :=
  ⟨⟨"wasmd", "http://localhost:26657", "localwasm", "test", none⟩, ⟨"0.025ustake", 30, 1⟩, none,
    fun _ => none⟩

def spending (funds : List Coin) : List String :=
  payer.executeArguments ⟨"cwdeploy-tester"⟩ "wasm1counter" .empty (.fixed ⟨200000, crossed⟩) "" funds

theorem coin_lists_unambiguous_crossed :
    Coin.Named crossed ∧ Coin.Named crossed.reverse ∧ crossed ≠ crossed.reverse ∧
    Coin.joined crossed ≠ Coin.joined crossed.reverse ∧
    spending crossed ≠ spending crossed.reverse ∧ spending crossed ≠ spending [] := by
  have named : Coin.Named crossed := by simp only [Coin.Named]; decide
  have named' : Coin.Named crossed.reverse := by simp only [Coin.Named]; decide
  have apart : crossed ≠ crossed.reverse := by decide
  have paid : NamedFee (.fixed ⟨200000, crossed⟩) := named
  obtain ⟨lists, -, -, executes⟩ := coin_lists_unambiguous
  refine ⟨named, named', apart, fun same => ?_, fun same => ?_, fun same => ?_⟩
  · exact apart (lists _ _ named named' same)
  · exact apart (executes _ _ _ _ _ _ _ _ _ _ _ _ _ _ paid paid named named' same).2
  · have none : Coin.Named [] := List.forall_mem_nil _
    have empty : crossed = [] := (executes _ _ _ _ _ _ _ _ _ _ _ _ _ _ paid paid named none same).2
    cases empty

end Crossed

end NodeClient

end ContractLaunch
