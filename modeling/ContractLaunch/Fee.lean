import ContractLaunch.Coin
import ContractLaunch.Text.Blank
/-!
Gas prices and fees. A gas price is a decimal amount followed by the name of a token; the fee of a
gas limit is the limit times the price, rounded up to a whole coin.
-/
namespace ContractLaunch

inductive FeeFault where
  | zeroGasLimit
  | invalidGasPrice (text : String)
  | invalidDecimal (text : String)
  | overflow (gasLimit : UInt64)
  deriving DecidableEq

def FeeFault.message : FeeFault → String
  | .zeroGasLimit => "gas limit must be positive"
  | .invalidGasPrice text => "invalid gas price " ++ Text.quoted text
  | .invalidDecimal text => "invalid decimal " ++ Text.quoted text
  | .overflow gasLimit => "fee amount overflows for gas limit " ++ toString gasLimit

def Decimal.parse (s : String) : Except FeeFault Decimal :=
  match Decimal.read? s.toList with
  | some d => .ok d
  | none => .error (.invalidDecimal s)

def isDenomChar (c : Char) : Bool := c.isAlphanum || ['/', ':', '.', '_', '-'].contains c

/-- Whether a text names a token: an ASCII letter and 2 to 127 further letters, digits or
punctuation characters of token names. -/
def isDenom : List Char → Bool
  | [] => false
  | c :: rest => c.isAlpha && rest.all isDenomChar && 2 ≤ rest.length && rest.length ≤ 127

structure GasPrice where
  amount : Decimal
  denom : String
  deriving DecidableEq

namespace GasPrice

instance : ToString GasPrice := ⟨fun p => toString p.amount ++ p.denom⟩

/-- The price that a text writes: the digits and points at its start are the amount, the rest names
the token. -/
def read? (cs : List Char) : Option GasPrice :=
  let isAmountChar (c : Char) : Bool := c.isDigit || c = '.'
  let denom := cs.dropWhile isAmountChar
  if isDenom denom then
    (Decimal.read? (cs.takeWhile isAmountChar)).map (⟨·, String.ofList denom⟩)
  else none

/-- The price that a text writes, blanks around it ignored, or the fault that quotes the text. -/
def parse (s : String) : Except FeeFault GasPrice :=
  match read? (Text.trim s.toList) with
  | some price => .ok price
  | none => .error (.invalidGasPrice s)

end GasPrice

structure Fee where
  gasLimit : UInt64
  amount : List Coin
  deriving DecidableEq

namespace Fee

def uploadGasLimit : UInt64 := 3000000

/-- The fee for a gas limit at a price. The product of limit and atoms has to fit in 128 bits; the
amount is the least whole number of coins that covers it. -/
def compute (gasLimit : UInt64) (price : GasPrice) : Except FeeFault Fee :=
  if gasLimit = 0 then .error .zeroGasLimit
  else
    let product := price.amount.atoms.val * gasLimit.toNat
    if h : product < Amount.size then
      let amount : Amount := ⟨(product + (Decimal.one - 1)) / Decimal.one, by
        have one_eq : Decimal.one = 1000000000000000000 := rfl
        simp only [one_eq]; omega⟩
      .ok ⟨gasLimit, [⟨price.denom, amount⟩]⟩
    else .error (.overflow gasLimit)

end Fee

/-- How the fee of a signed transaction is chosen. -/
inductive FeeSelection where
  | fixed (fee : Fee)
  | auto
  deriving DecidableEq

end ContractLaunch
