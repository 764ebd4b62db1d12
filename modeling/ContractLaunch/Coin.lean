import ContractLaunch.Decimal
/-!
Coins: an amount of one token.
-/
namespace ContractLaunch

structure Coin where
  denom : String
  amount : Amount
  deriving DecidableEq

namespace Coin

def isZero (c : Coin) : Bool := c.amount.val == 0

instance : ToString Coin := ⟨fun c => toString c.amount.val ++ c.denom⟩

def joined (coins : List Coin) : String := ",".intercalate (coins.map toString)

end Coin

end ContractLaunch
