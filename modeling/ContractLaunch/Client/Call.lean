import ContractLaunch.Client.Fault
import ContractLaunch.Client.Response
import ContractLaunch.Fee
import ContractLaunch.Json.Basic
import ContractLaunch.Text.Utf8
/-!
What a deployment can ask of a chain client. Messages to contracts are JSON values that only the
contract understands.
-/
namespace ContractLaunch

/-- A call of a chain client. All but queries are signed by the sender. -/
inductive ClientCall where
  | upload (sender : String) (bytecode : Bytes) (fee : Fee) (memo : String)
  | instantiate (sender : String) (codeId : CodeId) (message : Json) (label : String)
      (fee : FeeSelection)
  | execute (sender : String) (contract : String) (message : Json) (fee : FeeSelection)
      (memo : String) (funds : List Coin)
  | query (contract : String) (message : Json)

namespace ClientCall

@[reducible] def Answer : ClientCall → Type
  | upload .. => StoreResponse
  | instantiate .. => InstantiateResponse
  | execute .. => Receipt
  | query .. => Json

abbrev Reply (c : ClientCall) : Type := Except ClientFault c.Answer

def isSigned : ClientCall → Bool
  | query .. => false
  | _ => true

end ClientCall

end ContractLaunch
