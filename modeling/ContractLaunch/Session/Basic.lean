import ContractLaunch.Account
import ContractLaunch.Client.Call
import ContractLaunch.Dialogue
/-!
A deployment session: the two accounts and the settings that all its tasks share. Signed calls of one
account must not overlap, so a task takes the account's lock before a signed call and gives it back
when the call is answered.
-/
namespace ContractLaunch

/-- What a task of a session does to the world outside it. -/
inductive Act where
  /-- Waits for the lock of an account and takes it. -/
  | acquire (role : Role)
  | release (role : Role)
  | call (role : Role) (call : ClientCall)

@[reducible] def Act.Reply : Act → Type
  | acquire _ => Unit
  | release _ => Unit
  | call _ c => c.Reply

abbrev Program (α : Type) := Dialogue Act Act.Reply α

structure Session where
  deployer : Account
  tester : Account
  gasPrice : GasPrice
  nativeDenom : String
  label : String
  uploadMemo : String
  executeMemo : String

namespace Session

def defaultLabel : String := "instantiation contract"

def defaultUploadMemo : String := "Upload contract code"

def defaultExecuteMemo : String := "execute a message"

def start (deployer tester : Account) (gasPrice : GasPrice) : Session where
  deployer
  tester
  gasPrice
  nativeDenom := gasPrice.denom
  label := defaultLabel
  uploadMemo := defaultUploadMemo
  executeMemo := defaultExecuteMemo

def account (s : Session) : Role → Account
  | .deployer => s.deployer
  | .tester => s.tester

def nativeFunds (s : Session) (amount : Amount) : Option Coin :=
  if amount.val = 0 then none else some ⟨s.nativeDenom, amount⟩

/-- A signed call, made while holding the lock of the account. -/
def signed (role : Role) (c : ClientCall) : Program c.Reply := do
  Dialogue.question (Act.acquire role)
  let reply ← Dialogue.question (R := Act.Reply) (Act.call role c)
  Dialogue.question (Act.release role)
  return reply

end Session

end ContractLaunch
