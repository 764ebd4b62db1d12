import ContractLaunch.Session.Basic
import ContractLaunch.Settings.Validation
/-!
Establishing a session. For each account in turn its mnemonic is turned into a key and an address,
and the account is connected to the chain; the first thing that is missing or fails is the fault.
-/
namespace ContractLaunch

inductive IdentityAct where
  | derive (role : Role) (mnemonic : Mnemonic) (addressPrefix : String)
  | connect (account : Account)

@[reducible] def IdentityAct.Answer : IdentityAct → Type
  | derive .. => Account
  | connect _ => Unit

abbrev IdentityAct.Reply (act : IdentityAct) : Type := Except ClientFault act.Answer

namespace Session

abbrev Establishing (α : Type) := ExceptT DeployFault (Dialogue IdentityAct IdentityAct.Reply) α

def identify (role : Role) (act : IdentityAct) : Establishing act.Answer :=
  ExceptT.mk do
    let reply ← Dialogue.question act
    return reply.mapError (.identity role)

def establishAccount (c : Configuration) (role : Role) : Establishing Account := do
  let mnemonic ← c.mnemonic role
  let account ← identify role (.derive role mnemonic c.settings.addressPrefix)
  identify role (.connect account)
  return account

def establish (c : Configuration) : Establishing Session := do
  let deployer ← establishAccount c .deployer
  let tester ← establishAccount c .tester
  let price ← c.settings.price
  return { start deployer tester price with
    nativeDenom := c.settings.nativeDenom
    label := c.settings.label }

end Session

end ContractLaunch
