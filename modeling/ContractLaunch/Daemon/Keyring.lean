import ContractLaunch.Daemon.Command
/-!
Keys in the daemon's keyring. Each account has one entry, replaced whenever its mnemonic is imported,
so that no old key ever signs. The mnemonic goes to the daemon as input, never as an argument.
-/
namespace ContractLaunch.Keyring

def entry (role : Role) : KeyName := ⟨"cwdeploy-" ++ role.name⟩

def command (d : Daemon) (parts : List String) : List String := "keys" :: parts ++ d.keyringFlags

/-- What a failed keyring command means: the key is unusable, unless the daemon gave no verdict. -/
def fault : CommandFault → ClientFault
  | .failed _ _ text => .signature text
  | other => other.clientFault

/-- Puts a mnemonic into the keyring in place of what its entry held. Whether there was an old entry
does not matter. -/
def recover (d : Daemon) (entry : KeyName) (words : String) : Commands (Except ClientFault Unit) := do
  discard <| d.run (command d ["delete", entry.name, "-y"])
  let added ← d.runWithInput (command d ["add", entry.name, "--recover"]) (Text.trimmed words ++ "\n")
  return (added.map fun _ => ()).mapError fault

/-- The account whose address the daemon shows, when it has the prefix of the chain. -/
def accountOf (role : Role) (addressPrefix shown : String) : Except ClientFault Account :=
  let address := Text.trimmed shown
  if (Text.afterStart? (addressPrefix.toList ++ ['1']) address.toList).isSome then
    .ok ⟨role, address, entry role⟩
  else
    .error (.signature ("derived address " ++ CommandFault.quote address ++
      " does not use prefix " ++ CommandFault.quote addressPrefix))

def derive (d : Daemon) (role : Role) (words addressPrefix : String) :
    Commands (Except ClientFault Account) := do
  match ← recover d (entry role) words with
  | .error fault => return .error fault
  | .ok () =>
    let shown ← d.run (command d ["show", (entry role).name, "-a"])
    return (shown.mapError fault).bind (accountOf role addressPrefix)

end ContractLaunch.Keyring
