import ContractLaunch.Main
import ContractLaunch.Records
import ContractLaunch.Session.Interleaving
import ContractLaunch.Proofs.Daemon.Refusal
import ContractLaunch.Proofs.Setup.Sequence
import ContractLaunch.Proofs.Setup.Success
import ContractLaunch.Proofs.Session.Deploys
import ContractLaunch.Proofs.Session.Ending
import ContractLaunch.Proofs.Session.Exclusion
import ContractLaunch.Proofs.Session.Line
import ContractLaunch.Proofs.Session.SequenceLock
import ContractLaunch.Proofs.Session.Completion
import ContractLaunch.Proofs.Session.Scripts
import ContractLaunch.Proofs.Setup.Secrecy
import ContractLaunch.Proofs.Session.Recovery
import ContractLaunch.Proofs.Deploy.Verdict
import ContractLaunch.Proofs.Setup.Precheck
import ContractLaunch.Proofs.Setup.Halves
import ContractLaunch.Proofs.Setup.Resumption
import ContractLaunch.Proofs.Settings.Price
import ContractLaunch.Proofs.Setup.Signers
import ContractLaunch.Proofs.Setup.Warning
import ContractLaunch.Proofs.Toml.Assignment
import ContractLaunch.Proofs.Settings.Hint
import ContractLaunch.Proofs.Daemon.Message
import ContractLaunch.Proofs.Daemon.Pending
import ContractLaunch.Proofs.Decimal.Printing
import ContractLaunch.Proofs.Settings.Offer
import ContractLaunch.Proofs.Daemon.Formats
import ContractLaunch.Proofs.Session.FailedStep
import ContractLaunch.Proofs.Deploy.Identifiers
import ContractLaunch.Proofs.Artifact
import ContractLaunch.Proofs.Setup.Identities
import ContractLaunch.Proofs.Daemon.Payload
import ContractLaunch.Proofs.Daemon.Excerpt
import ContractLaunch.Proofs.Coin
import ContractLaunch.Proofs.Json.Restoring
import ContractLaunch.Proofs.Settings.Restoring
import ContractLaunch.Proofs.Records
