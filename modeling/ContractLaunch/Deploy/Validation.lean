import ContractLaunch.Client.Response
import ContractLaunch.Deploy.Fault
/-!
Accepting responses. A response that reports success without a usable identifier is a fault of its
step; the other figures of an accepted response are kept as they are.
-/
namespace ContractLaunch

def StoreResponse.validate (r : StoreResponse) : Except DeployFault StoredCode :=
  match r.codeId with
  | none => .error (.invalidResponse .storeCode "no code id in response")
  | some raw =>
    match CodeId.read? raw with
    | some codeId => .ok ⟨r.hash, codeId, r.gasWanted, r.gasUsed⟩
    | none =>
      .error (.invalidResponse .storeCode
        ("code id " ++ Text.quoted raw ++ " is not a positive integer"))

/-- An instantiate response is accepted if it names an address that is not blank. -/
def InstantiateResponse.validate (r : InstantiateResponse) : Except DeployFault LiveContract :=
  match (r.address.map Text.trimmed).filter (!·.isEmpty) with
  | some address => .ok ⟨r.hash, address, r.gasWanted, r.gasUsed⟩
  | none => .error (.invalidResponse .instantiate "no contract address in response")

end ContractLaunch
