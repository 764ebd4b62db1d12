import ContractLaunch.Deploy.Validation
/-!
What validation accepts, and what it makes of it.
-/
namespace ContractLaunch

theorem StoreResponse.validate_eq_ok_iff {r : StoreResponse} {stored : StoredCode} :
    r.validate = .ok stored ↔
      ∃ codeId, r.codeId.bind CodeId.read? = some codeId ∧
        stored = ⟨r.hash, codeId, r.gasWanted, r.gasUsed⟩ := by
  unfold StoreResponse.validate
  cases r.codeId with
  | none => simp
  | some raw =>
    rw [Option.bind_some]
    dsimp only
    cases CodeId.read? raw with
    | none => simp
    | some codeId =>
      rw [Except.ok.injEq, eq_comm]
      simp

theorem StoreResponse.fault_of_validate {r : StoreResponse} {fault : DeployFault}
    (refused : r.validate = .error fault) : ∃ detail, fault = .invalidResponse .storeCode detail := by
  unfold validate at refused
  split at refused
  · exact ⟨_, (Except.error.inj refused).symm⟩
  · split at refused
    · contradiction
    · exact ⟨_, (Except.error.inj refused).symm⟩

theorem InstantiateResponse.validate_eq_ok_iff {r : InstantiateResponse} {contract : LiveContract} :
    r.validate = .ok contract ↔
      ∃ address, r.address.map Text.trimmed = some address ∧ address ≠ "" ∧
        contract = ⟨r.hash, address, r.gasWanted, r.gasUsed⟩ := by
  unfold InstantiateResponse.validate
  cases r.address.map Text.trimmed with
  | none => simp
  | some address =>
    by_cases blank : address = ""
    · subst blank
      simp [show Option.filter (fun s : String => !s.isEmpty) (some "") = none from rfl]
    · have kept : Option.filter (fun s : String => !s.isEmpty) (some address) = some address := by
        simp [Option.filter_some, blank]
      rw [kept]
      dsimp only
      rw [Except.ok.injEq, eq_comm]
      simp [blank]

theorem InstantiateResponse.fault_of_validate {r : InstantiateResponse} {fault : DeployFault}
    (refused : r.validate = .error fault) :
    fault = .invalidResponse .instantiate "no contract address in response" := by
  unfold validate at refused
  split at refused
  · contradiction
  · exact (Except.error.inj refused).symm

end ContractLaunch
