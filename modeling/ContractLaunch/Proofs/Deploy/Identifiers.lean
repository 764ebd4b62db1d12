import ContractLaunch.Proofs.Deploy.Validation
import ContractLaunch.Proofs.Text.Lines
import ContractLaunch.Proofs.Text.Numeral
import Mathlib
/-!
The identifiers that a chain reports. A code id is usable if its text, without the blanks around it,
writes a positive number of 64 bits, and an address if it is not all blank; exactly the responses with
a usable identifier are accepted, and what is accepted of them is the number and the text themselves.
-/
namespace ContractLaunch

namespace CodeId

theorem ofUInt64?_eq_some_iff {n : UInt64} {codeId : CodeId} :
    ofUInt64? n = some codeId ↔ codeId.value = n := by
  unfold ofUInt64?
  obtain ⟨value, positive⟩ := codeId
  constructor
  · intro found
    split at found
    next => exact congrArg CodeId.value (Option.some.inj found).symm
    next => contradiction
  · rintro rfl
    rw [dif_pos positive]

theorem pos (codeId : CodeId) : 1 ≤ codeId.value.toNat := UInt64.lt_iff_toNat_lt.mp codeId.positive

theorem read?_eq_some_iff {s : String} {codeId : CodeId} :
    read? s = some codeId ↔ Numeral.Writes codeId.value.toNat (Text.trim s.toList) := by
  unfold read?
  rw [Option.bind_eq_some_iff, ← Numeral.readUInt64?_eq_some_iff]
  simp only [ofUInt64?_eq_some_iff]
  exact exists_eq_right'

theorem read?_display (codeId : CodeId) {before after : List Char}
    (blank : before.all Text.isBlank = true) (blank' : after.all Text.isBlank = true) :
    read? (String.ofList (before ++ (toString codeId).toList ++ after)) = some codeId := by
  have digits : (toString codeId).toList = Nat.toDigits 10 codeId.value.toNat :=
    Numeral.toList_toString codeId.value
  have visible : ∀ c ∈ (toString codeId).toList, Text.isBlank c = false := by
    intro c inside
    rw [digits] at inside
    exact Text.isBlank_of_isDigit (Numeral.isDigit_of_mem_toDigits c inside)
  have core : Text.trim (before ++ (toString codeId).toList ++ after) = (toString codeId).toList :=
    Text.trim_eq_iff.mpr ⟨⟨before, after, rfl, blank, blank'⟩,
      fun c first => visible c (List.mem_of_mem_head? first),
      fun c last => visible c (List.mem_of_getLast? last)⟩
  rw [read?_eq_some_iff, String.toList_ofList, core, digits]
  exact Numeral.writes_toDigits _

end CodeId

/-- The response has a text as its code id that writes a number between its blanks. -/
def StoreResponse.Reports (r : StoreResponse) (n : Nat) : Prop :=
  ∃ raw core, r.codeId = some raw ∧ Text.Trims raw.toList core ∧ Numeral.Writes n core

def StoreResponse.complaint (r : StoreResponse) : String :=
  match r.codeId with
  | none => "no code id in response"
  | some raw => "code id " ++ Text.quoted raw ++ " is not a positive integer"

namespace StoreResponse

variable {r : StoreResponse}

theorem read?_eq_some_iff {codeId : CodeId} :
    r.codeId.bind CodeId.read? = some codeId ↔ r.Reports codeId.value.toNat := by
  rw [Option.bind_eq_some_iff]
  refine exists_congr fun raw => ?_
  rw [CodeId.read?_eq_some_iff]
  constructor
  · rintro ⟨given, writes⟩
    exact ⟨_, given, Text.trims_trim _, writes⟩
  · rintro ⟨_, given, trims, writes⟩
    rw [Text.trim_eq_iff.mpr trims]
    exact ⟨given, writes⟩

theorem accepted_iff {stored : StoredCode} : r.validate = .ok stored ↔
    r.Reports stored.codeId.value.toNat ∧
      stored = ⟨r.hash, stored.codeId, r.gasWanted, r.gasUsed⟩ := by
  rw [validate_eq_ok_iff, ← read?_eq_some_iff]
  constructor
  · rintro ⟨codeId, found, rfl⟩
    exact ⟨found, rfl⟩
  · rintro ⟨found, same⟩
    exact ⟨stored.codeId, found, same⟩

theorem exists_accepted_iff :
    (∃ stored, r.validate = .ok stored) ↔ ∃ n, r.Reports n ∧ 1 ≤ n ∧ n ≤ 2 ^ 64 - 1 := by
  constructor
  · rintro ⟨stored, accepted⟩
    have bound : stored.codeId.value.toNat < 2 ^ 64 := stored.codeId.value.toNat_lt
    exact ⟨_, (accepted_iff.mp accepted).1, stored.codeId.pos, by omega⟩
  · rintro ⟨n, reports, positive, bound⟩
    have below : n < UInt64.size := Nat.lt_of_le_sub_one (by decide) bound
    have exact : (UInt64.ofNat n).toNat = n := UInt64.toNat_ofNat_of_lt' below
    have nonzero : 0 < UInt64.ofNat n := by
      rw [UInt64.lt_iff_toNat_lt, exact]
      exact positive
    rw [← exact] at reports
    exact ⟨⟨r.hash, ⟨UInt64.ofNat n, nonzero⟩, r.gasWanted, r.gasUsed⟩, accepted_iff.mpr ⟨reports, rfl⟩⟩

theorem refused {fault : DeployFault} (refused : r.validate = .error fault) :
    fault = .invalidResponse .storeCode r.complaint := by
  unfold validate at refused
  unfold complaint
  generalize r.codeId = reported at refused ⊢
  cases reported with
  | none => exact (Except.error.inj refused).symm
  | some raw =>
    dsimp only at refused ⊢
    split at refused
    next => contradiction
    next => exact (Except.error.inj refused).symm

end StoreResponse

namespace InstantiateResponse

variable {r : InstantiateResponse}

theorem accepted_iff {contract : LiveContract} : r.validate = .ok contract ↔
    contract.address ≠ "" ∧
      (∃ raw, r.address = some raw ∧ Text.Trims raw.toList contract.address.toList) ∧
      contract = ⟨r.hash, contract.address, r.gasWanted, r.gasUsed⟩ := by
  simp only [validate_eq_ok_iff, Option.map_eq_some_iff, Text.trimmed_eq_iff]
  constructor
  · rintro ⟨address, found, filled, rfl⟩
    exact ⟨filled, found, rfl⟩
  · rintro ⟨filled, found, same⟩
    exact ⟨contract.address, found, filled, same⟩

theorem exists_accepted_iff : (∃ contract, r.validate = .ok contract) ↔
    ∃ raw, r.address = some raw ∧ Text.isAllBlank raw = false := by
  have filled {raw : String} : Text.trimmed raw ≠ "" ↔ Text.isAllBlank raw = false := by
    rw [← Text.isEmpty_trimmed, Bool.eq_false_iff, ne_eq, ne_eq, String.isEmpty_iff]
  simp only [validate_eq_ok_iff, Option.map_eq_some_iff]
  constructor
  · rintro ⟨_, _, ⟨raw, given, rfl⟩, some, -⟩
    exact ⟨raw, given, filled.mp some⟩
  · rintro ⟨raw, given, some⟩
    exact ⟨_, _, ⟨raw, given, rfl⟩, filled.mpr some, rfl⟩

end InstantiateResponse

/-- Of the responses to an upload exactly those are accepted that report a positive number of 64 bits,
and of those to an instantiation the ones with an address that is not all blank. The number, the address
without the blanks around it and all else of the response are kept; every other response is a fault of
its step. Code ids are reported in a form that is read back. -/
theorem usable_identifiers :
    (∀ r : StoreResponse,
      ((∃ stored, r.validate = .ok stored) ↔ ∃ n, r.Reports n ∧ 1 ≤ n ∧ n ≤ 2 ^ 64 - 1) ∧
      (∀ stored, r.validate = .ok stored ↔ r.Reports stored.codeId.value.toNat ∧
        stored = ⟨r.hash, stored.codeId, r.gasWanted, r.gasUsed⟩) ∧
      ∀ fault, r.validate = .error fault → fault = .invalidResponse .storeCode r.complaint) ∧
    (∀ (codeId : CodeId) (before after : List Char), before.all Text.isBlank = true →
      after.all Text.isBlank = true →
      CodeId.read? (String.ofList (before ++ (toString codeId).toList ++ after)) = some codeId) ∧
    ∀ r : InstantiateResponse,
      ((∃ contract, r.validate = .ok contract) ↔
        ∃ raw, r.address = some raw ∧ Text.isAllBlank raw = false) ∧
      (∀ contract, r.validate = .ok contract ↔ contract.address ≠ "" ∧
        (∃ raw, r.address = some raw ∧ Text.Trims raw.toList contract.address.toList) ∧
        contract = ⟨r.hash, contract.address, r.gasWanted, r.gasUsed⟩) ∧
      ∀ fault, r.validate = .error fault →
        fault = .invalidResponse .instantiate "no contract address in response" := by
  refine ⟨fun r => ?_, fun codeId before after blank blank' => codeId.read?_display blank blank',
    fun r => ?_⟩
  · exact ⟨StoreResponse.exists_accepted_iff, fun _ => StoreResponse.accepted_iff,
      fun _ => StoreResponse.refused⟩
  · exact ⟨InstantiateResponse.exists_accepted_iff, fun _ => InstantiateResponse.accepted_iff,
      fun _ => InstantiateResponse.fault_of_validate⟩

def paddedStored : StoreResponse := ⟨"H1", some " +0043\u00A0", 3000000, 2143511⟩

theorem usable_identifiers_padded :
    let codeId : CodeId := ⟨43, by decide⟩
    let after : List Char := ['\u3000']
    paddedStored.Reports codeId.value.toNat ∧
    paddedStored.validate = .ok ⟨"H1", codeId, 3000000, 2143511⟩ ∧
    after.all Text.isBlank = true ∧
    CodeId.read? (String.ofList ([] ++ (toString codeId).toList ++ after)) = some codeId := by
  intro codeId after
  have trims : Text.Trims " +0043\u00A0".toList ['+', '0', '0', '4', '3'] := by
    refine ⟨⟨[' '], ['\u00A0'], rfl, rfl, rfl⟩, fun c first => ?_, fun c last => ?_⟩
    · obtain rfl := Option.some.inj first
      rfl
    · obtain rfl := Option.some.inj last
      rfl
  have reports : paddedStored.Reports codeId.value.toNat :=
    ⟨_, _, rfl, trims, .signed ['0', '0', '4', '3'] (List.all_eq_true.mp rfl) nofun rfl⟩
  have blank : after.all Text.isBlank = true := rfl
  obtain ⟨stores, displays, -⟩ := usable_identifiers
  exact ⟨reports, ((stores paddedStored).2.1 ⟨"H1", codeId, 3000000, 2143511⟩).mpr ⟨reports, rfl⟩, blank,
    displays codeId [] after rfl blank⟩

end ContractLaunch
