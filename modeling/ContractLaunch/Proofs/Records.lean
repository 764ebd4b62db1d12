import ContractLaunch.Proofs.Deploy.Identifiers
import ContractLaunch.Proofs.Json.Restoring
import ContractLaunch.Proofs.Settings.Restoring
import ContractLaunch.Records
import Mathlib
/-!
Records that are read back from their JSON text. What is written for a record holds each field under its
name, in a form from which the field is read; a configuration loses its mnemonics on the way and nothing
else. No text is read as a code id of zero.
-/
namespace ContractLaunch

open Json

def RoundTrips (α : Type) [JsonForm α] : Prop :=
  ∀ a : α, JsonForm.ofText? α (JsonForm.toText a) = some a

section Parts

theorem restores_codeId (id : CodeId) : Restores JsonForm.read (JsonForm.write id) id 0 :=
  (restores_uint64 id.value).bind (CodeId.ofUInt64?_eq_some_iff.mpr rfl)

theorem restores_amount (a : Amount) : Restores JsonForm.read (JsonForm.write a) a 0 := by
  have restores := (restores_natBelow a.isLt).map Amount.wrap
  have same : Amount.wrap a.val = a := Fin.ofNat_val_eq_self a
  rwa [same] at restores

theorem restores_coin (c : Coin) : Restores JsonForm.read (JsonForm.write c) c 1 := by
  have denom := restores_text c.denom
  have amount := restores_amount c.amount
  refine restores_record rfl (by decide) ?_ fun r room deep held => ?_
  · simp only [List.forall_mem_cons]
    exact ⟨denom.printed, amount.printed, nofun⟩
  · simp only [List.forall_mem_cons] at held
    simp [denom.required held.1 deep, amount.required held.2.1 deep]

theorem restores_fee (fee : Fee) : Restores JsonForm.read (JsonForm.write fee) fee 3 := by
  have limit := restores_uint64 fee.gasLimit
  have amount : Restores JsonForm.read (JsonForm.write fee.amount) fee.amount 2 :=
    restores_list restores_coin fee.amount
  refine restores_record rfl (by decide) ?_ fun r room deep held => ?_
  · simp only [List.forall_mem_cons]
    exact ⟨limit.printed, amount.printed, nofun⟩
  · simp only [List.forall_mem_cons] at held
    simp [limit.required held.1 (Nat.zero_le room), amount.required held.2.1 deep]

theorem restores_role (role : Role) : Restores JsonForm.read (JsonForm.write role) role 0 := by
  cases role with
  | deployer => exact .of_written rfl fun _ _ => rfl
  | tester => exact .of_written rfl fun _ _ => rfl

end Parts

section Records

theorem restores_outcome {α β : Type} {name : String} {j : Json} {b : β} {take : Record → Option β}
    (make : String → β → UInt64 → UInt64 → α)
    (once : ["transaction_hash", name, "gas_wanted", "gas_used"].Nodup)
    (printed : ∃ w, written? j = some w)
    (taken : ∀ r room, (printedField (name, j)).Held r room → take r = some b)
    (hash : String) (wanted used : UInt64) :
    Restores (fun t => do
        let r ← Record.ofTerm? ["transaction_hash", name, "gas_wanted", "gas_used"] t
        return make (← r.required "transaction_hash" Term.text?) (← take r)
          (← r.required "gas_wanted" Term.uint64?) (← r.required "gas_used" Term.uint64?))
      (.object [("transaction_hash", .text hash), (name, j), ("gas_wanted", JsonForm.write wanted),
        ("gas_used", JsonForm.write used)])
      (make hash b wanted used) 1 := by
  have hashed := restores_text hash
  have wants := restores_uint64 wanted
  have uses := restores_uint64 used
  refine restores_record rfl once ?_ fun r room deep held => ?_
  · simp only [List.forall_mem_cons]
    exact ⟨hashed.printed, printed, wants.printed, uses.printed, nofun⟩
  · simp only [List.forall_mem_cons] at held
    obtain ⟨first, second, third, fourth, -⟩ := held
    simp [hashed.required first deep, taken r room second, wants.required third deep,
      uses.required fourth deep]

theorem restores_storeResponse (r : StoreResponse) : Restores JsonForm.read (JsonForm.write r) r 1 :=
  have codeId := restores_text? r.codeId
  restores_outcome StoreResponse.mk (by decide) codeId.printed
    (fun _ room held => codeId.optional held (Nat.zero_le room)) ..

theorem restores_instantiateResponse (r : InstantiateResponse) :
    Restores JsonForm.read (JsonForm.write r) r 1 :=
  have address := restores_text? r.address
  restores_outcome InstantiateResponse.mk (by decide) address.printed
    (fun _ room held => address.optional held (Nat.zero_le room)) ..

theorem restores_storedCode (s : StoredCode) : Restores JsonForm.read (JsonForm.write s) s 1 :=
  have codeId := restores_codeId s.codeId
  restores_outcome StoredCode.mk (by decide) codeId.printed
    (fun _ room held => codeId.required held (Nat.zero_le room)) ..

theorem restores_liveContract (c : LiveContract) : Restores JsonForm.read (JsonForm.write c) c 1 :=
  have address := restores_text c.address
  restores_outcome LiveContract.mk (by decide) address.printed
    (fun _ room held => address.required held (Nat.zero_le room)) ..

theorem restores_receipt (c : Receipt) : Restores JsonForm.read (JsonForm.write c) c 1 :=
  have height := restores_uint64 c.height
  restores_outcome Receipt.mk (by decide) height.printed
    (fun _ room held => height.required held (Nat.zero_le room)) ..

theorem restores_account (a : Account) : Restores JsonForm.read (JsonForm.write a) a 1 := by
  have role := restores_role a.role
  have address := restores_text a.address
  have key : Restores JsonForm.read (JsonForm.write a.key) a.key 0 :=
    (restores_text a.key.name).map KeyName.mk
  refine restores_record rfl (by decide) ?_ fun r room deep held => ?_
  · simp only [List.forall_mem_cons]
    exact ⟨role.printed, address.printed, key.printed, nofun⟩
  · simp only [List.forall_mem_cons] at held
    obtain ⟨first, second, third, -⟩ := held
    simp [role.required first (Nat.zero_le room), address.required second (Nat.zero_le room),
      key.required third (Nat.zero_le room)]

theorem restores_feeSelection (f : FeeSelection) : Restores JsonForm.read (JsonForm.write f) f 4 := by
  cases f with
  | auto => exact .of_written rfl fun _ _ => rfl
  | fixed fee =>
    have restores := restores_fee fee
    obtain ⟨w, printed⟩ := restores.printed
    refine .of_written (w := .object [(some "Fixed", w)]) ?_ fun room deep => ?_
    · change (writtenMembers? [("Fixed", JsonForm.write fee)]).map Written.object = _
      rw [writtenMembers?, printed]
      rfl
    · have opens : room ≠ 0 := by omega
      have chosen : Term.variant? ⟨.object [(some "Fixed", w)], room⟩ =
          some ("Fixed", some ⟨w, room - 1⟩) := if_neg opens
      have content : JsonForm.read ⟨w, room - 1⟩ = some fee := restores.gives w _ printed (by omega)
      change (Term.variant? _ >>= _) = _
      rw [chosen]
      change (JsonForm.read ⟨w, room - 1⟩ >>= fun fee : Fee => some (FeeSelection.fixed fee)) = _
      rw [content]
      rfl

theorem roundTrips_of_restores {α : Type} [JsonForm α] {depth : Nat} (shallow : depth ≤ nestingLimit)
    (restores : ∀ a : α, Restores JsonForm.read (JsonForm.write a) a depth) : RoundTrips α :=
  fun a => (restores a).ofChars?_compact shallow

end Records

section CodeIds

variable {text : String} {id : CodeId} {stored : StoredCode}

/-- The number that stands for the code id in a text of stored code, which may be zero. -/
def StoredCode.number? (text : String) : Option UInt64 :=
  Reader.ofChars? (fun t => do
    let r ← Record.ofTerm? ["transaction_hash", "code_id", "gas_wanted", "gas_used"] t
    r.required "code_id" Term.uint64?) text.toList

theorem CodeId.value_ne_zero (id : CodeId) : id.value ≠ 0 := UInt64.pos_iff_ne_zero.mp id.positive

/-- A code id is read where its number is, and a code id has a number other than zero. -/
theorem CodeId.read_eq_some_iff {t : Term} :
    (JsonForm.read t : Option CodeId) = some id ↔ t.uint64? = some id.value := by
  change t.uint64?.bind CodeId.ofUInt64? = some id ↔ _
  rw [Option.bind_eq_some_iff]
  simp only [CodeId.ofUInt64?_eq_some_iff]
  exact exists_eq_right'

theorem CodeId.ofText?_eq_some_iff :
    JsonForm.ofText? CodeId text = some id ↔ JsonForm.ofText? UInt64 text = some id.value := by
  unfold JsonForm.ofText? Reader.ofChars?
  rw [Option.bind_eq_some_iff, Option.bind_eq_some_iff]
  exact exists_congr fun w => and_congr_right fun _ => CodeId.read_eq_some_iff

theorem CodeId.ofText?_eq_none (zero : JsonForm.ofText? UInt64 text = some 0) :
    JsonForm.ofText? CodeId text = none := by
  refine Option.eq_none_iff_forall_not_mem.mpr fun id found => id.value_ne_zero ?_
  exact Option.some.inj ((CodeId.ofText?_eq_some_iff.mp found).symm.trans zero)

theorem StoredCode.number?_of_ofText? (found : JsonForm.ofText? StoredCode text = some stored) :
    StoredCode.number? text = some stored.codeId.value := by
  obtain ⟨w, written, read⟩ := Option.bind_eq_some_iff.mp found
  obtain ⟨r, record, fields⟩ := Option.bind_eq_some_iff.mp read
  obtain ⟨hash, -, rest⟩ := Option.bind_eq_some_iff.mp fields
  obtain ⟨codeId, given, rest⟩ := Option.bind_eq_some_iff.mp rest
  obtain ⟨wanted, -, rest⟩ := Option.bind_eq_some_iff.mp rest
  obtain ⟨used, -, made⟩ := Option.bind_eq_some_iff.mp rest
  obtain rfl := Option.some.inj made
  obtain ⟨t, member, value⟩ := Option.bind_eq_some_iff.mp given
  refine Option.bind_eq_some_iff.mpr ⟨w, written, Option.bind_eq_some_iff.mpr ⟨r, record, ?_⟩⟩
  exact Option.bind_eq_some_iff.mpr ⟨t, member, CodeId.read_eq_some_iff.mp value⟩

theorem StoredCode.ofText?_eq_none (zero : StoredCode.number? text = some 0) :
    JsonForm.ofText? StoredCode text = none := by
  refine Option.eq_none_iff_forall_not_mem.mpr fun stored found => stored.codeId.value_ne_zero ?_
  exact Option.some.inj ((StoredCode.number?_of_ofText? found).symm.trans zero)

end CodeIds

/-- The data of deployments is read back from its text as it was, and a configuration without its mnemonics;
a text that holds zero for a code id is not read. -/
theorem records_read_back :
    (RoundTrips StoreResponse ∧ RoundTrips InstantiateResponse ∧ RoundTrips StoredCode ∧
      RoundTrips LiveContract ∧ RoundTrips Receipt ∧ RoundTrips Fee ∧ RoundTrips FeeSelection ∧
      RoundTrips Account) ∧
    (∀ c : Configuration, Whole c.settings.instantiateMessage → (JsonForm.write c).depth ≤ nestingLimit →
      JsonForm.ofText? Configuration (JsonForm.toText c) =
        some { c with deployerMnemonic := none, testerMnemonic := none }) ∧
    ∀ text : String,
      (∀ id, JsonForm.ofText? CodeId text = some id →
        JsonForm.ofText? UInt64 text = some id.value ∧ id.value ≠ 0) ∧
      (JsonForm.ofText? UInt64 text = some 0 → JsonForm.ofText? CodeId text = none) ∧
      (∀ stored, JsonForm.ofText? StoredCode text = some stored →
        StoredCode.number? text = some stored.codeId.value ∧ stored.codeId.value ≠ 0) ∧
      (StoredCode.number? text = some 0 → JsonForm.ofText? StoredCode text = none) := by
  refine ⟨⟨?_, ?_, ?_, ?_, ?_, ?_, ?_, ?_⟩, fun c whole shallow => ?_, fun text => ⟨?_, ?_, ?_, ?_⟩⟩
  · exact roundTrips_of_restores (by decide) restores_storeResponse
  · exact roundTrips_of_restores (by decide) restores_instantiateResponse
  · exact roundTrips_of_restores (by decide) restores_storedCode
  · exact roundTrips_of_restores (by decide) restores_liveContract
  · exact roundTrips_of_restores (by decide) restores_receipt
  · exact roundTrips_of_restores (by decide) restores_fee
  · exact roundTrips_of_restores (by decide) restores_feeSelection
  · exact roundTrips_of_restores (by decide) restores_account
  · exact (restores_configuration whole).ofChars?_compact shallow
  · exact fun id found => ⟨CodeId.ofText?_eq_some_iff.mp found, id.value_ne_zero⟩
  · exact CodeId.ofText?_eq_none
  · exact fun stored found => ⟨StoredCode.number?_of_ofText? found, stored.codeId.value_ne_zero⟩
  · exact StoredCode.ofText?_eq_none

/-- A configuration with mnemonics, and with a message that holds the least number and the greatest. -/
def Configuration.utmost : Configuration where
  settings := {
    Settings.standard with
    keyringHome := some "/home/operator"
    resumeCode := some 0xFFFFFFFFFFFFFFFF
    instantiateMessage := .object [("bounds",
      .array [.number (.integer (-2 ^ 63)), .number (.integer (2 ^ 64 - 1))])] }
  deployerMnemonic := some ⟨"deployer words"⟩
  testerMnemonic := some ⟨"tester words"⟩

theorem records_read_back_utmost :
    JsonForm.ofText? Configuration (JsonForm.toText Configuration.utmost) =
      some { Configuration.utmost with deployerMnemonic := none, testerMnemonic := none } ∧
    JsonForm.ofText? CodeId "0" = none ∧
    JsonForm.ofText? StoredCode
      "\x7b\"transaction_hash\":\"A1\",\"code_id\":0,\"gas_wanted\":2,\"gas_used\":1\x7d" = none := by
  have whole : Whole Configuration.utmost.settings.instantiateMessage := by
    refine .object _ (List.pairwise_singleton _ _) (List.forall_mem_singleton.mpr ?_)
    refine .array _ (List.forall_mem_cons.mpr ⟨?_, List.forall_mem_singleton.mpr ?_⟩)
    · exact .integer _ (by decide) (by decide)
    · exact .integer _ (by decide) (by decide)
  refine ⟨records_read_back.2.1 Configuration.utmost whole (by decide), ?_, ?_⟩
  · exact (records_read_back.2.2 _).2.1 (by decide +kernel)
  · exact (records_read_back.2.2 _).2.2.2 (by decide +kernel)

end ContractLaunch
