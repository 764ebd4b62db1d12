import ContractLaunch.Text.Blank
import ContractLaunch.Text.Numeral
/-!
Identifiers that the chain assigns to uploaded bytecode: positive 64-bit numbers.
-/
namespace ContractLaunch

/-- The identifier of uploaded bytecode, which is never zero. -/
structure CodeId where
  value : UInt64
  positive : 0 < value := by decide

namespace CodeId

instance : DecidableEq CodeId := fun a b =>
  decidable_of_iff (a.value = b.value) (by cases a; cases b; simp)

def ofUInt64? (n : UInt64) : Option CodeId :=
  if h : 0 < n then some ⟨n, h⟩ else none

def read? (s : String) : Option CodeId :=
  (Numeral.readUInt64? (Text.trim s.toList)).bind ofUInt64?

instance : ToString CodeId := ⟨fun id => toString id.value⟩

end CodeId

end ContractLaunch
