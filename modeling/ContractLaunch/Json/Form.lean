import ContractLaunch.Json.Printer
import ContractLaunch.Json.Reading
/-!
Types that have a JSON form: how a value is written and how it is read back.
-/
namespace ContractLaunch

class JsonForm (α : Type) where
  write : α → Json
  read : Json.Reader α

namespace JsonForm

def toText {α : Type} [JsonForm α] (a : α) : String := (write a).compact

def ofText? (α : Type) [JsonForm α] (s : String) : Option α :=
  Json.Reader.ofChars? (read (α := α)) s.toList

instance : JsonForm Json := ⟨id, Json.Term.json?⟩

instance : JsonForm String := ⟨.text, Json.Term.text?⟩

instance : JsonForm UInt64 := ⟨fun n => .ofNat n.toNat, Json.Term.uint64?⟩

instance {α : Type} [JsonForm α] : JsonForm (List α) :=
  ⟨fun as => .array (as.map write), Json.Term.items? read⟩

end JsonForm

end ContractLaunch
