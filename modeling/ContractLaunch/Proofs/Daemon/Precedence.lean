import ContractLaunch.Daemon.Failure
import ContractLaunch.Proofs.Text.Lines
import ContractLaunch.Proofs.Text.Search
import Mathlib.Data.List.Basic
/-!
What the text of a failure is taken for. All marks stand in one table, and the first of them that the
text has anywhere decides; what the fault says is read from the first line. So a text that follows the
line of an error does not change what is said, but it changes what the error is taken for if one of its
marks stands in the table before all marks of the line.
-/
namespace ContractLaunch.Failure

/-- What a mark tells. -/
inductive Finding where
  | unreachable
  | unusableKey
  | contractFailed
  | chainRule (code : UInt32)
  | nothing
  deriving DecidableEq

namespace Finding

def fault (line message : String) : Finding → ClientFault
  | .unreachable => .transport line
  | .unusableKey => .signature line
  | .chainRule code => .sdkRejection code message
  | .contractFailed | .nothing => .plainRejection message

/-- A contract's failure is reported like a text without any mark. -/
def reported : Finding → Finding
  | .contractFailed => .nothing
  | other => other

theorem fault_eq_iff {line message : String} {one other : Finding} :
    one.fault line message = other.fault line message ↔ one.reported = other.reported := by
  cases one <;> cases other <;>
    simp [fault, reported, ClientFault.plainRejection, ClientFault.sdkRejection]

end Finding

/-- The marks in the order in which a text is searched for them. -/
def markTable : List (String × Finding) :=
  transportMarks.map (·, .unreachable) ++ signatureMarks.map (·, .unusableKey) ++
    contractMarks.map (·, .contractFailed) ++ sdkMarks.map fun (mark, code) => (mark, .chainRule code)

/-- The place in the table of the first mark that a text has. -/
def place (text : String) : Nat := markTable.findIdx fun entry => mentions text.toList entry.1

def finding (text : String) : Finding := (markTable[place text]?.map (·.2)).getD .nothing

def errorLine (text : String) : String := String.ofList (Text.firstLine text.toList)

variable {text error after : String}

theorem finding_eq_groups : finding text =
    (((transportMarks.find? (mentions text.toList)).map fun _ => Finding.unreachable).or
      (((signatureMarks.find? (mentions text.toList)).map fun _ => Finding.unusableKey).or
        (((contractMarks.find? (mentions text.toList)).map fun _ => Finding.contractFailed).or
          ((sdkMarks.find? fun (mark, _) => mentions text.toList mark).map
            fun (_, code) => Finding.chainRule code)))).getD .nothing := by
  rw [finding, place, ← List.find?_eq_getElem?_findIdx, markTable]
  simp only [List.find?_append, List.find?_map, Option.map_or, Option.map_map, Option.or_assoc]
  rfl

theorem classify_eq_fault :
    classify text = (finding text).fault (errorLine text) (contractMessageText text) := by
  rw [finding_eq_groups]
  simp only [classify, ← List.isSome_find?]
  cases transportMarks.find? (mentions text.toList) with
  | some mark => rfl
  | none =>
    cases signatureMarks.find? (mentions text.toList) with
    | some mark => rfl
    | none =>
      cases contractMarks.find? (mentions text.toList) with
      | some mark => rfl
      | none => cases sdkMarks.find? (fun (mark, _) => mentions text.toList mark) <;> rfl

section Lines

theorem mentions_iff {cs : List Char} {mark : String} :
    mentions cs mark = true ↔ mark.toList <:+: Text.foldCase cs := Text.occurs_iff

theorem mentions_lines {mark : String} (single : '\n' ∉ mark.toList) (line rest : List Char) :
    mentions (line ++ '\n' :: rest) mark = (mentions line mark || mentions rest mark) := by
  have folded : Text.foldCase (line ++ '\n' :: rest) =
      Text.foldCase line ++ '\n' :: Text.foldCase rest := by
    simp only [Text.foldCase, List.flatMap_append, List.flatMap_cons]
    rfl
  rw [Bool.eq_iff_iff, Bool.or_eq_true, mentions_iff, mentions_iff, mentions_iff, folded]
  exact Text.infix_around_of_not_mem single

theorem single_of_mem_markTable : ∀ entry ∈ markTable, '\n' ∉ entry.1.toList := by
  decide

theorem toList_lines : (error ++ "\n" ++ after).toList = error.toList ++ '\n' :: after.toList := by
  simp

theorem place_lines : place (error ++ "\n" ++ after) = min (place error) (place after) := by
  have same : ∀ entry ∈ markTable, mentions (error ++ "\n" ++ after).toList entry.1 =
      (mentions error.toList entry.1 || mentions after.toList entry.1) := by
    intro entry member
    rw [toList_lines]
    exact mentions_lines (single_of_mem_markTable entry member) _ _
  unfold place
  rw [List.min_findIdx_findIdx]
  apply Nat.le_antisymm
  · exact List.findIdx_le_findIdx fun entry member either => (same entry member).trans either
  · exact List.findIdx_le_findIdx fun entry member found => (same entry member).symm.trans found

theorem finding_lines : finding (error ++ "\n" ++ after) =
    if place error ≤ place after then finding error else finding after := by
  unfold finding
  rw [place_lines]
  split
  next first => rw [Nat.min_eq_left first]
  next later => rw [Nat.min_eq_right (Nat.le_of_not_le later)]

theorem firstLine_lines (isLine : Text.IsLine error.toList) :
    Text.firstLine (error ++ "\n" ++ after).toList = Text.firstLine error.toList := by
  rw [toList_lines, Text.firstLine_of_opens isLine (.followed _), Text.firstLine_of_opens isLine .alone]

theorem contractMessageText_lines (isLine : Text.IsLine error.toList) :
    contractMessageText (error ++ "\n" ++ after) = contractMessageText error := by
  unfold contractMessageText contractMessage
  rw [firstLine_lines isLine]

end Lines

/-- Of a text that begins with the line of an error, the line alone decides what is said. What the text
is taken for changes with the other lines exactly if they have a mark that stands in the table before
all marks of the line, unless the two are reported alike. -/
theorem classify_lines_eq_iff (error after : String) (isLine : Text.IsLine error.toList) :
    classify (error ++ "\n" ++ after) =
      (if place error ≤ place after then finding error else finding after).fault (errorLine error)
        (contractMessageText error) ∧
    (classify (error ++ "\n" ++ after) = classify error ↔
      place error ≤ place after ∨ (finding after).reported = (finding error).reported) := by
  have taken : classify (error ++ "\n" ++ after) =
      (if place error ≤ place after then finding error else finding after).fault (errorLine error)
        (contractMessageText error) := by
    rw [classify_eq_fault, finding_lines, errorLine, firstLine_lines isLine,
      contractMessageText_lines isLine]
    rfl
  refine ⟨taken, ?_⟩
  rw [taken, classify_eq_fault, Finding.fault_eq_iff]
  split
  next first => simp [first]
  next later => simp [later]

section Usage

def usageError : String := "Error: accepts 2 arg(s), received 1"

def usageFlag : String := "      --keyring-backend string"

theorem usageError_isLine : Text.IsLine usageError.toList := ⟨by decide, by decide⟩

theorem place_usageError : place usageError = 20 := by decide +kernel

theorem place_usageFlag : place usageFlag = 12 := by decide +kernel

theorem finding_usageError : finding usageError = .nothing := by
  rw [finding, place_usageError]
  rfl

theorem finding_usageFlag : finding usageFlag = .unusableKey := by
  rw [finding, place_usageFlag]
  rfl

theorem place_usage : place usageFlag < place usageError := by
  rw [place_usageError, place_usageFlag]
  decide

theorem classify_lines_eq_iff_usage :
    Text.IsLine usageError.toList ∧ place usageFlag < place usageError ∧
    classify (usageError ++ "\n" ++ usageFlag) = .signature usageError ∧
    classify (usageError ++ "\n" ++ usageFlag) ≠ classify usageError := by
  have line : errorLine usageError = usageError := by decide +kernel
  obtain ⟨taken, kept⟩ := classify_lines_eq_iff usageError usageFlag usageError_isLine
  refine ⟨usageError_isLine, place_usage, ?_, ?_⟩
  · rw [taken, if_neg (Nat.not_le_of_lt place_usage), finding_usageFlag, line]
    rfl
  · rw [Ne, kept, finding_usageFlag, finding_usageError]
    simp [Nat.not_le_of_lt place_usage, Finding.reported]

/-- So the lines after an error can change what it is taken for. -/
theorem classification_not_always_of_line :
    ¬ ∀ error after : String, Text.IsLine error.toList →
      classify (error ++ "\n" ++ after) = classify error := by
  intro always
  have same := always usageError usageFlag usageError_isLine
  rw [classify_eq_fault, classify_eq_fault, finding_lines, if_neg (Nat.not_le_of_lt place_usage),
    finding_usageFlag, finding_usageError] at same
  simp [Finding.fault, ClientFault.plainRejection] at same

end Usage

end ContractLaunch.Failure
