import ContractLaunch.Proofs.Daemon.Message
import ContractLaunch.Proofs.Text.Offset
/-!
What is taken for a contract's message is an excerpt of the first line of a text. Each of the cuts that
lead to it can be made at an offset that lies in the text which is cut; the last of them is made before
all marks of a contract's failure, so that none is left.
-/
namespace ContractLaunch.Failure

/-- The message cut out of a log by offsets; `none` when one of them lies outside of what is cut. -/
def messageByOffsets? (log : List Char) : Option (List Char) :=
  let line := spoken log
  match (contractMarkTexts.filterMap (Text.offset? · line)).min? with
  | none => some (Text.trim line)
  | some stop => do
    let (head, _) ← Text.cut? stop line
    match Text.lastOffset? messageIndex.toList head with
    | some start =>
      let (_, indexed) ← Text.cut? (start + Text.byteLength messageIndex.toList) head
      match Text.splitFirst? [':', ' '] indexed with
      | some (_, message) => some (Text.trim message)
      | none => some (Text.trim indexed)
    | none =>
      match Text.splitLast? description.toList head with
      | some (_, message) => some (Text.trim message)
      | none => some (Text.trim head)

variable {log head : List Char}

theorem contractMessage_of_unmarked (unmarked : Text.beforeAny? contractMarkTexts (spoken log) = none) :
    contractMessage log = Text.trim (spoken log) := by
  unfold spoken contractMarkTexts at unmarked
  simp only [contractMessage, unmarked]
  rfl

theorem messageByOffsets?_eq (log : List Char) : messageByOffsets? log = some (contractMessage log) := by
  rw [messageByOffsets?, Text.min?_offsets]
  cases marked : Text.beforeAny? contractMarkTexts (spoken log) with
  | none => rw [contractMessage_of_unmarked marked, Option.map_none]
  | some head =>
    obtain ⟨⟨mark, -, rest, split⟩, -⟩ := Text.beforeAny?_eq_some marked
    have front : Text.cut? (Text.byteLength head) (spoken log) = some (head, mark ++ rest) := by
      rw [← split, List.append_assoc, Text.cut?_byteLength]
    simp only [Option.map_some, front, Option.bind_eq_bind, Option.bind_some,
      contractMessage_of_mark marked, messageIn, Text.lastOffset?]
    cases numbered : Text.splitLast? messageIndex.toList head with
    | none =>
      rw [Option.map_none]
      change _ = some (Text.trim (match Text.splitLast? description.toList head with
        | some (_, message) => message
        | none => head))
      cases Text.splitLast? description.toList head <;> rfl
    | some around =>
      obtain ⟨before, indexed⟩ := around
      have back : Text.cut? (Text.byteLength before + Text.byteLength messageIndex.toList) head =
          some (before ++ messageIndex.toList, indexed) := by
        rw [Text.eq_append_of_splitLast? numbered, ← Text.byteLength_append, Text.cut?_byteLength]
      simp only [Option.map_some, back, Option.bind_some]
      cases Text.splitFirst? [':', ' '] indexed <;> rfl

section Within

theorem messageIn_within (head : List Char) : messageIn head <:+: head := by
  unfold messageIn
  split
  next indexed numbered =>
    split
    next message named => exact (Text.infix_of_splitFirst? named).trans (Text.infix_of_splitLast? numbered)
    next => exact Text.infix_of_splitLast? numbered
  next =>
    split
    next message described => exact Text.infix_of_splitLast? described
    next => exact List.infix_rfl

theorem spoken_within (log : List Char) : spoken log <:+: Text.firstLine log := by
  unfold spoken
  cases led : Text.afterStart? lead.toList (Text.firstLine log) with
  | none => exact List.infix_rfl
  | some rest =>
    rw [Option.getD_some, Text.eq_append_of_afterStart? led]
    exact (List.suffix_append _ _).isInfix

/-- A message has no mark in it: one in what the message is taken from would stand before the first. -/
theorem contractMessage_within (log : List Char) : contractMessage log <:+: spoken log ∧
    ∀ mark ∈ contractMarkTexts, ¬ mark <:+: contractMessage log := by
  cases marked : Text.beforeAny? contractMarkTexts (spoken log) with
  | none =>
    rw [contractMessage_of_unmarked marked]
    have trimmed := Text.trim_within (spoken log)
    exact ⟨trimmed, fun mark member inside =>
      Text.beforeAny?_eq_none marked mark member (inside.trans trimmed)⟩
  | some head =>
    rw [contractMessage_of_mark marked]
    obtain ⟨⟨mark, -, rest, split⟩, first⟩ := Text.beforeAny?_eq_some marked
    have front : head <+: spoken log := ⟨mark ++ rest, by rw [← split, List.append_assoc]⟩
    have excerpt : Text.trim (messageIn head) <:+: head := (Text.trim_within _).trans (messageIn_within head)
    have unmarked := first.absent front (by decide)
    exact ⟨excerpt.trans front.isInfix, fun mark member inside =>
      unmarked mark member (inside.trans excerpt)⟩

theorem exists_trim_eq (log : List Char) : ∃ cs, contractMessage log = Text.trim cs := by
  cases marked : Text.beforeAny? contractMarkTexts (spoken log) with
  | none => exact ⟨_, contractMessage_of_unmarked marked⟩
  | some head => exact ⟨_, contractMessage_of_mark marked⟩

theorem contractMessage_placed (log : List Char) :
    (∃ line, Text.IsLine line ∧ Text.Opens line log ∧ contractMessage log <:+: line) ∨
      log.all Text.isBlank = true ∧ contractMessage log = [] := by
  have excerpt := (contractMessage_within log).1.trans (spoken_within log)
  cases blank : log.all Text.isBlank with
  | false =>
    obtain ⟨line, isLine, opens⟩ := Text.exists_opens blank
    rw [Text.firstLine_of_opens isLine opens] at excerpt
    exact .inl ⟨line, isLine, opens, excerpt.trans (Text.trim_within line)⟩
  | true =>
    rw [Text.firstLine_of_blank blank] at excerpt
    exact .inr ⟨rfl, List.infix_nil.mp excerpt⟩

end Within

/-- The message of a text is a part of the first line that has something on it, or empty if there is no
such line. It has no line feed, no blanks at its ends and no mark of a contract's failure, and it is what
cutting by offsets gives, so that every offset lies in the text that is cut. -/
theorem contract_message_clean (text : String) :
    let message := (contractMessageText text).toList
    ((∃ line, Text.IsLine line ∧ Text.Opens line text.toList ∧ message <:+: line) ∨
      text.toList.all Text.isBlank = true ∧ message = []) ∧
    '\n' ∉ message ∧
    (∀ c ∈ message.head?, Text.isBlank c = false) ∧ (∀ c ∈ message.getLast?, Text.isBlank c = false) ∧
    (∀ mark ∈ contractMarks, ¬ mark.toList <:+: message) ∧
    messageByOffsets? text.toList = some message := by
  intro message
  have same : message = contractMessage text.toList := String.toList_ofList
  have placed := contractMessage_placed text.toList
  have unmarked := (contractMessage_within text.toList).2
  obtain ⟨cs, trimmed⟩ := exists_trim_eq text.toList
  rw [same]
  refine ⟨placed, ?_, ?_, ?_, ?_, messageByOffsets?_eq text.toList⟩
  · rcases placed with ⟨line, isLine, -, excerpt⟩ | ⟨-, nothing⟩
    · exact fun feed => isLine.single (excerpt.subset feed)
    · rw [nothing]
      exact List.not_mem_nil
  · rw [trimmed]
    exact Text.head?_trim cs
  · rw [trimmed]
    exact Text.getLast?_trim cs
  · exact fun mark member => unmarked _ (List.mem_map_of_mem member)

end ContractLaunch.Failure
