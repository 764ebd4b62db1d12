import ContractLaunch.Daemon.Failure
import ContractLaunch.Proofs.Text.Lines
import ContractLaunch.Proofs.Text.Search
/-!
A contract's own message in the text of a failure. The chain puts the message between words of its own
and the mark of the contract's failure, and a daemon adds lines. What is taken for the message is the
message, trimmed, in both forms that the chain's words have: with the number of the message in the
transaction, and with a description only.
-/
namespace ContractLaunch.Failure

def contractMarkTexts : List (List Char) := contractMarks.map String.toList

/-- A line that tells of a contract's failure: the chain's words, the contract's message, and the first
mark of such a failure in the line. The line may begin with `Error: `, and anything may follow. -/
inductive Tells (line words message : List Char) : Prop
  | intro (start mark rest : List Char) (leads : start = [] ∨ start = lead.toList)
      (isMark : mark ∈ contractMarkTexts)
      (first : Text.NoneBefore contractMarkTexts (words ++ message ++ mark ++ rest) (words ++ message))
      (written : Text.trim line = Text.trim (start ++ (words ++ message ++ mark ++ rest)))

/-- The chain's words before a message: they end with the number of the message, or they have no such
number and end with the word for a description. The message does not have the same words in it. -/
inductive Announced : (words message : List Char) → Prop
  | numbered (before digits message : List Char)
      (numeral : ∀ c ∈ digits, c.isDigit = true) (once : ¬ messageIndex.toList <:+: message) :
      Announced (before ++ (messageIndex.toList ++ digits ++ [':', ' '])) message
  | described (before message : List Char)
      (unnumbered : ¬ messageIndex.toList <:+: before ++ description.toList ++ message)
      (once : ¬ description.toList <:+: message) :
      Announced (before ++ description.toList) message

variable {text : String} {line words message before kept : List Char}

theorem messageIn_numbered {digits : List Char} (numeral : ∀ c ∈ digits, c.isDigit = true)
    (once : ¬ messageIndex.toList <:+: message) :
    messageIn (kept ++ (messageIndex.toList ++ digits ++ [':', ' ']) ++ message) = message := by
  have noColon : ':' ∉ digits := fun inside => absurd (numeral _ inside) (by decide)
  have noLetter : 'm' ∉ digits := fun inside => absurd (numeral _ inside) (by decide)
  have last : ¬ messageIndex.toList <:+: digits ++ [':', ' '] ++ message := by
    refine (Text.infix_append_of_not_mem (c := 'm') ?_).not.mpr once
    simp [noLetter]
  have split : Text.splitLast? messageIndex.toList
      (kept ++ messageIndex.toList ++ (digits ++ [':', ' '] ++ message)) =
        some (kept, digits ++ [':', ' '] ++ message) :=
    Text.splitLast?_of_last (c := 'm') (by decide) last
  have number : Text.splitFirst? [':', ' '] (digits ++ [':', ' '] ++ message) = some (digits, message) :=
    Text.splitFirst?_of_first noColon
  simp only [List.append_assoc] at split number ⊢
  simp only [messageIn, split, number]

theorem messageIn_described
    (unnumbered : ¬ messageIndex.toList <:+: kept ++ description.toList ++ message)
    (once : ¬ description.toList <:+: message) :
    messageIn (kept ++ description.toList ++ message) = message := by
  have absent := Text.splitLast?_eq_none_iff.mpr unnumbered
  have found : Text.splitLast? description.toList (kept ++ description.toList ++ message) =
      some (kept, message) := Text.splitLast?_of_last (c := 'd') (by decide) once
  unfold messageIn
  simp only [absent, found]

/-- What is read of a failure: the first line of its text, without `Error: ` in front. -/
def spoken (cs : List Char) : List Char :=
  (Text.afterStart? lead.toList (Text.firstLine cs)).getD (Text.firstLine cs)

theorem contractMessage_of_mark {log head : List Char}
    (marked : Text.beforeAny? contractMarkTexts (spoken log) = some head) :
    contractMessage log = Text.trim (messageIn head) := by
  unfold spoken contractMarkTexts at marked
  simp only [contractMessage, marked]

theorem Announced.anchored (announced : Announced words message) :
    ∃ before anchor first, words = before ++ first :: anchor ∧ Text.isBlank first = false ∧
      first ∉ lead.toList ∧
      ∀ kept, kept <:+ before → messageIn (kept ++ first :: anchor ++ message) = message := by
  cases announced with
  | numbered before digits message numeral once =>
    refine ⟨before, _, 'm', rfl, by decide, by decide, ?_⟩
    intro kept _
    exact messageIn_numbered numeral once
  | described before message unnumbered once =>
    refine ⟨before, _, 'd', rfl, by decide, by decide, ?_⟩
    intro kept within
    refine messageIn_described (fun inside => unnumbered (inside.trans ?_)) once
    obtain ⟨front, rfl⟩ := within
    simp only [List.append_assoc]
    exact (List.suffix_append _ _).isInfix

/-- Reading drops what stands at the ends of the first line, `Error: ` among it, and nothing of the part
between the chain's words and the mark. -/
theorem spoken_of_tells {first last : Char} {start anchor rest : List Char}
    (isLine : Text.IsLine line) (opens : Text.Opens line text.toList)
    (leads : start = [] ∨ start = lead.toList)
    (visible : Text.isBlank first = false) (fresh : first ∉ lead.toList)
    (ends : (first :: anchor).getLast? = some last) (visible' : Text.isBlank last = false)
    (written : Text.trim line = Text.trim (start ++ (before ++ first :: anchor ++ rest))) :
    ∃ kept left, kept <:+ before ∧ left <+: rest ∧
      spoken text.toList = kept ++ first :: anchor ++ left := by
  have line_eq : Text.firstLine text.toList =
      Text.trimStart (start ++ before) ++ first :: anchor ++ Text.trimEnd rest := by
    rw [Text.firstLine_of_opens isLine opens, written, ← Text.trim_around rfl visible ends visible']
    simp only [List.append_assoc]
  refine ⟨(Text.afterStart? lead.toList (Text.trimStart (start ++ before))).getD
    (Text.trimStart (start ++ before)), Text.trimEnd rest, ?_, List.rdropWhile_prefix _ _, ?_⟩
  · rcases leads with rfl | rfl
    · have within : Text.trimStart before <:+ before := List.dropWhile_suffix _
      cases found : Text.afterStart? lead.toList (Text.trimStart before) with
      | none => simpa [found] using within
      | some more =>
        have split := Text.eq_append_of_afterStart? found
        have tail : more <:+ Text.trimStart before := ⟨_, split.symm⟩
        simpa [found] using tail.trans within
    · have kept : Text.trimStart (lead.toList ++ before) = lead.toList ++ before :=
        List.dropWhile_cons_of_neg (by decide)
      rw [kept, Text.afterStart?_append]
      exact List.suffix_rfl
  · unfold spoken
    rw [line_eq, List.append_assoc, List.cons_append, Text.afterStart?_append_of_not_mem fresh]
    cases Text.afterStart? lead.toList (Text.trimStart (start ++ before)) with
    | none => simp
    | some more => simp

theorem contractMark_shape : ∀ mark ∈ contractMarkTexts,
    mark.head? = some ':' ∧ ':' ∉ mark.tail ∧ mark.getLast? = some 'd' := by
  decide

/-- The contract's own message is found in a failure's text, whatever stands before the chain's words,
behind the mark and on other lines. -/
theorem contract_message_recovered (text : String) (line words message : List Char)
    (isLine : Text.IsLine line) (opens : Text.Opens line text.toList)
    (tells : Tells line words message) (announced : Announced words message) :
    contractMessageText text = String.ofList (Text.trim message) := by
  obtain ⟨start, mark, rest, leads, isMark, unmarked, written⟩ := tells
  obtain ⟨before, anchor, first, rfl, visible, fresh, found⟩ := announced.anchored
  obtain ⟨-, -, ends⟩ := contractMark_shape mark isMark
  have ended : (first :: anchor ++ message ++ mark).getLast? = some 'd' := by
    rw [List.getLast?_append, ends]
    rfl
  have same : Text.trim line =
      Text.trim (start ++ (before ++ first :: (anchor ++ message ++ mark) ++ rest)) := by
    simpa using written
  obtain ⟨kept, left, ⟨front, rfl⟩, ⟨back, rfl⟩, read⟩ :=
    spoken_of_tells isLine opens leads visible fresh ended (by decide) same
  have marked : Text.beforeAny? contractMarkTexts (spoken text.toList) =
      some (kept ++ first :: anchor ++ message) := by
    have here : Text.NoneBefore contractMarkTexts
        (kept ++ first :: anchor ++ message ++ mark ++ left) (kept ++ first :: anchor ++ message) := by
      have whole : Text.NoneBefore contractMarkTexts
          (front ++ (kept ++ first :: anchor ++ message ++ mark ++ left) ++ back)
          (front ++ (kept ++ first :: anchor ++ message)) := by
        simpa using unmarked
      exact whole.within
    have cut := Text.beforeAny?_of_first isMark here
    simpa [read] using cut
  rw [contractMessageText, contractMessage_of_mark marked, found kept (List.suffix_append _ _)]

section Numbered

def numberedLine : List Char :=
  " Error: desc = message index: 0: a: b: query wasm contract failed [desc = c] ".toList

def numberedText : String :=
  String.ofList ('\n' :: (numberedLine ++ '\n' :: "message index: 1: d".toList))

def numberedWords : List Char := "desc = message index: 0: ".toList

theorem contract_message_recovered_numbered :
    Text.IsLine numberedLine ∧ Text.Opens numberedLine numberedText.toList ∧
    Tells numberedLine numberedWords ['a', ':', ' ', 'b'] ∧
    Announced numberedWords ['a', ':', ' ', 'b'] ∧ contractMessageText numberedText = "a: b" := by
  have isLine : Text.IsLine numberedLine := ⟨by decide +kernel, by decide +kernel⟩
  have opens : Text.Opens numberedLine numberedText.toList := by
    rw [numberedText, String.toList_ofList]
    exact .after [] _ (by simp) rfl (.followed _)
  have absent : ∀ mark ∈ contractMarkTexts, ¬ mark <:+: numberedWords ++ ['a', ':', ' ', 'b'] := by
    simp only [← Text.occurs_iff]
    decide
  have shaped : ∀ mark ∈ contractMarkTexts, mark.head? = some ':' ∧ ':' ∉ mark.tail :=
    fun mark member => ⟨(contractMark_shape mark member).1, (contractMark_shape mark member).2.1⟩
  have tells : Tells numberedLine numberedWords ['a', ':', ' ', 'b'] := by
    refine .intro lead.toList ": query wasm contract failed".toList " [desc = c]".toList (.inr rfl)
      (by decide) ?_ (by decide +kernel)
    rw [List.append_assoc _ ": query wasm contract failed".toList]
    exact Text.noneBefore_of_not_infix shaped absent
  have announced : Announced numberedWords ['a', ':', ' ', 'b'] := by
    refine .numbered description.toList ['0'] _ (List.forall_mem_singleton.mpr rfl) ?_
    simp only [← Text.occurs_iff]
    decide
  exact ⟨isLine, opens, tells, announced,
    (contract_message_recovered numberedText _ _ _ isLine opens tells announced).trans (by decide)⟩

end Numbered

end ContractLaunch.Failure
