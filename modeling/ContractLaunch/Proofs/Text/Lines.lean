import ContractLaunch.Proofs.Text.Trimming
/-!
The first line of a text. It is the first one that is not all blank, whatever stands after it; what is
read of it has no blanks at its ends. Trimming a text leaves alone what stands between two characters
that are not blank.
-/
namespace ContractLaunch.Text

structure IsLine (line : List Char) : Prop where
  single : '\n' ∉ line
  visible : line.all isBlank = false

/-- The text opens with the line: only blank lines stand before it. -/
inductive Opens (line : List Char) : List Char → Prop
  | alone : Opens line line
  | followed (later : List Char) : Opens line (line ++ '\n' :: later)
  | after (blank text : List Char) (single : '\n' ∉ blank) (empty : blank.all isBlank = true)
      (opens : Opens line text) : Opens line (blank ++ '\n' :: text)

variable {line text core before after : List Char}

theorem splitOnP_line (single : '\n' ∉ line) : line.splitOnP (· == '\n') = [line] := by
  refine List.splitOnP_eq_singleton fun c inside => ?_
  have other : c ≠ '\n' := fun same => single (same ▸ inside)
  simpa using other

theorem lines_alone (single : '\n' ∉ line) : lines line = [trim line] := by
  unfold lines List.splitOn
  rw [splitOnP_line single]
  rfl

theorem lines_cons (single : '\n' ∉ line) (later : List Char) :
    lines (line ++ '\n' :: later) = trim line :: lines later := by
  unfold lines List.splitOn
  rw [List.splitOnP_append_cons (p := (· == '\n')) line later (beq_self_eq_true _), splitOnP_line single]
  rfl

theorem isEmpty_trim (line : List Char) : (trim line).isEmpty = line.all isBlank := by
  rw [Bool.eq_iff_iff, List.isEmpty_iff]
  exact trim_eq_nil_iff

theorem firstLine_of_opens (isLine : IsLine line) (opens : Opens line text) :
    firstLine text = trim line := by
  have shown : (!(trim line).isEmpty) = true := by simp [isEmpty_trim, isLine.visible]
  induction opens with
  | alone => simp [firstLine, lines_alone isLine.single, shown]
  | followed later => simp [firstLine, lines_cons isLine.single, shown]
  | after blank text single empty opens ih =>
    have skipped : (!(trim blank).isEmpty) = false := by simp [isEmpty_trim, empty]
    rw [← ih, firstLine, lines_cons single, List.find?_cons_of_neg (by simp [skipped])]
    rfl

/-- Induction on a text line by line. -/
@[elab_as_elim]
theorem line_induction {motive : List Char → Prop} (alone : ∀ line, '\n' ∉ line → motive line)
    (followed : ∀ line later, '\n' ∉ line → motive later → motive (line ++ '\n' :: later))
    (text : List Char) : motive text := by
  induction size : text.length using Nat.strongRecOn generalizing text with
  | ind length ih =>
    by_cases feed : '\n' ∈ text
    · obtain ⟨line, later, rfl, single⟩ := List.eq_append_cons_of_mem feed
      have shorter : later.length < length := by
        rw [← size, List.length_append, List.length_cons]
        omega
      exact followed line later single (ih _ shorter later rfl)
    · exact alone text feed

theorem all_isBlank_append (line later : List Char) :
    (line ++ '\n' :: later).all isBlank = (line.all isBlank && later.all isBlank) := by
  rw [List.all_append, List.all_cons]
  rfl

theorem exists_opens (visible : text.all isBlank = false) : ∃ line, IsLine line ∧ Opens line text := by
  induction text using line_induction with
  | alone line single => exact ⟨line, ⟨single, visible⟩, .alone⟩
  | followed line later single ih =>
    cases shown : line.all isBlank with
    | false => exact ⟨line, ⟨single, shown⟩, .followed later⟩
    | true =>
      rw [all_isBlank_append, shown, Bool.true_and] at visible
      obtain ⟨opening, isLine, opens⟩ := ih visible
      exact ⟨opening, isLine, .after line later single shown opens⟩

theorem firstLine_of_blank (blank : text.all isBlank = true) : firstLine text = [] := by
  induction text using line_induction with
  | alone line single =>
    rw [firstLine, lines_alone single, trim_eq_nil_iff.mpr blank]
    rfl
  | followed line later single ih =>
    rw [all_isBlank_append, Bool.and_eq_true] at blank
    rw [← ih blank.2, firstLine, lines_cons single, trim_eq_nil_iff.mpr blank.1]
    rfl

section Around

variable {first last : Char}

theorem trimStart_append (begins : core.head? = some first) (visible : isBlank first = false) :
    trimStart (before ++ core) = trimStart before ++ core := by
  unfold trimStart
  induction before with
  | nil =>
    cases core with
    | nil => cases begins
    | cons c rest =>
      obtain rfl := Option.some.inj begins
      exact List.dropWhile_cons_of_neg (by simp [visible])
  | cons c rest ih =>
    rw [List.cons_append]
    by_cases blank : isBlank c = true
    · rw [List.dropWhile_cons_of_pos blank, List.dropWhile_cons_of_pos blank, ih]
    · rw [List.dropWhile_cons_of_neg blank, List.dropWhile_cons_of_neg blank, List.cons_append]

theorem trimEnd_eq (cs : List Char) : trimEnd cs = (trimStart cs.reverse).reverse := rfl

theorem trimEnd_append (ends : core.getLast? = some last) (visible : isBlank last = false) :
    trimEnd (core ++ after) = core ++ trimEnd after := by
  have begins : core.reverse.head? = some last := by rw [List.head?_reverse, ends]
  rw [trimEnd_eq, List.reverse_append, trimStart_append begins visible, List.reverse_append,
    List.reverse_reverse, trimEnd_eq]

/-- Trimming takes nothing off what begins and ends with characters that are not blank. -/
theorem trim_around (begins : core.head? = some first) (visible : isBlank first = false)
    (ends : core.getLast? = some last) (visible' : isBlank last = false) :
    trim (before ++ core ++ after) = trimStart before ++ core ++ trimEnd after := by
  have begun : (core ++ after).head? = some first := by simp [List.head?_append, begins]
  have ended : (trimStart before ++ core).getLast? = some last := by
    simp [List.getLast?_append, ends]
  rw [trim, List.append_assoc, trimStart_append begun visible, ← List.append_assoc,
    trimEnd_append ended visible']

end Around

/-- The second text is the first without the blanks at its ends. -/
structure Trims (text core : List Char) : Prop where
  around : ∃ before after, text = before ++ core ++ after ∧ before.all isBlank = true ∧
    after.all isBlank = true
  begins : ∀ c ∈ core.head?, isBlank c = false
  ends : ∀ c ∈ core.getLast?, isBlank c = false

theorem trims_trim (cs : List Char) : Trims cs (trim cs) := by
  refine ⟨⟨cs.takeWhile isBlank, (trimStart cs).rtakeWhile isBlank, ?_, ?_, ?_⟩, head?_trim cs,
    getLast?_trim cs⟩
  · have front : cs.takeWhile isBlank ++ trimStart cs = cs := List.takeWhile_append_dropWhile
    have back : trim cs ++ (trimStart cs).rtakeWhile isBlank = trimStart cs :=
      List.rdropWhile_append_rtakeWhile
    rw [List.append_assoc, back, front]
  · exact List.all_eq_true.mpr fun c inside => List.mem_takeWhile_imp inside
  · exact List.all_eq_true.mpr fun c inside => List.mem_rtakeWhile_imp inside

theorem trim_within (cs : List Char) : trim cs <:+: cs := by
  obtain ⟨before, after, around, -⟩ := (trims_trim cs).around
  exact ⟨before, after, around.symm⟩

theorem trim_eq_iff : trim text = core ↔ Trims text core := by
  constructor
  · rintro rfl
    exact trims_trim text
  · rintro ⟨⟨before, after, rfl, blank, blank'⟩, begins, ends⟩
    cases core with
    | nil =>
      rw [trim_eq_nil_iff, List.append_nil, List.all_append, blank, blank']
      rfl
    | cons c rest =>
      have last := List.getLast?_eq_some_getLast (List.cons_ne_nil c rest)
      have nothing : trimStart before = [] :=
        List.dropWhile_eq_nil_iff.mpr (List.all_eq_true.mp blank)
      have nothing' : trimEnd after = [] :=
        List.rdropWhile_eq_nil_iff.mpr (List.all_eq_true.mp blank')
      rw [trim_around rfl (begins c rfl) last (ends _ last), nothing, nothing', List.nil_append,
        List.append_nil]

theorem trimmed_eq_iff {s t : String} : trimmed s = t ↔ Trims s.toList t.toList := by
  rw [← trim_eq_iff, trimmed, ← String.toList_inj, String.toList_ofList]

end ContractLaunch.Text
