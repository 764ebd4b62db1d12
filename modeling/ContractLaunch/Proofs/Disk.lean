import ContractLaunch.Disk
import Mathlib
/-!
Entries of directories. The path of an entry is that of its directory and one step more; in a tree it
leads to the entry of that name in the directory where the steps of the directory's path end, and to
nothing else.
-/
namespace ContractLaunch.Disk

/-- What an entry of a directory can be called: a name that is one step, and a step down. -/
structure IsEntryName (file : String) : Prop where
  single : '/' ∉ file.toList
  filled : file ≠ ""
  other : file ≠ "."
  down : file ≠ ".."

def IsAbsolute (path : String) : Prop := path.toList.head? = some '/'

/-- A path that leads on from a directory by one step. -/
structure Extends (root file path : String) : Prop where
  joined : path = root ++ file ∧ (root = "" ∨ root.toList.getLast? = some '/') ∨ path = root ++ "/" ++ file
  steps : steps path = Disk.steps root ++ [file]
  absolute : IsAbsolute path ↔ IsAbsolute root
  name : IsEntryName file

/-- What reading the file at a path gives, if there is a file. -/
def fileAt? (disk : Disk) (path : String) : Option (Except String Bytes) :=
  match disk path with
  | some (.file bytes) => some (.ok bytes)
  | some (.unreadable cause) => some (.error cause)
  | some .directory | none => none

theorem fileAt?_eq_some_iff {disk : Disk} {path : String} {content : Except String Bytes} :
    disk.fileAt? path = some content ↔ disk path = some (ofReading content) := by
  unfold fileAt?
  cases disk path with
  | none => simp
  | some entry => cases entry <;> cases content <;> simp [ofReading]

theorem ofReading_injective : Function.Injective ofReading := by
  intro first second same
  cases first <;> cases second <;> cases same <;> rfl

@[simp] theorem directory_ne_ofReading (content : Except String Bytes) : .directory ≠ ofReading content := by
  cases content <;> exact nofun

section Steps

variable {root file other : String}

def stepsIn (path : List Char) : List String :=
  ((path.splitOn '/').map String.ofList).filter fun s => !(s.isEmpty || s = ".")

theorem stepsIn_append (before after : List Char) :
    stepsIn (before ++ '/' :: after) = stepsIn before ++ stepsIn after := by
  unfold stepsIn List.splitOn
  rw [List.splitOnP_append_cons (p := (· == '/')) before after (beq_self_eq_true _), List.map_append,
    List.filter_append]

theorem stepsIn_entry (entry : IsEntryName file) : stepsIn file.toList = [file] := by
  have apart : file.toList.splitOn '/' = [file.toList] := by
    refine List.splitOnP_eq_singleton fun c inside => ?_
    have differs : c ≠ '/' := fun same => entry.single (same ▸ inside)
    simpa using differs
  have kept : (!(file.isEmpty || file = ".")) = true := by simp [entry.filled, entry.other]
  unfold stepsIn
  rw [apart, List.map_singleton, String.ofList_toList, List.filter_singleton, kept]
  rfl

/-- A slash stands between a directory's path and the name of its entry, unless the path ends in one or
is empty. -/
theorem join_cases (root file : String) :
    (join root file = root ++ file ∧ (root = "" ∨ root.toList.getLast? = some '/')) ∨
      (join root file = root ++ "/" ++ file ∧ root ≠ "") := by
  unfold join
  split
  next open_ =>
    refine .inl ⟨rfl, ?_⟩
    simpa using open_
  next closed =>
    refine .inr ⟨rfl, ?_⟩
    rintro rfl
    simp at closed

theorem join_injective (same : join root file = join root other) : file = other := by
  unfold join at same
  split at same
  next => exact (String.append_right_inj root).mp same
  next => exact (String.append_right_inj _).mp same

theorem steps_join (entry : IsEntryName file) : steps (join root file) = steps root ++ [file] := by
  change stepsIn (join root file).toList = stepsIn root.toList ++ [file]
  rw [← stepsIn_entry entry]
  rcases join_cases root file with ⟨joined, rfl | slash⟩ | ⟨joined, -⟩
  · rw [joined]
    rfl
  · -- the slash at the end of the directory's path is followed by no step of that path
    obtain ⟨front, split⟩ := List.getLast?_eq_some_iff.mp slash
    have nothing : stepsIn [] = [] := rfl
    rw [joined, String.toList_append, split, List.append_assoc, List.singleton_append, stepsIn_append,
      stepsIn_append, nothing, List.append_nil]
  · rw [joined, String.toList_append, String.toList_append, List.append_assoc]
    exact stepsIn_append _ _

theorem head?_join (entry : IsEntryName file) : IsAbsolute (join root file) ↔ IsAbsolute root := by
  unfold IsAbsolute
  by_cases empty : root = ""
  · have relative : file.toList.head? ≠ some '/' := fun first =>
      entry.single (List.mem_of_mem_head? first)
    subst empty
    change file.toList.head? = some '/' ↔ _
    simp [relative]
  · have filled : root.toList ≠ [] := fun none => empty (String.toList_eq_nil_iff.mp none)
    rcases join_cases root file with ⟨joined, -⟩ | ⟨joined, -⟩
    · rw [joined, String.toList_append, List.head?_append_of_ne_nil _ filled]
    · rw [joined, String.toList_append, String.toList_append, List.append_assoc,
        List.head?_append_of_ne_nil _ filled]

theorem extends_join (root : String) (entry : IsEntryName file) : Extends root file (join root file) where
  joined := (join_cases root file).imp_right And.left
  steps := steps_join entry
  absolute := head?_join entry
  name := entry

theorem join_ends (root : String) (entry : IsEntryName file) :
    (join root file).toList.getLast? ≠ some '/' ∧ ¬ ['/', '.'] <:+ (join root file).toList := by
  have ends : file.toList <:+ (join root file).toList := by
    rcases join_cases root file with ⟨joined, -⟩ | ⟨joined, -⟩
    · rw [joined, String.toList_append]
      exact List.suffix_append _ _
    · rw [joined, String.toList_append]
      exact List.suffix_append _ _
  have filled : file.toList ≠ [] := fun none => entry.filled (String.toList_eq_nil_iff.mp none)
  constructor
  · intro slash
    obtain ⟨front, split⟩ := ends
    rw [← split, List.getLast?_append_of_ne_nil _ filled] at slash
    exact entry.single (List.mem_of_getLast? slash)
  · intro dotted
    rcases List.suffix_or_suffix_of_suffix ends dotted with short | long
    · rcases List.suffix_cons_iff.mp short with same | rest
      · exact entry.single (same ▸ List.mem_cons_self)
      · rcases List.suffix_cons_iff.mp rest with dot | nothing
        · exact entry.other (String.toList_inj.mp dot)
        · exact filled (List.suffix_nil.mp nothing)
    · exact entry.single (long.subset List.mem_cons_self)

end Steps

namespace Tree

/-- The steps lead from one directory of the tree to another. No step leads up out of the tree. -/
inductive Leads (t : Tree) : (here steps place : List String) → Prop
  | stay (place : List String) : Leads t place [] place
  | up (here steps place : List String) (inside : here ≠ []) (onward : Leads t here.dropLast steps place) :
      Leads t here (".." :: steps) place
  | down (here : List String) (step : String) (steps place : List String) (name : step ≠ "..")
      (directory : t.isDirectory (here ++ [step]) = true) (onward : Leads t (here ++ [step]) steps place) :
      Leads t here (step :: steps) place

/-- A file with this content stands at a place of the tree. -/
structure Holds (t : Tree) (place : List String) (content : Except String Bytes) : Prop where
  found : t.files.lookup place = some content
  file : t.isDirectory place = false

variable {t : Tree} {here place steps : List String} {step file : String}
  {content : Except String Bytes}

theorem Leads.of_directories {t' : Tree} (same : ∀ place, t.isDirectory place = t'.isDirectory place)
    (leads : t.Leads here steps place) : t'.Leads here steps place := by
  induction leads with
  | stay place => exact .stay place
  | up here steps place inside _ ih => exact .up here steps place inside ih
  | down here step steps place name directory _ ih =>
    exact .down here step steps place name ((same _).symm.trans directory) ih

theorem walk_up (inside : here ≠ []) : t.walk here (".." :: steps) = t.walk here.dropLast steps := by
  have filled : here.isEmpty = false := by simpa using inside
  rw [walk, if_pos rfl, filled]
  rfl

theorem walk_down (name : step ≠ "..") (directory : t.isDirectory (here ++ [step]) = true) :
    t.walk here (step :: steps) = t.walk (here ++ [step]) steps := by
  rw [walk, if_neg name]
  exact if_pos directory

theorem Leads.walk_append (leads : t.Leads here steps place) (more : List String) :
    t.walk here (steps ++ more) = t.walk place more := by
  induction leads with
  | stay => rfl
  | up here steps place inside _ ih => rw [List.cons_append, walk_up inside, ih]
  | down here step steps place name directory _ ih =>
    rw [List.cons_append, walk_down name directory, ih]

theorem walk_entry (name : file ≠ "..") :
    t.walk here [file] = some (ofReading content) ↔ t.Holds (here ++ [file]) content := by
  rw [walk, if_neg name]
  dsimp only
  cases directory : t.isDirectory (here ++ [file]) with
  | true =>
    constructor
    · intro same
      exact absurd (Option.some.inj same) (directory_ne_ofReading content)
    · intro held
      have file := held.file
      rw [directory] at file
      cases file
  | false =>
    simp only [Bool.false_eq_true, if_false, List.isEmpty_nil, if_true, Option.map_eq_some_iff,
      ofReading_injective.eq_iff, exists_eq_right]
    exact ⟨fun found => ⟨found, directory⟩, Holds.found⟩

/-- A walk that ends at a file came to it through directories. -/
theorem leads_of_walk (name : file ≠ "..")
    (found : t.walk here (steps ++ [file]) = some (ofReading content)) :
    ∃ place, t.Leads here steps place := by
  induction steps generalizing here with
  | nil => exact ⟨here, .stay here⟩
  | cons step steps ih =>
    rw [List.cons_append] at found
    by_cases up : step = ".."
    · subst up
      by_cases inside : here = []
      · -- above the tree there are no files
        subst inside
        simp [walk, name] at found
      · rw [walk_up inside] at found
        obtain ⟨place, leads⟩ := ih found
        exact ⟨place, .up here steps place inside leads⟩
    · cases directory : t.isDirectory (here ++ [step]) with
      | true =>
        rw [walk_down up directory] at found
        obtain ⟨place, leads⟩ := ih found
        exact ⟨place, .down here step steps place up directory leads⟩
      | false => simp [walk, up, directory] at found

theorem walk_eq_file_iff (name : file ≠ "..") :
    t.walk here (steps ++ [file]) = some (ofReading content) ↔
      ∃ place, t.Leads here steps place ∧ t.Holds (place ++ [file]) content := by
  constructor
  · intro found
    obtain ⟨place, leads⟩ := leads_of_walk name found
    rw [leads.walk_append, walk_entry name] at found
    exact ⟨place, leads, found⟩
  · rintro ⟨place, leads, held⟩
    rw [leads.walk_append, walk_entry name]
    exact held

theorem ofTree_eq_file_iff {path : String} (unslashed : path.toList.getLast? ≠ some '/')
    (undotted : ¬ ['/', '.'] <:+ path.toList) :
    ofTree t path = some (ofReading content) ↔
      ¬ IsAbsolute path ∧ t.walk [] (Disk.steps path) = some (ofReading content) := by
  unfold ofTree IsAbsolute
  by_cases empty : path = ""
  · subst empty
    have nowhere : Disk.steps "" = [] := rfl
    simp [nowhere, walk]
  · rw [if_neg (by simpa using empty)]
    by_cases absolute : path.toList.head? = some '/'
    · simp only [absolute, if_true, not_true_eq_false, false_and, iff_false]
      split <;> simp
    · have undotted' : path.endsWith "/." = false := by
        rw [String.endsWith_eq_endsWith_toSlice, String.Slice.endsWith_string_eq_false_iff]
        simpa using undotted
      simp only [absolute, if_false, not_false_eq_true, true_and, unslashed, undotted', decide_false,
        Bool.false_or, Bool.false_eq_true]
      split
      next found => rw [found]
      next => rfl

/-- In the disk that holds a tree, an entry of a directory is a file exactly if the directory's path is
relative and leads to a directory of the tree that holds the file. -/
theorem ofTree_join_iff {root : String} (entry : IsEntryName file) (content : Except String Bytes) :
    ofTree t (join root file) = some (ofReading content) ↔
      ¬ IsAbsolute root ∧
        ∃ place, t.Leads [] (Disk.steps root) place ∧ t.Holds (place ++ [file]) content := by
  obtain ⟨unslashed, undotted⟩ := join_ends root entry
  rw [ofTree_eq_file_iff unslashed undotted, head?_join entry, steps_join entry,
    walk_eq_file_iff entry.down]

end Tree

end ContractLaunch.Disk
