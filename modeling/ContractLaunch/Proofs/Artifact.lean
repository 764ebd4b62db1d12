import ContractLaunch.Artifact
import ContractLaunch.Proofs.Disk
import ContractLaunch.Proofs.Setup.Ground
import ContractLaunch.Proofs.Text.Search
import Mathlib
/-!
Where the name of a contract leads. The name, without one extension at its end, is refused if it could
be more or less than one step down a path; otherwise it leads to one file in the artifact directory,
and nothing but what reading the files there with the extension gives decides what is loaded.
-/
namespace ContractLaunch.Artifact

open Disk

/-- What is left of a name without one extension at its end. -/
inductive IsStem : (name stem : List Char) → Prop
  | extended (stem : List Char) : IsStem (stem ++ extension) stem
  | bare (name : List Char) (unextended : ¬ extension <:+ name) : IsStem name name

/-- A stem that is one step down a path, on any system. -/
structure Usable (stem : List Char) : Prop where
  filled : stem ≠ []
  other : stem ≠ ['.']
  down : stem ≠ ['.', '.']
  slash : '/' ∉ stem
  backslash : '\\' ∉ stem

def fileName (stem : List Char) : String := String.ofList (stem ++ extension)

variable {root name : String} {s other : List Char} {file p cause : String} {bytes : Bytes} {disk disk' : Disk}

theorem isStem_stem (cs : List Char) : IsStem cs (stem cs) := by
  unfold stem
  split
  next rest found =>
    have split := congrArg List.reverse (Text.eq_append_of_afterStart? found)
    rw [List.reverse_reverse, List.reverse_append, List.reverse_reverse] at split
    rw [split]
    exact .extended rest.reverse
  next absent =>
    refine .bare cs fun extended => ?_
    rw [Text.afterStart?_eq_none_iff, List.reverse_prefix] at absent
    exact absent extended

theorem IsStem.unique {cs : List Char} (first : IsStem cs s) (second : IsStem cs other) : s = other := by
  cases first with
  | extended =>
    generalize same : s ++ extension = cs at second
    cases second with
    | extended => exact List.append_cancel_right same
    | bare _ unextended => exact absurd ⟨s, same⟩ unextended
  | bare _ unextended =>
    cases second with
    | extended => exact absurd (List.suffix_append _ _) unextended
    | bare => rfl

theorem isStem_iff {cs : List Char} : IsStem cs s ↔ stem cs = s := by
  constructor
  · exact fun isStem => (isStem_stem cs).unique isStem
  · rintro rfl
    exact isStem_stem cs

theorem isPlain_iff : isPlain s = true ↔ Usable s := by
  simp only [isPlain, Bool.not_eq_true', Bool.or_eq_false_iff, List.isEmpty_eq_false_iff,
    decide_eq_false_iff_not, List.contains_eq_mem]
  constructor
  · rintro ⟨⟨⟨⟨filled, other⟩, down⟩, slash⟩, backslash⟩
    exact ⟨filled, other, down, slash, backslash⟩
  · rintro ⟨filled, other, down, slash, backslash⟩
    exact ⟨⟨⟨⟨filled, other⟩, down⟩, slash⟩, backslash⟩

theorem path_eq (root name : String) : path root name =
    if isPlain (stem name.toList) then .ok (join root (fileName (stem name.toList)))
    else .error (.invalidName (String.ofList (stem name.toList))) := rfl

theorem path_eq_ok_iff (isStem : IsStem name.toList s) :
    path root name = .ok p ↔ Usable s ∧ p = join root (fileName s) := by
  obtain rfl := isStem_iff.mp isStem
  rw [path_eq, ← isPlain_iff]
  split
  next plain => simp [plain, eq_comm]
  next plain => simp [plain]

theorem fault_of_path (isStem : IsStem name.toList s) {fault : ArtifactFault}
    (refused : path root name = .error fault) : fault = .invalidName (String.ofList s) := by
  obtain rfl := isStem_iff.mp isStem
  rw [path_eq] at refused
  split at refused
  next => cases refused
  next => exact (Except.error.inj refused).symm

theorem fileName_injective (same : fileName s = fileName other) : s = other :=
  List.append_cancel_right (String.ofList_injective same)

theorem Usable.entry (usable : Usable s) : IsEntryName (fileName s) := by
  have long : extension.length ≤ (fileName s).toList.length := by
    rw [fileName, String.toList_ofList, List.length_append]
    exact Nat.le_add_left _ _
  have short {name : String} (few : name.toList.length < extension.length) : fileName s ≠ name := by
    rintro rfl
    omega
  refine ⟨?_, short (by decide), short (by decide), short (by decide)⟩
  rw [fileName, String.toList_ofList, List.mem_append, not_or]
  exact ⟨usable.slash, by decide⟩

theorem path_extended (unextended : ¬ extension <:+ name.toList) :
    path root (name ++ ".wasm") = path root name := by
  have bare : stem name.toList = name.toList := isStem_iff.mp (.bare _ unextended)
  have extended : stem (name ++ ".wasm").toList = name.toList := by
    rw [String.toList_append]
    exact isStem_iff.mp (.extended _)
  rw [path_eq, path_eq, bare, extended]

theorem load_eq (disk : Disk) (root name : String) :
    load disk root name = (path root name).bind fun p =>
      match disk.fileAt? p with
      | some (.ok bytes) => if magic.isPrefixOf bytes then .ok bytes else .error (.notWasm p)
      | some (.error cause) => .error (.unreadable p cause)
      | none => .error (.notFound p) := by
  change (path root name).bind _ = _
  refine congrArg _ (funext fun p => ?_)
  unfold fileAt?
  cases disk p with
  | none => rfl
  | some entry => cases entry <;> rfl

theorem load_eq_ok_iff : load disk root name = .ok bytes ↔
    ∃ p, path root name = .ok p ∧ disk p = some (.file bytes) ∧ magic <+: bytes := by
  rw [load_eq]
  constructor
  · intro loaded
    obtain ⟨p, leads, found⟩ := except_bind_ok loaded
    refine ⟨p, leads, ?_⟩
    split at found
    next content held =>
      split at found
      next begins =>
        obtain rfl := Except.ok.inj found
        exact ⟨fileAt?_eq_some_iff.mp held, List.isPrefixOf_iff_prefix.mp begins⟩
      next => cases found
    next => cases found
    next => cases found
  · rintro ⟨p, leads, held, begins⟩
    have reading : disk.fileAt? p = some (.ok bytes) := fileAt?_eq_some_iff.mpr held
    rw [leads, Except.bind, reading]
    exact if_pos (List.isPrefixOf_iff_prefix.mpr begins)

theorem load_eq_unreadable_iff : load disk root name = .error (.unreadable p cause) ↔
    path root name = .ok p ∧ disk p = some (.unreadable cause) := by
  rw [load_eq]
  constructor
  · intro failed
    cases leads : path root name with
    | error fault =>
      rw [leads] at failed
      obtain rfl := Except.error.inj failed
      cases fault_of_path (isStem_stem name.toList) leads
    | ok q =>
      rw [leads, Except.bind] at failed
      split at failed
      next => split at failed <;> cases failed
      next reason held =>
        obtain ⟨rfl, rfl⟩ := ArtifactFault.unreadable.inj (Except.error.inj failed)
        exact ⟨rfl, fileAt?_eq_some_iff.mp held⟩
      next => cases failed
  · rintro ⟨leads, held⟩
    have reading : disk.fileAt? p = some (.error cause) := fileAt?_eq_some_iff.mpr held
    rw [leads, Except.bind, reading]

theorem load_congr (same : ∀ s, Usable s →
      disk.fileAt? (join root (fileName s)) = disk'.fileAt? (join root (fileName s))) :
    load disk root name = load disk' root name := by
  rw [load_eq, load_eq]
  cases leads : path root name with
  | error fault => rfl
  | ok p =>
    obtain ⟨usable, rfl⟩ := (path_eq_ok_iff (isStem_stem name.toList)).mp leads
    rw [Except.bind, Except.bind, same _ usable]

theorem load_ofTree_iff {t : Tree} (isStem : IsStem name.toList s) :
    load (ofTree t) root name = .ok bytes ↔
      Usable s ∧ ¬ IsAbsolute root ∧ magic <+: bytes ∧
        ∃ place, t.Leads [] (Disk.steps root) place ∧ t.Holds (place ++ [fileName s]) (.ok bytes) := by
  rw [load_eq_ok_iff]
  constructor
  · rintro ⟨p, leads, held, begins⟩
    obtain ⟨usable, rfl⟩ := (path_eq_ok_iff isStem).mp leads
    obtain ⟨relative, place⟩ := (Tree.ofTree_join_iff usable.entry (.ok bytes)).mp held
    exact ⟨usable, relative, begins, place⟩
  · rintro ⟨usable, relative, begins, place⟩
    exact ⟨_, (path_eq_ok_iff isStem).mpr ⟨usable, rfl⟩,
      (Tree.ofTree_join_iff usable.entry (.ok bytes)).mpr ⟨relative, place⟩, begins⟩

/-- Two trees with the same directories and, where the steps of a path lead, the same files with the
extension. -/
structure AgreeAt (root : String) (t t' : Tree) : Prop where
  directories : ∀ place, t.isDirectory place = t'.isDirectory place
  files : ∀ place s, t.Leads [] (Disk.steps root) place → Usable s →
    t.files.lookup (place ++ [fileName s]) = t'.files.lookup (place ++ [fileName s])

theorem AgreeAt.symm {t t' : Tree} (agree : AgreeAt root t t') : AgreeAt root t' t where
  directories place := (agree.directories place).symm
  files place s leads usable :=
    (agree.files place s (leads.of_directories fun p => (agree.directories p).symm) usable).symm

theorem AgreeAt.held {t t' : Tree} {content : Except String Bytes} (agree : AgreeAt root t t')
    (usable : Usable s) (held : (ofTree t).fileAt? (join root (fileName s)) = some content) :
    (ofTree t').fileAt? (join root (fileName s)) = some content := by
  rw [fileAt?_eq_some_iff, Tree.ofTree_join_iff usable.entry content] at held ⊢
  obtain ⟨relative, place, leads, found, file⟩ := held
  refine ⟨relative, place, leads.of_directories agree.directories, ?_, ?_⟩
  · rw [← agree.files place s leads usable, found]
  · rw [← agree.directories, file]

/-- The name of a contract leads to a path exactly if its stem is usable, and then one step down from
the root; the stem alone decides which. The whole content of the file there is loaded exactly if it
starts as bytecode does. No other file matters, on any disk, and in a tree the file that is loaded
stands in the directory where the steps of the root lead. -/
theorem names_confined (root : String) :
    (∀ name s, IsStem name.toList s →
      ((∃ p, path root name = .ok p) ↔ Usable s) ∧
      (∀ p, path root name = .ok p → Extends root (fileName s) p) ∧
      ∀ fault, path root name = .error fault → fault = .invalidName (String.ofList s)) ∧
    (∀ name name' s s' p p', IsStem name.toList s → IsStem name'.toList s' → path root name = .ok p →
      path root name' = .ok p' → (p = p' ↔ s = s')) ∧
    (∀ name, ¬ extension <:+ name.toList → path root (name ++ ".wasm") = path root name ∧
      ∀ disk, load disk root (name ++ ".wasm") = load disk root name) ∧
    (∀ disk name bytes, load disk root name = .ok bytes ↔
      ∃ p, path root name = .ok p ∧ disk p = some (.file bytes) ∧ magic <+: bytes) ∧
    (∀ disk name p cause, load disk root name = .error (.unreadable p cause) ↔
      path root name = .ok p ∧ disk p = some (.unreadable cause)) ∧
    (∀ disk disk' : Disk,
      (∀ s, Usable s →
        disk.fileAt? (join root (fileName s)) = disk'.fileAt? (join root (fileName s))) →
      ∀ name, load disk root name = load disk' root name) ∧
    (∀ t name s bytes, IsStem name.toList s → (load (ofTree t) root name = .ok bytes ↔
      Usable s ∧ ¬ IsAbsolute root ∧ magic <+: bytes ∧
        ∃ place, t.Leads [] (Disk.steps root) place ∧
          t.Holds (place ++ [fileName s]) (.ok bytes))) ∧
    ∀ t t' : Tree, AgreeAt root t t' → ∀ name, load (ofTree t) root name = load (ofTree t') root name := by
  refine ⟨fun name s isStem => ⟨?_, ?_, fun _ => fault_of_path isStem⟩, ?_, ?_, fun _ _ _ => load_eq_ok_iff,
    fun _ _ _ _ => load_eq_unreadable_iff, fun disk disk' same name => load_congr same,
    fun _ _ _ _ => load_ofTree_iff, ?_⟩
  · simp [path_eq_ok_iff isStem]
  · intro p leads
    obtain ⟨usable, rfl⟩ := (path_eq_ok_iff isStem).mp leads
    exact extends_join root usable.entry
  · intro name name' s s' p p' isStem isStem' leads leads'
    obtain ⟨-, rfl⟩ := (path_eq_ok_iff isStem).mp leads
    obtain ⟨-, rfl⟩ := (path_eq_ok_iff isStem').mp leads'
    exact ⟨fun same => fileName_injective (join_injective same), fun same => same ▸ rfl⟩
  · intro name unextended
    have same : path root (name ++ ".wasm") = path root name := path_extended unextended
    refine ⟨same, fun disk => ?_⟩
    rw [load_eq, load_eq, same]
  · intro t t' agree name
    refine load_congr fun s usable => Option.ext fun content => ?_
    exact ⟨agree.held usable, agree.symm.held usable⟩

def launchTree : Tree :=
  ⟨[(["campaign.wasm"], .ok magic),
    (["artifacts", "campaign.wasm"], .ok (magic ++ [1, 0, 0, 0]))], []⟩

/-- A root that goes down and up again leads where it ends, with and without the extension. -/
theorem names_confined_campaign :
    load (ofTree launchTree) "artifacts/../artifacts" "campaign" = .ok (magic ++ [1, 0, 0, 0]) ∧
    load (ofTree launchTree) "artifacts/../artifacts" "campaign.wasm" = .ok (magic ++ [1, 0, 0, 0]) ∧
    ¬ (∃ p, path "artifacts/../artifacts" "...wasm" = .ok p) := by
  obtain ⟨paths, -, extended, -, -, -, loads, -⟩ := names_confined "artifacts/../artifacts"
  have bare : IsStem "campaign".toList "campaign".toList := .bare _ (by decide)
  have usable : Usable "campaign".toList := ⟨by decide, by decide, by decide, by decide, by decide⟩
  have loaded : load (ofTree launchTree) "artifacts/../artifacts" "campaign" = .ok (magic ++ [1, 0, 0, 0]) := by
    have relative : ¬ IsAbsolute "artifacts/../artifacts" := by
      unfold IsAbsolute
      decide
    refine (loads launchTree "campaign" _ _ bare).mpr ⟨usable, relative, by decide, ["artifacts"], ?_, ?_⟩
    · change launchTree.Leads [] ["artifacts", "..", "artifacts"] ["artifacts"]
      exact .down _ _ _ _ (by decide) (by decide) (.up _ _ _ (by decide)
        (.down _ _ _ _ (by decide) (by decide) (.stay _)))
    · exact ⟨by decide, by decide⟩
  refine ⟨loaded, ((extended "campaign" (by decide)).2 _).trans loaded, ?_⟩
  have above : IsStem "...wasm".toList ['.', '.'] := .extended ['.', '.']
  rw [(paths "...wasm" ['.', '.'] above).1]
  exact fun usable => usable.down rfl

end ContractLaunch.Artifact
