import ProviderGen.OrderedMap.Lemmas
import ProviderGen.Proofs.HostPath

/-!
What writing texts does to a file tree. A list of writes accounts for a change of the tree if every
written file holds its last text, every other file is untouched, and nothing but directories came
up besides. Writing one text is accounted for by itself. A write that the host fails changes at most
the file that it was to write, which may be left with the first bytes of the text.
-/

namespace ProviderGen

namespace FileTree

/-- The text that a list of writes leaves at a place: that of the last path that leads there. -/
def lastWritten? (tree : FileTree) (writes : List (HostPath × String)) (place : Location) :
    Option String :=
  (writes.reverse.find? fun file => tree.destination file.1 = place).map (·.2)

/-- A change of a tree that a list of writes accounts for. -/
structure Updated (before : FileTree) (writes : List (HostPath × String)) (after : FileTree) :
    Prop where
  together : after.workingDirectory = before.workingDirectory
  /-- Every path that was written leads to the place that its text was written to. -/
  located : ∀ file ∈ writes, after.locate file.1 = .ok (before.destination file.1)
  written : ∀ place text, before.lastWritten? writes place = some text →
    after.entryAt place = some (.file text.toUTF8)
  kept : ∀ place, before.lastWritten? writes place = none →
    after.entryAt place = before.entryAt place ∨
      before.entryAt place = none ∧ after.entryAt place = some .directory
  directories : ∀ place, before.entryAt place = some .directory →
    after.entryAt place = some .directory

/-- What a write that fails may do: directories come up, and if the file was opened before the write
failed, it holds the first bytes of its text. -/
structure Broken (before : FileTree) (file : HostPath × String) (after : FileTree) : Prop where
  together : after.workingDirectory = before.workingDirectory
  kept : ∀ place, after.entryAt place = before.entryAt place ∨
    before.entryAt place = none ∧ after.entryAt place = some .directory ∨
    place = before.destination file.1 ∧
      ∃ count, after.entryAt place = some (.file (file.2.toUTF8.extract 0 count))
  directories : ∀ place, before.entryAt place = some .directory →
    after.entryAt place = some .directory

/-- A change of a tree that a list of writes accounts for, and after them a write that failed, if
there is one. -/
def Disturbed (before : FileTree) (writes : List (HostPath × String))
    (failed? : Option (HostPath × String)) (after : FileTree) : Prop :=
  match failed? with
  | none => before.Updated writes after
  | some file => ∃ reached, before.Updated writes reached ∧ reached.Broken file after

/-! ### Looking at a changed tree -/

@[simp] theorem put_workingDirectory (tree : FileTree) (place : Location) (entry : Entry) :
    (tree.put place entry).workingDirectory = tree.workingDirectory := rfl

theorem entryAt_put (tree : FileTree) {place : Location} (inside : place ≠ []) (entry : Entry)
    (other : Location) :
    (tree.put place entry).entryAt other =
      if other = place then some entry else tree.entryAt other := by
  unfold entryAt put OrderedMap.insert
  dsimp only
  rw [OrderedMap.find?_alter]
  by_cases root : other = []
  · subst root
    rw [if_pos rfl, if_neg (Ne.symm inside), if_pos rfl]
  · rw [if_neg root, if_neg root]

theorem ne_root_of_entryAt {tree : FileTree} {place : Location}
    (other : tree.entryAt place ≠ some .directory) : place ≠ [] := by
  rintro rfl
  exact other rfl

theorem walk_cons_eq_ok_iff {tree : FileTree} {place found : Location} {segment : EntryName}
    {rest : List EntryName} :
    tree.walk place (segment :: rest) = .ok found ↔
      tree.entryAt place = some .directory ∧ segment.bytes.length ≤ nameLimit ∧
        tree.walk (place.step segment) rest = .ok found := by
  rw [walk]
  cases tree.entryAt place with
  | none => simp
  | some entry =>
    cases entry with
    | file content => simp
    | directory =>
      unfold Location.step
      by_cases skipped : segment = "" ∨ segment = "."
      · have short : segment.bytes.length ≤ nameLimit := by
          rcases skipped with rfl | rfl <;> decide
        simp [skipped, short]
      rw [if_neg skipped, if_neg (by simpa using skipped)]
      by_cases up : segment = ".."
      · subst up
        have short : (EntryName.ofText "..").bytes.length ≤ nameLimit := by decide
        simp [short]
      rw [if_neg up, if_neg up]
      by_cases short : segment.bytes.length ≤ nameLimit
      · simp [short, Nat.not_lt.mpr short]
      · simp [short, Nat.not_le.mp short]

theorem walk_of_directories {tree after : FileTree}
    (directories : ∀ place, tree.entryAt place = some .directory →
      after.entryAt place = some .directory)
    {segments : List EntryName} {place found : Location}
    (walked : tree.walk place segments = .ok found) : after.walk place segments = .ok found := by
  induction segments generalizing place with
  | nil => exact walked
  | cons segment rest ih =>
    obtain ⟨here, short, onwards⟩ := walk_cons_eq_ok_iff.mp walked
    exact walk_cons_eq_ok_iff.mpr ⟨directories place here, short, ih onwards⟩

theorem locate_of_directories {tree after : FileTree}
    (together : after.workingDirectory = tree.workingDirectory)
    (directories : ∀ place, tree.entryAt place = some .directory →
      after.entryAt place = some .directory)
    {path : HostPath} {found : Location} (located : tree.locate path = .ok found) :
    after.locate path = .ok found := by
  obtain ⟨checked, walked⟩ := locate_eq_ok_iff.mp located
  have start : after.start path.isAbsolute = tree.start path.isAbsolute := by
    unfold FileTree.start
    rw [together]
  exact locate_eq_ok_iff.mpr ⟨checked, start ▸ walk_of_directories directories walked⟩

/-! ### Accounting for changes -/

theorem lastWritten?_congr {tree other : FileTree}
    (together : tree.workingDirectory = other.workingDirectory)
    (writes : List (HostPath × String)) (place : Location) :
    tree.lastWritten? writes place = other.lastWritten? writes place := by
  unfold lastWritten?
  simp only [destination_congr together]

theorem lastWritten?_append (tree : FileTree) (writes later : List (HostPath × String))
    (place : Location) :
    tree.lastWritten? (writes ++ later) place =
      (tree.lastWritten? later place).or (tree.lastWritten? writes place) := by
  unfold lastWritten?
  rw [List.reverse_append, List.find?_append, Option.map_or]

theorem lastWritten?_singleton (tree : FileTree) (file : HostPath × String) (place : Location) :
    tree.lastWritten? [file] place =
      if place = tree.destination file.1 then some file.2 else none := by
  unfold lastWritten?
  rw [List.reverse_singleton, List.find?_singleton]
  by_cases same : place = tree.destination file.1
  · rw [if_pos same, if_pos (decide_eq_true same.symm), Option.map_some]
  · rw [if_neg same, if_neg (by simpa using Ne.symm same), Option.map_none]

theorem lastWritten?_eq_none_iff {tree : FileTree} {writes : List (HostPath × String)}
    {place : Location} :
    tree.lastWritten? writes place = none ↔
      ∀ file ∈ writes, tree.destination file.1 ≠ place := by
  simp [lastWritten?]

namespace Updated

theorem refl (tree : FileTree) : tree.Updated [] tree where
  together := rfl
  located := nofun
  written := nofun
  kept := fun _ _ => .inl rfl
  directories := fun _ here => here

theorem trans {before middle after : FileTree} {writes later : List (HostPath × String)}
    (first : before.Updated writes middle) (second : middle.Updated later after) :
    before.Updated (writes ++ later) after where
  together := second.together.trans first.together
  located := by
    intro file member
    rcases List.mem_append.mp member with earlier | last
    · exact locate_of_directories second.together second.directories (first.located file earlier)
    · rw [second.located file last, destination_congr first.together]
  written := by
    intro place text last
    rw [lastWritten?_append, lastWritten?_congr first.together.symm later] at last
    cases again : middle.lastWritten? later place with
    | some newer =>
      rw [again, Option.some_or] at last
      exact second.written place text (again.trans last)
    | none =>
      rw [again, Option.none_or] at last
      have held := first.written place text last
      rcases second.kept place again with same | ⟨missing, _⟩
      · rw [same, held]
      · rw [held] at missing
        cases missing
  kept := by
    intro place untouched
    rw [lastWritten?_append, Option.or_eq_none_iff, lastWritten?_congr first.together.symm later]
      at untouched
    rcases second.kept place untouched.1 with same | ⟨missing, made⟩
    · rw [same]
      exact first.kept place untouched.2
    · refine .inr ⟨?_, made⟩
      rcases first.kept place untouched.2 with same | ⟨absent, _⟩
      · rw [← same, missing]
      · exact absent
  directories := fun place here => second.directories place (first.directories place here)

theorem of_faults (tree : FileTree) (faults : List (Option Fault)) :
    tree.Updated [] { tree with faults } :=
  ⟨rfl, nofun, nofun, fun _ _ => .inl rfl, fun _ here => here⟩

theorem put_directory {tree : FileTree} {place : Location} (missing : tree.entryAt place = none) :
    tree.Updated [] (tree.put place .directory) := by
  have inside : place ≠ [] := by
    rintro rfl
    cases missing
  refine ⟨rfl, nofun, nofun, fun other _ => ?_, fun other here => ?_⟩
  · rw [entryAt_put tree inside]
    by_cases same : other = place
    · rw [if_pos same, same]
      exact .inr ⟨missing, rfl⟩
    · rw [if_neg same]
      exact .inl rfl
  · rw [entryAt_put tree inside, here, ite_self]

theorem put_file {tree : FileTree} {path : HostPath} (text : String)
    (located : tree.locate path = .ok (tree.destination path))
    (writable : tree.entryAt (tree.destination path) ≠ some .directory) :
    tree.Updated [(path, text)]
      (tree.put (tree.destination path) (.file text.toUTF8)) := by
  have inside := ne_root_of_entryAt writable
  have directories (place : Location) (here : tree.entryAt place = some .directory) :
      (tree.put (tree.destination path) (.file text.toUTF8)).entryAt place = some .directory := by
    rw [entryAt_put tree inside, if_neg, here]
    rintro rfl
    exact writable here
  refine ⟨rfl, fun file member => ?_, fun place last found => ?_, fun place untouched => ?_,
    directories⟩
  · rw [List.mem_singleton.mp member]
    have put := put_workingDirectory tree (tree.destination path) (.file text.toUTF8)
    exact locate_of_directories put directories located
  · rw [lastWritten?_singleton] at found
    split at found
    case isTrue here =>
      rw [entryAt_put tree inside, if_pos here, ← Option.some.inj found]
    case isFalse => cases found
  · rw [lastWritten?_singleton] at untouched
    split at untouched
    case isTrue => cases untouched
    case isFalse elsewhere =>
      rw [entryAt_put tree inside, if_neg elsewhere]
      exact .inl rfl

end Updated

/-! ### Operations on a tree -/

theorem exists_of_makeDirectory {tree made : FileTree} {path : HostPath}
    (success : tree.makeDirectory path = .ok made) :
    ∃ place, tree.entryAt place = none ∧ made = tree.put place .directory := by
  unfold makeDirectory at success
  split at success
  case h_1 => cases success
  case h_2 =>
  split at success
  case h_1 => cases success
  case h_2 last above _ =>
  split at success
  case h_1 => cases success
  case h_2 parent _ =>
  split at success
  case h_1 => cases success
  case h_2 => cases success
  case h_3 =>
  split at success
  case isTrue => cases success
  case isFalse =>
  split at success
  case isTrue => cases success
  case isFalse =>
  split at success
  case h_1 => cases success
  case h_2 missing => exact ⟨parent ++ [last], missing, (Except.ok.inj success).symm⟩

theorem updated_of_makeDirectory {tree made : FileTree} {path : HostPath}
    (success : tree.makeDirectory path = .ok made) : tree.Updated [] made := by
  obtain ⟨place, missing, rfl⟩ := exists_of_makeDirectory success
  exact .put_directory missing

theorem updated_makeDirectories (tree : FileTree) (paths : List HostPath) :
    tree.Updated [] (tree.makeDirectories paths).2 := by
  induction paths with
  | nil => exact .refl tree
  | cons path above ih =>
    rw [makeDirectories]
    split
    case isTrue => exact .refl tree
    case isFalse =>
    split
    case h_1 made success => exact updated_of_makeDirectory success
    case h_3 => split <;> exact .refl tree
    case h_2 =>
    split
    case h_1 reached failed =>
      rw [failed] at ih
      exact ih
    case h_2 reached success =>
    rw [success] at ih
    split
    case h_1 made again => exact ih.trans (updated_of_makeDirectory again)
    case h_2 => split <;> exact ih

theorem updated_createDirectories (tree : FileTree) (path : HostPath) :
    tree.Updated [] (tree.createDirectories path).2 :=
  updated_makeDirectories tree _

theorem replaceFile_eq_ok {tree written : FileTree} {path : HostPath} {content : ByteArray}
    (success : tree.replaceFile path content = .ok written) :
    tree.locate path = .ok (tree.destination path) ∧
      tree.entryAt (tree.destination path) ≠ some .directory ∧
      written = tree.put (tree.destination path) (.file content) := by
  unfold replaceFile at success
  split at success
  case h_1 => cases success
  case h_2 place located =>
  have there := eq_destination_of_locate located
  subst there
  split at success
  case h_1 => cases success
  case h_2 writable => exact ⟨located, writable, (Except.ok.inj success).symm⟩

def prepared (tree : FileTree) (path : HostPath) : Except IoFailure Unit × FileTree :=
  match path.parent? with
  | some parent => tree.createDirectories parent
  | none => (.ok (), tree)

theorem updated_prepared (tree : FileTree) (path : HostPath) :
    tree.Updated [] (tree.prepared path).2 := by
  unfold prepared
  split
  case h_1 parent _ => exact tree.updated_createDirectories parent
  case h_2 => exact .refl tree

theorem writeText_eq (tree : FileTree) (path : HostPath) (text : String) :
    tree.writeText path text =
      match tree.prepared path with
      | (.error failure, reached) => (.error failure, reached)
      | (.ok (), reached) => reached.writeFile path text.toUTF8 := by
  unfold writeText prepared
  cases path.parent? with
  | none => rfl
  | some parent =>
    dsimp only
    rcases tree.createDirectories parent with ⟨_ | _, reached⟩ <;> rfl

theorem writeFile_eq_ok {tree written : FileTree} {path : HostPath} {content : ByteArray}
    (success : tree.writeFile path content = (.ok (), written)) :
    { tree with faults := tree.faults.tail }.replaceFile path content = .ok written := by
  unfold writeFile at success
  dsimp only at success
  split at success
  case h_1 => cases success
  case h_2 => split at success <;> cases success
  case h_3 =>
  split at success
  case h_1 => cases success
  case h_2 replaced =>
    cases success
    exact replaced

theorem updated_of_writeText {tree written : FileTree} {path : HostPath} {text : String}
    (success : tree.writeText path text = (.ok (), written)) :
    tree.Updated [(path, text)] written := by
  rw [writeText_eq] at success
  have made := tree.updated_prepared path
  split at success
  case h_1 => cases success
  case h_2 reached ready =>
  rw [ready] at made
  obtain ⟨located, writable, rfl⟩ := replaceFile_eq_ok (writeFile_eq_ok success)
  exact made.trans ((Updated.of_faults reached _).trans (.put_file text located writable))

/-! ### Writes that fail -/

namespace Broken

variable {before middle after : FileTree} {file : HostPath × String}

theorem of_updated (updated : before.Updated [] after) : before.Broken file after where
  together := updated.together
  kept := fun place => by
    rcases updated.kept place rfl with same | made
    · exact .inl same
    · exact .inr (.inl made)
  directories := updated.directories

theorem trans (updated : before.Updated [] middle) (broken : middle.Broken file after) :
    before.Broken file after where
  together := broken.together.trans updated.together
  kept := by
    intro place
    rcases broken.kept place with same | ⟨missing, made⟩ | ⟨there, begun⟩
    · rw [same]
      exact (of_updated updated).kept place
    · rcases updated.kept place rfl with same | ⟨_, directory⟩
      · exact .inr (.inl ⟨same.symm.trans missing, made⟩)
      · rw [missing] at directory
        cases directory
    · rw [destination_congr updated.together] at there
      exact .inr (.inr ⟨there, begun⟩)
  directories := fun place here => broken.directories place (updated.directories place here)

theorem put_start {tree : FileTree} {path : HostPath} (text : String) (count : Nat)
    (writable : tree.entryAt (tree.destination path) ≠ some .directory) :
    tree.Broken (path, text)
      (tree.put (tree.destination path) (.file (text.toUTF8.extract 0 count))) := by
  have inside := ne_root_of_entryAt writable
  refine ⟨rfl, fun place => ?_, fun place here => ?_⟩
  · rw [entryAt_put tree inside]
    by_cases there : place = tree.destination path
    · rw [if_pos there]
      exact .inr (.inr ⟨there, count, rfl⟩)
    · rw [if_neg there]
      exact .inl rfl
  · rw [entryAt_put tree inside, if_neg, here]
    rintro rfl
    exact writable here

end Broken

theorem writeFile_eq_error {tree reached : FileTree} {path : HostPath} {content : ByteArray}
    {cause : IoFailure} (failure : tree.writeFile path content = (.error cause, reached)) :
    reached = { tree with faults := tree.faults.tail } ∨
      ∃ count, tree.faults.head? = some (some (.torn count cause)) ∧
        { tree with faults := tree.faults.tail }.replaceFile path (content.extract 0 count) =
          .ok reached := by
  unfold writeFile at failure
  dsimp only at failure
  split at failure
  case h_1 =>
    cases failure
    exact .inl rfl
  case h_2 count _ _ faults =>
    split at failure
    case h_1 =>
      cases failure
      exact .inl rfl
    case h_2 replaced =>
      cases failure
      exact .inr ⟨count, by rw [faults]; rfl, replaced⟩
  case h_3 =>
    split at failure
    case h_1 =>
      cases failure
      exact .inl rfl
    case h_2 => cases failure

theorem faults_of_makeDirectory {tree made : FileTree} {path : HostPath}
    (success : tree.makeDirectory path = .ok made) : made.faults = tree.faults := by
  obtain ⟨place, _, rfl⟩ := exists_of_makeDirectory success
  rfl

theorem faults_makeDirectories (tree : FileTree) (paths : List HostPath) :
    (tree.makeDirectories paths).2.faults = tree.faults := by
  induction paths with
  | nil => rfl
  | cons path above ih =>
    rw [makeDirectories]
    split
    case isTrue => rfl
    case isFalse =>
    split
    case h_1 made success => exact faults_of_makeDirectory success
    case h_3 => split <;> rfl
    case h_2 =>
    split
    case h_1 reached failed =>
      rw [failed] at ih
      exact ih
    case h_2 reached success =>
    rw [success] at ih
    split
    case h_1 made again => exact (faults_of_makeDirectory again).trans ih
    case h_2 => split <;> exact ih

theorem faults_prepared (tree : FileTree) (path : HostPath) :
    (tree.prepared path).2.faults = tree.faults := by
  unfold prepared
  split
  case h_1 => exact faults_makeDirectories tree _
  case h_2 => rfl

theorem faults_writeText (tree : FileTree) (path : HostPath) (text : String) :
    (tree.writeText path text).2.faults <:+ tree.faults := by
  have faults := tree.faults_prepared path
  have replaced {later written : FileTree} {content : ByteArray}
      (success : later.replaceFile path content = .ok written) : written.faults = later.faults := by
    obtain ⟨_, _, rfl⟩ := replaceFile_eq_ok success
    rfl
  rw [writeText_eq]
  split
  case h_1 ready =>
    rw [ready] at faults
    exact faults ▸ List.suffix_refl _
  case h_2 reached ready =>
  rw [ready] at faults
  change reached.faults = tree.faults at faults
  rw [← faults]
  have spent := List.tail_suffix reached.faults
  unfold writeFile
  dsimp only
  split
  case h_1 => exact spent
  case h_2 =>
    split
    case h_1 => exact spent
    case h_2 success => exact replaced success ▸ spent
  case h_3 =>
    split
    case h_1 => exact spent
    case h_2 success => exact replaced success ▸ spent

/-- A text that cannot be written breaks no file but its own, and none at all unless the host tears
the write. -/
theorem broken_of_writeText {tree reached : FileTree} {path : HostPath} {text : String}
    {cause : IoFailure} (failure : tree.writeText path text = (.error cause, reached)) :
    tree.Broken (path, text) reached ∧
      ((∀ count, tree.faults.head? ≠ some (some (.torn count cause))) →
        tree.Updated [] reached) := by
  rw [writeText_eq] at failure
  have made := tree.updated_prepared path
  have faults := tree.faults_prepared path
  split at failure
  case h_1 ready =>
    rw [ready] at made
    cases failure
    exact ⟨.of_updated made, fun _ => made⟩
  case h_2 prepared ready =>
  rw [ready] at made faults
  have spent := made.trans (.of_faults prepared prepared.faults.tail)
  rcases writeFile_eq_error failure with rfl | ⟨count, torn, begun⟩
  · exact ⟨.of_updated spent, fun _ => spent⟩
  · obtain ⟨_, writable, rfl⟩ := replaceFile_eq_ok begun
    refine ⟨.trans spent (.put_start text count writable), fun whole => ?_⟩
    change prepared.faults = tree.faults at faults
    rw [faults] at torn
    exact absurd torn (whole count)

/-! ### Disturbed changes -/

theorem Updated.disturbed {before middle after : FileTree} {writes later : List (HostPath × String)}
    {failed? : Option (HostPath × String)} (updated : before.Updated writes middle)
    (disturbed : middle.Disturbed later failed? after) :
    before.Disturbed (writes ++ later) failed? after := by
  cases failed? with
  | none => exact updated.trans disturbed
  | some file =>
    obtain ⟨reached, whole, broken⟩ := disturbed
    exact ⟨reached, updated.trans whole, broken⟩

theorem Updated.with_faults {before after : FileTree} {writes : List (HostPath × String)}
    (updated : before.Updated writes after) (faults : List (Option Fault)) :
    before.Updated writes { after with faults } := by
  have spent := updated.trans (.of_faults after faults)
  rwa [List.append_nil] at spent

theorem Disturbed.with_faults {before after : FileTree} {writes : List (HostPath × String)}
    {failed? : Option (HostPath × String)} (disturbed : before.Disturbed writes failed? after)
    (faults : List (Option Fault)) : before.Disturbed writes failed? { after with faults } := by
  cases failed? with
  | none => exact Updated.with_faults disturbed faults
  | some file =>
    obtain ⟨reached, whole, broken⟩ := disturbed
    exact ⟨reached, whole, ⟨broken.together, broken.kept, broken.directories⟩⟩

end FileTree

end ProviderGen
