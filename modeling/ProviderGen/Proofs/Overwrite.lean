import Mathlib.Data.List.Induction
import Mathlib.Data.List.TakeWhile
import ProviderGen.Proofs.FileEffect

/-!
Writing to files that exist. The directories above such a file are there already and are left
alone, so its content is replaced and nothing else changes.
-/

namespace ProviderGen

namespace HostPath

/-! ### The path above -/

theorem trimBackwards_eq {backwards : List String} (some : backwards ≠ []) :
    ∃ dropped, backwards = dropped ++ trimBackwards backwards ∧ trimBackwards backwards ≠ [] ∧
      ∀ segment ∈ dropped, segment = "" ∨ segment = "." := by
  induction backwards using trimBackwards.induct with
  | case1 => exact absurd rfl some
  | case2 first => exact ⟨[], rfl, List.cons_ne_nil _ _, nofun⟩
  | case3 segment rest long skipped ih =>
    obtain ⟨dropped, cut, kept, dots⟩ := ih (by rintro rfl; exact long rfl)
    rw [trimBackwards, if_pos skipped]
    · refine ⟨segment :: dropped, congrArg (segment :: ·) cut, kept, fun other member => ?_⟩
      rcases List.mem_cons.mp member with rfl | member
      · simpa using skipped
      · exact dots other member
    · exact long
  | case4 segment rest long counts =>
    rw [trimBackwards, if_neg counts]
    · exact ⟨[], rfl, List.cons_ne_nil _ _, nofun⟩
    · exact long

theorem head?_ancestorsBackwards {backwards : List String} {above : HostPath}
    (nearest : (ancestorsBackwards backwards).head? = some above) :
    above.text = "" ∨ ∃ later segment rest, backwards = later ++ segment :: rest ∧ rest ≠ [] ∧
      above = ofSegments (trimBackwards rest).reverse := by
  induction backwards using ancestorsBackwards.induct with
  | case1 => cases nearest
  | case2 => cases nearest
  | case3 first some =>
    rw [ancestorsBackwards, if_neg some] at nearest
    cases nearest
    exact .inl rfl
  | case4 segment rest long skipped ih =>
    rw [ancestorsBackwards, if_pos skipped] at nearest
    · rcases ih nearest with empty | ⟨later, name, before, cut, some, spelled⟩
      · exact .inl empty
      · exact .inr ⟨segment :: later, name, before, congrArg (segment :: ·) cut, some, spelled⟩
    · exact long
  | case5 segment rest long counts ih =>
    rw [ancestorsBackwards, if_neg counts] at nearest
    · cases nearest
      exact .inr ⟨[], segment, rest, rfl, by rintro rfl; exact long rfl, rfl⟩
    · exact long

theorem exists_segments_of_parent? {path parent : HostPath} (above : path.parent? = some parent)
    (some : parent.text ≠ "") :
    ∃ kept dropped segment later,
      path.segments = kept ++ (dropped ++ segment :: later) ∧ kept ≠ [] ∧
      (∀ dot ∈ dropped, dot = "" ∨ dot = ".") ∧ parent = ofSegments kept := by
  rcases head?_ancestorsBackwards above with empty | ⟨later, segment, rest, cut, long, rfl⟩
  · exact absurd empty some
  · obtain ⟨dropped, trimmed, kept, dots⟩ := trimBackwards_eq long
    refine ⟨(trimBackwards rest).reverse, dropped.reverse, segment, later.reverse, ?_,
      by simpa using kept, fun dot member => dots dot (List.mem_reverse.mp member), rfl⟩
    have backwards := congrArg List.reverse cut
    rw [List.reverse_reverse] at backwards
    rw [backwards, List.reverse_append, List.reverse_cons]
    nth_rewrite 1 [trimmed]
    simp only [List.reverse_append, List.append_assoc, List.singleton_append]

theorem segments_ofSegments {kept : List String} (unbroken : ∀ name ∈ kept, '/' ∉ name.toList)
    (some : kept ≠ []) :
    (ofSegments kept).segments = kept ∨ (ofSegments kept).segments = kept ++ [""] := by
  unfold ofSegments segments
  split
  case isTrue root =>
    rw [root]
    exact .inr rfl
  case isFalse => exact .inl (Text.split_joined unbroken some)

theorem exists_text_of_parent? {path parent : HostPath} (above : path.parent? = some parent) :
    ∃ rest, path.text = parent.text ++ rest := by
  by_cases some : parent.text = ""
  · exact ⟨path.text, by rw [some, String.empty_append]⟩
  obtain ⟨kept, dropped, segment, later, cut, long, _, rfl⟩ := exists_segments_of_parent? above some
  have spelled := Text.joined_split '/' path.text
  change Text.joined '/' path.segments = path.text at spelled
  rw [← spelled, cut, Text.joined_append long (by simp)]
  unfold ofSegments
  split
  case isTrue root =>
    rw [root]
    exact ⟨_, rfl⟩
  case isFalse => exact ⟨_, String.append_assoc⟩

theorem isAbsolute_of_parent? {path parent : HostPath} (above : path.parent? = some parent)
    (some : parent.text ≠ "") : parent.isAbsolute = path.isAbsolute := by
  obtain ⟨rest, spelled⟩ := exists_text_of_parent? above
  unfold isAbsolute Text.startsWith
  rw [spelled, String.toList_append]
  cases letters : parent.text.toList with
  | nil => exact absurd (String.toList_eq_nil_iff.mp letters) some
  | cons letter more => rfl

end HostPath

namespace FileTree

/-! ### Directories that exist -/

theorem walk_append_eq_ok_iff {tree : FileTree} {place found : Location}
    {segments later : List EntryName} :
    tree.walk place (segments ++ later) = .ok found ↔
      ∃ middle, tree.walk place segments = .ok middle ∧ tree.walk middle later = .ok found := by
  induction segments generalizing place with
  | nil =>
    refine ⟨fun walked => ⟨place, rfl, walked⟩, fun ⟨_, first, rest⟩ => ?_⟩
    cases first
    exact rest
  | cons segment rest ih =>
    rw [List.cons_append, walk_cons_eq_ok_iff, ih]
    constructor
    · rintro ⟨here, short, middle, first, second⟩
      exact ⟨middle, walk_cons_eq_ok_iff.mpr ⟨here, short, first⟩, second⟩
    · rintro ⟨middle, first, second⟩
      obtain ⟨here, short, onwards⟩ := walk_cons_eq_ok_iff.mp first
      exact ⟨here, short, middle, onwards, second⟩

theorem eq_of_walk_dots {tree : FileTree} {place found : Location} {dots : List EntryName}
    (dotted : ∀ dot ∈ dots, dot = ↑"" ∨ dot = ↑".") (walked : tree.walk place dots = .ok found) :
    found = place := by
  induction dots generalizing place with
  | nil => exact (Except.ok.inj walked).symm
  | cons dot rest ih =>
    obtain ⟨_, _, onwards⟩ := walk_cons_eq_ok_iff.mp walked
    have stays : place.step dot = place := if_pos (dotted dot List.mem_cons_self)
    rw [stays] at onwards
    exact ih (fun other member => dotted other (List.mem_cons_of_mem _ member)) onwards

def LeadsToDirectory (tree : FileTree) (path : HostPath) (place : Location) : Prop :=
  tree.locate path = .ok place ∧ tree.entryAt place = some .directory

theorem checkPath_eq_ok_iff {path : RawPath} :
    checkPath path = .ok () ↔
      0 ∉ path.bytes ∧ path.bytes ≠ [] ∧ path.bytes.length ≤ pathLimit := by
  unfold checkPath
  by_cases nul : 0 ∈ path.bytes
  · simp [nul]
  by_cases empty : path.bytes = []
  · simp [empty]
  by_cases long : path.bytes.length ≤ pathLimit
  · simp [nul, empty, long]
  · simp [nul, empty, long, Nat.not_le.mp long]

theorem exists_directory_of_parent? {tree : FileTree} {path parent : HostPath} {found : Location}
    (located : tree.locate path = .ok found) (above : path.parent? = some parent)
    (some : parent.text ≠ "") : ∃ place, tree.LeadsToDirectory parent place := by
  obtain ⟨sound, walked⟩ := locate_eq_ok_iff.mp located
  obtain ⟨kept, dropped, segment, later, cut, long, dots, spelled⟩ :=
    HostPath.exists_segments_of_parent? above some
  rw [cut, List.map_append, walk_append_eq_ok_iff] at walked
  obtain ⟨place, first, rest⟩ := walked
  rw [List.map_append] at rest
  obtain ⟨middle, stays, onwards⟩ := walk_append_eq_ok_iff.mp rest
  have same : middle = place := by
    refine eq_of_walk_dots (fun dot member => ?_) stays
    obtain ⟨segment, listed, rfl⟩ := List.mem_map.mp member
    exact (dots segment listed).imp (congrArg EntryName.ofText) (congrArg EntryName.ofText)
  subst same
  obtain ⟨here, _, _⟩ := walk_cons_eq_ok_iff.mp onwards
  refine ⟨middle, locate_eq_ok_iff.mpr ⟨?_, ?_⟩, here⟩
  · obtain ⟨more, text⟩ := HostPath.exists_text_of_parent? above
    have bytes : path.raw.bytes = parent.raw.bytes ++ Text.bytes more := by
      unfold HostPath.raw
      rw [text, Text.bytes_append]
    obtain ⟨nul, _, bounded⟩ := checkPath_eq_ok_iff.mp sound
    rw [bytes, List.mem_append] at nul
    rw [bytes, List.length_append] at bounded
    exact checkPath_eq_ok_iff.mpr ⟨fun inside => nul (.inl inside),
      fun none => some (Text.bytes_eq_nil_iff.mp none), by omega⟩
  · have unbroken : ∀ name ∈ kept, '/' ∉ name.toList := fun name member =>
      Text.not_mem_of_mem_split (s := path.text) (by
        change name ∈ path.segments
        rw [cut]
        exact List.mem_append_left _ member)
    rw [HostPath.isAbsolute_of_parent? above some, spelled]
    rcases HostPath.segments_ofSegments unbroken long with segments | segments
    · rw [segments]
      exact first
    · rw [segments, List.map_append]
      refine walk_append_eq_ok_iff.mpr ⟨middle, first, walk_cons_eq_ok_iff.mpr ⟨here, ?_, rfl⟩⟩
      decide

theorem makeDirectory_of_directory {tree : FileTree} {path : HostPath} {place : Location}
    (leads : tree.LeadsToDirectory path place) :
    ∃ cause, tree.makeDirectory path = .error cause ∧ cause ≠ .notFound := by
  obtain ⟨located, here⟩ := leads
  obtain ⟨sound, walked⟩ := locate_eq_ok_iff.mp located
  rw [← HostPath.raw_segments] at walked
  unfold makeDirectory
  rw [sound]
  generalize path.raw.segments = segments at walked
  have cut := List.takeWhile_append_dropWhile (p := (· == .ofText "")) (l := segments.reverse)
  have notEmpty := List.head?_dropWhile_not (· == .ofText "") segments.reverse
  cases named : segments.reverse.dropWhile (· == .ofText "") with
  | nil => exact ⟨.alreadyExists, rfl, nofun⟩
  | cons last above =>
    rw [named] at cut notEmpty
    have name : last ≠ "" := by simpa using notEmpty
    have forwards := congrArg List.reverse cut
    rw [List.reverse_reverse, List.reverse_append, List.reverse_cons, List.append_assoc,
      List.singleton_append] at forwards
    rw [← forwards, walk_append_eq_ok_iff] at walked
    obtain ⟨parent, first, rest⟩ := walked
    obtain ⟨inside, short, onwards⟩ := walk_cons_eq_ok_iff.mp rest
    have ends : place = parent.step last := eq_of_walk_dots (fun dot member => .inl (by
      simpa using List.mem_takeWhile_imp (List.mem_reverse.mp member))) onwards
    dsimp only
    rw [first]
    dsimp only
    rw [inside]
    dsimp only
    by_cases dotted : last = "." ∨ last = ".."
    · exact ⟨.alreadyExists, if_pos (by simpa using dotted), nofun⟩
    obtain ⟨undotted, notUp⟩ := not_or.mp dotted
    have entered : parent.step last = parent ++ [last] := by
      unfold Location.step
      rw [if_neg (not_or.mpr ⟨name, undotted⟩), if_neg notUp]
    rw [if_neg (by simpa using dotted), if_neg (Nat.not_lt.mpr short), ← entered, ← ends, here]
    exact ⟨.alreadyExists, rfl, nofun⟩

theorem makeDirectories_of_directory {tree : FileTree} {path : HostPath} {place : Location}
    (leads : tree.LeadsToDirectory path place) (above : List HostPath) :
    tree.makeDirectories (path :: above) = (.ok (), tree) := by
  obtain ⟨located, here⟩ := leads
  have there : tree.isDirectory path = true := by
    unfold isDirectory lookup
    rw [located]
    dsimp only
    rw [here]
  obtain ⟨cause, refused, found⟩ := makeDirectory_of_directory ⟨located, here⟩
  rw [makeDirectories, refused]
  split
  case isTrue => rfl
  case isFalse =>
    cases cause with
    | notFound => exact absurd rfl found
    | _ => rfl

theorem prepared_of_located {tree : FileTree} {path : HostPath} {found : Location}
    (located : tree.locate path = .ok found) : tree.prepared path = (.ok (), tree) := by
  unfold prepared
  cases above : path.parent? with
  | none => rfl
  | some parent =>
    change tree.makeDirectories (parent :: parent.ancestors) = _
    by_cases empty : parent.text = ""
    · rw [makeDirectories, if_pos empty]
    · obtain ⟨place, leads⟩ := exists_directory_of_parent? located above empty
      exact makeDirectories_of_directory leads _

/-! ### Overwriting -/

/-- A path that leads to a file. -/
structure HoldsFile (tree : FileTree) (path : HostPath) : Prop where
  located : tree.locate path = .ok (tree.destination path)
  held : ∃ content, tree.entryAt (tree.destination path) = some (.file content)

def overwrite (tree : FileTree) (file : HostPath × String) : FileTree :=
  tree.put (tree.destination file.1) (.file file.2.toUTF8)

def overwriteAll (tree : FileTree) (files : List (HostPath × String)) : FileTree :=
  files.foldl overwrite tree

theorem overwriteAll_append (tree : FileTree) (files later : List (HostPath × String)) :
    tree.overwriteAll (files ++ later) = (tree.overwriteAll files).overwriteAll later :=
  List.foldl_append

theorem overwriteAll_eq (tree : FileTree) (files : List (HostPath × String)) :
    tree.overwriteAll files = { tree with entries := (tree.overwriteAll files).entries } := by
  induction files generalizing tree with
  | nil => rfl
  | cons file rest ih => exact ih (tree.overwrite file)

theorem HoldsFile.writable {tree : FileTree} {path : HostPath} (holds : tree.HoldsFile path) :
    tree.entryAt (tree.destination path) ≠ some .directory := by
  obtain ⟨content, held⟩ := holds.held
  rw [held]
  exact nofun

theorem HoldsFile.updated {tree : FileTree} {file : HostPath × String}
    (holds : tree.HoldsFile file.1) : tree.Updated [file] (tree.overwrite file) :=
  .put_file file.2 holds.located holds.writable

theorem HoldsFile.writeText {tree : FileTree} {file : HostPath × String}
    (holds : tree.HoldsFile file.1) (undisturbed : tree.faults = []) :
    tree.writeText file.1 file.2 = (.ok (), tree.overwrite file) := by
  have replaced : tree.replaceFile file.1 file.2.toUTF8 = .ok (tree.overwrite file) := by
    obtain ⟨content, held⟩ := holds.held
    unfold replaceFile
    rw [holds.located]
    dsimp only
    rw [held]
    rfl
  have later : { tree with faults := tree.faults.tail } = tree := by
    rw [undisturbed, List.tail_nil, ← undisturbed]
  rw [writeText_eq, prepared_of_located holds.located]
  dsimp only
  unfold writeFile
  rw [later, undisturbed]
  dsimp only
  rw [replaced]

theorem Updated.file_kept {before after : FileTree} {writes : List (HostPath × String)}
    (updated : before.Updated writes after) {place : Location} {content : ByteArray}
    (held : before.entryAt place = some (.file content))
    (last : before.lastWritten? writes place = none) :
    after.entryAt place = some (.file content) := by
  rcases updated.kept place last with same | ⟨missing, _⟩
  · exact same.trans held
  · rw [held] at missing
    cases missing

theorem HoldsFile.of_updated {before after : FileTree} {writes : List (HostPath × String)}
    {path : HostPath} (holds : before.HoldsFile path) (updated : before.Updated writes after) :
    after.HoldsFile path := by
  have destination := destination_congr updated.together path
  refine ⟨?_, ?_⟩
  · rw [destination]
    exact locate_of_directories updated.together updated.directories holds.located
  · rw [destination]
    obtain ⟨content, held⟩ := holds.held
    cases last : before.lastWritten? writes (before.destination path) with
    | some text => exact ⟨_, updated.written _ text last⟩
    | none => exact ⟨content, updated.file_kept held last⟩

theorem Updated.holdsFile {before after : FileTree} {writes : List (HostPath × String)}
    (updated : before.Updated writes after) {file : HostPath × String} (member : file ∈ writes) :
    after.HoldsFile file.1 := by
  have destination := destination_congr updated.together file.1
  refine ⟨?_, ?_⟩
  · rw [destination]
    exact updated.located file member
  · rw [destination]
    cases last : before.lastWritten? writes (before.destination file.1) with
    | some text => exact ⟨_, updated.written _ text last⟩
    | none => exact absurd rfl (lastWritten?_eq_none_iff.mp last file member)

theorem readText_eq_ok_iff {tree : FileTree} {path : HostPath} {text : String} :
    tree.readText path = .ok text ↔
      ∃ place content, tree.locate path = .ok place ∧
        tree.entryAt place = some (.file content) ∧ String.fromUTF8? content = some text := by
  unfold readText readBytes lookup
  cases tree.locate path with
  | error failure => simp
  | ok place =>
    cases held : tree.entryAt place with
    | none => simp [held]
    | some entry =>
      cases entry with
      | directory => simp [held]
      | file content => cases decoded : String.fromUTF8? content <;> simp [held, decoded]

/-- What can be read of a file to which nothing is written can still be read afterwards. -/
theorem Updated.readText {before after : FileTree} {writes : List (HostPath × String)}
    (updated : before.Updated writes after) {path : HostPath} {text : String}
    (apart : ∀ file ∈ writes, before.destination file.1 ≠ before.destination path)
    (read : before.readText path = .ok text) : after.readText path = .ok text := by
  obtain ⟨place, content, located, held, decoded⟩ := readText_eq_ok_iff.mp read
  refine readText_eq_ok_iff.mpr ⟨place, content, ?_, ?_, decoded⟩
  · exact locate_of_directories updated.together updated.directories located
  · have there := eq_destination_of_locate located
    subst there
    exact updated.file_kept held (lastWritten?_eq_none_iff.mpr apart)

theorem find?_overwriteAll (tree : FileTree) (files : List (HostPath × String))
    (place : Location) :
    (tree.overwriteAll files).entries.find? place =
      ((tree.lastWritten? files place).map fun text => .file text.toUTF8).or
        (tree.entries.find? place) := by
  induction files using List.reverseRecOn with
  | nil => rfl
  | append_singleton files file ih =>
    have destination : (tree.overwriteAll files).destination file.1 = tree.destination file.1 :=
      destination_congr (congrArg workingDirectory (tree.overwriteAll_eq files)) file.1
    have last : tree.overwriteAll (files ++ [file]) = (tree.overwriteAll files).overwrite file :=
      tree.overwriteAll_append files [file]
    rw [last, lastWritten?_append, lastWritten?_singleton]
    unfold overwrite put OrderedMap.insert
    dsimp only
    rw [OrderedMap.find?_alter, destination]
    by_cases here : place = tree.destination file.1
    · rw [if_pos here, if_pos here, Option.some_or, Option.map_some, Option.some_or]
    · rw [if_neg here, if_neg here, Option.none_or, ih]

theorem overwriteAll_eq_self {tree : FileTree} {files : List (HostPath × String)}
    (held : ∀ place text, tree.lastWritten? files place = some text →
      tree.entryAt place = some (.file text.toUTF8)) : tree.overwriteAll files = tree := by
  have entries : (tree.overwriteAll files).entries = tree.entries := by
    apply OrderedMap.ext_find?
    intro place
    rw [find?_overwriteAll]
    cases last : tree.lastWritten? files place with
    | none => rfl
    | some text =>
      have entry := held place text last
      unfold entryAt at entry
      split at entry
      case isTrue => cases entry
      case isFalse => rw [entry]; rfl
  rw [overwriteAll_eq, entries]

end FileTree

end ProviderGen
