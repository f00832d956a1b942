import Mathlib.Data.List.Induction
import ProviderGen.Formatter
import ProviderGen.Generation.Run
import ProviderGen.Proofs.Overwrite
import ProviderGen.Proofs.PathWithin

/-!
Which files the formatter's program is given. The program is started in the directory whose files it
formats, but the files are spelled as they were found from outside; so it finds them if the
directory is absolute, and otherwise only if the directory, taken from itself, leads to itself.
-/

namespace ProviderGen

namespace FileTree

/-- A tree as a host keeps it: every entry stands in a directory, under a name that a directory can
hold. -/
structure Sound (tree : FileTree) : Prop where
  inside : ∀ place ∈ tree.entries.keys, ∃ parent name, place = parent ++ [name] ∧
    tree.entryAt parent = some .directory ∧ name.Proper ∧ name.bytes.length ≤ nameLimit

def workingIn (tree : FileTree) (place : Location) : FileTree :=
  { tree with workingDirectory := place }

variable {tree : FileTree}

theorem Sound.workingIn (sound : tree.Sound) (place : Location) : (tree.workingIn place).Sound :=
  ⟨sound.inside⟩

theorem entryAt_eq_some_iff {place : Location} (inside : place ≠ []) {entry : Entry} :
    tree.entryAt place = some entry ↔ (place, entry) ∈ tree.entries.entries := by
  unfold entryAt
  rw [if_neg inside]
  exact OrderedMap.find?_eq_some_iff

theorem Sound.ne_root (sound : tree.Sound) {file : Location × Entry}
    (present : file ∈ tree.entries.entries) : file.1 ≠ [] := by
  obtain ⟨parent, name, same, _⟩ := sound.inside _ (List.mem_map_of_mem present)
  rw [same]
  exact List.concat_ne_nil name parent

theorem Sound.of_entryAt (sound : tree.Sound) {parent : Location} {name : EntryName}
    {entry : Entry} (present : tree.entryAt (parent ++ [name]) = some entry) :
    tree.entryAt parent = some .directory ∧ name.Proper ∧ name.bytes.length ≤ nameLimit := by
  have member := (entryAt_eq_some_iff (List.concat_ne_nil name parent)).mp present
  obtain ⟨above, last, same, here, proper, short⟩ := sound.inside _ (List.mem_map_of_mem member)
  obtain ⟨rfl, rfl⟩ := List.append_singleton_inj.mp same
  exact ⟨here, proper, short⟩

theorem Sound.above (sound : tree.Sound) {place below : Location} {entry : Entry}
    (present : tree.entryAt (place ++ below) = some entry) :
    (below ≠ [] → tree.entryAt place = some .directory) ∧
      ∀ name ∈ below, name.Proper ∧ name.bytes.length ≤ nameLimit := by
  induction below using List.reverseRecOn generalizing entry with
  | nil => exact ⟨fun none => absurd rfl none, nofun⟩
  | append_singleton below name ih =>
    rw [← List.append_assoc] at present
    obtain ⟨here, proper, short⟩ := sound.of_entryAt present
    obtain ⟨directory, names⟩ := ih here
    refine ⟨fun _ => ?_, List.forall_mem_append.mpr
      ⟨names, List.forall_mem_singleton.mpr ⟨proper, short⟩⟩⟩
    by_cases none : below = []
    · rw [none, List.append_nil] at here
      exact here
    · exact directory none

theorem Sound.walk (sound : tree.Sound) {place below : Location} {entry : Entry}
    (present : tree.entryAt (place ++ below) = some entry) :
    tree.walk place below = .ok (place ++ below) := by
  induction below generalizing place with
  | nil => exact congrArg Except.ok (List.append_nil place).symm
  | cons name rest ih =>
    obtain ⟨directory, names⟩ := sound.above present
    obtain ⟨proper, short⟩ := names name List.mem_cons_self
    rw [List.append_cons] at present ⊢
    refine walk_cons_eq_ok_iff.mpr ⟨directory (List.cons_ne_nil _ _), short, ?_⟩
    rw [Location.step_of_proper proper]
    exact ih present

/-! ### Joined names -/

theorem walk_join_eq_ok_iff {start found : Location} {path : RawPath} {name : EntryName}
    (proper : name.Proper) (rest : List EntryName) :
    tree.walk start ((path.join name).segments ++ rest) = .ok found ↔
      tree.walk start (path.segments ++ name :: rest) = .ok found := by
  obtain ⟨kept, cut, before⟩ := path.segments_join proper
  rw [cut, List.append_assoc, List.singleton_append]
  rcases before with before | before
  · rw [before]
  · rw [before, List.append_assoc, List.singleton_append, walk_append_eq_ok_iff,
      walk_append_eq_ok_iff]
    refine exists_congr fun middle => and_congr_right fun _ => ?_
    -- the empty segment, for a path that ends in a slash, asks for a directory and stays there
    constructor
    · intro walked
      exact walk_cons_eq_ok_iff.mpr ⟨(walk_cons_eq_ok_iff.mp walked).1, by decide, walked⟩
    · exact fun walked => (walk_cons_eq_ok_iff.mp walked).2.2

theorem walk_foldl_join_eq_ok_iff {start found : Location} {path : RawPath}
    {names : List EntryName} (proper : ∀ name ∈ names, name.Proper) :
    tree.walk start (names.foldl RawPath.join path).segments = .ok found ↔
      tree.walk start (path.segments ++ names) = .ok found := by
  induction names generalizing path with
  | nil => rw [List.append_nil]; rfl
  | cons name rest ih =>
    obtain ⟨first, later⟩ := List.forall_mem_cons.mp proper
    rw [List.foldl_cons, ih later, walk_join_eq_ok_iff first]

theorem spelled_append (root : RawPath) (place below : Location) :
    spelled root place (place ++ below) = below.foldl RawPath.join root := by
  unfold spelled
  rw [List.drop_left]

/-! ### The walk -/

def met? (tree : FileTree) (root : RawPath) (place : Location) :
    Location × Entry → Option (Location × Entry)
  | (found, entry) =>
    if place <+: found ∧ tree.reaches root place (found.drop place.length) ∧
        (entry = .directory ∨ tree.unread.find? found = none)
    then some (found, entry) else none

theorem walkEntries_passed (tree : FileTree) (root : RawPath) (place : Location) :
    (tree.walkEntries root place).filterMap Except.toOption =
      tree.entries.entries.filterMap (tree.met? root place) := by
  unfold walkEntries
  rw [List.filterMap_flatMap, List.filterMap_eq_flatMap_toList]
  apply List.flatMap_congr
  rintro ⟨found, entry⟩ _
  simp only [met?, Bool.and_eq_true, List.isPrefixOf_iff_prefix]
  by_cases reached : place <+: found ∧ tree.reaches root place (found.drop place.length) = true
  · rw [if_pos reached]
    cases entry with
    | directory =>
      rw [if_pos ⟨reached.1, reached.2, .inl rfl⟩]
      cases tree.openDirectory (spelled root place found) found <;> rfl
    | file content =>
      cases read : tree.unread.find? found with
      | some failure =>
        rw [if_neg (by simp)]
        rfl
      | none =>
        rw [if_pos ⟨reached.1, reached.2, .inr rfl⟩]
        rfl
  · rw [if_neg reached, if_neg fun met => reached ⟨met.1, met.2.1⟩]
    rfl

end FileTree

namespace Formatter

/-- A file is found if the walk gets to it and reads it, and its own name is that of a generated
file. -/
theorem mem_found_iff {tree : FileTree} (sound : tree.Sound) {root : RawPath}
    {place file : Location} :
    file ∈ found tree root place ↔
      ∃ below content, file = place ++ below ∧ tree.entryAt file = some (.file content) ∧
        tree.unread.find? file = none ∧ tree.reaches root place below = true ∧
          (file.getLast?.bind EntryName.text?).any isGenerated = true := by
  unfold found
  rw [FileTree.walkEntries_passed, List.mem_filterMap]
  simp only [List.mem_filterMap]
  constructor
  · rintro ⟨⟨location, entry⟩, ⟨⟨_, _⟩, present, met⟩, chosen⟩
    obtain ⟨⟨below, reached, read⟩, same⟩ := Option.ite_none_right_eq_some.mp met
    cases same
    cases entry with
    | directory => cases chosen
    | file content =>
      obtain ⟨generated, same⟩ := Option.ite_none_right_eq_some.mp chosen
      cases same
      obtain ⟨names, spelled⟩ := below
      subst spelled
      rw [List.drop_left] at reached
      have here := (FileTree.entryAt_eq_some_iff (sound.ne_root present)).mpr present
      cases read with
      | inl directory => cases directory
      | inr read => exact ⟨names, content, rfl, here, read, reached, generated⟩
  · rintro ⟨below, content, rfl, present, read, reached, generated⟩
    have inside : place ++ below ≠ [] := by
      intro root
      rw [root] at present
      cases present
    refine ⟨(place ++ below, .file content),
      ⟨_, (FileTree.entryAt_eq_some_iff inside).mp present, if_pos ⟨List.prefix_append _ _, ?_⟩⟩,
      if_pos generated⟩
    rw [List.drop_left]
    exact ⟨reached, .inr read⟩

theorem locate_spelled_eq_ok_iff {tree : FileTree} (sound : tree.Sound) {directory : HostPath}
    (resolved : FileTree.checkPath directory.raw = .ok ()) {place below : Location}
    {entry : FileTree.Entry} (present : tree.entryAt (place ++ below) = some entry) :
    tree.locateRaw (FileTree.spelled directory.raw place (place ++ below)) = .ok (place ++ below) ↔
      FileTree.checkPath (FileTree.spelled directory.raw place (place ++ below)) = .ok () ∧
        tree.locate directory = .ok place := by
  have proper : ∀ name ∈ below, name.Proper := fun name member =>
    ((sound.above present).2 name member).1
  unfold FileTree.locate
  rw [FileTree.spelled_append, FileTree.locateRaw_eq_ok_iff, FileTree.locateRaw_eq_ok_iff,
    and_iff_right resolved, RawPath.isAbsolute_foldl_join _ proper,
    FileTree.walk_foldl_join_eq_ok_iff proper, FileTree.walk_append_eq_ok_iff]
  refine and_congr_right fun _ => ⟨fun ⟨middle, first, rest⟩ => ?_, fun first => ?_⟩
  · -- the names lead from where the directory leads to as many names below it
    have reached := FileTree.eq_descend_of_walk rest
    rw [Location.descend_names proper] at reached
    rw [List.append_cancel_right reached]
    exact first
  · exact ⟨place, first, sound.walk present⟩

def launch? (program : String) (directory : HostPath) (tree : FileTree) : Option Launch :=
  match tree.lookup directory with
  | .ok (place, .directory) =>
    match generatedFiles tree directory place with
    | [] => none
    | file :: files => some (launch program directory (file :: files))
  | _ => none

def report (program : String) (directory : HostPath) :
    LaunchResult × FileTree → Except FormatFailure Unit × FileTree
  | (.notStarted cause, reached) => (.error (.notStarted program directory cause), reached)
  | (.exited true _ _, reached) => (.ok (), reached)
  | (.exited false output errors, reached) =>
    (.error (.failed program directory
      (Text.decodeLossy output ++ Text.decodeLossy errors)), reached)

theorem exists_of_launch? {program : String} {directory : HostPath} {tree : FileTree}
    {request : Launch} (launched : launch? program directory tree = some request) :
    ∃ place, tree.lookup directory = .ok (place, .directory) ∧
      generatedFiles tree directory place ≠ [] ∧
        request = launch program directory (generatedFiles tree directory place) := by
  unfold launch? at launched
  split at launched
  case h_1 place leads =>
    split at launched
    case h_1 => cases launched
    case h_2 file files listed =>
      rw [← Option.some.inj launched, ← listed]
      exact ⟨place, leads, by simp [listed], rfl⟩
  case h_2 => cases launched

theorem format_eq_report {program : String} {directory : HostPath} {tree : FileTree}
    {request : Launch} (launched : launch? program directory tree = some request)
    (start : Launcher) :
    format program start directory tree = report program directory (start request tree) := by
  obtain ⟨place, leads, some, rfl⟩ := exists_of_launch? launched
  obtain ⟨file, files, listed⟩ := List.exists_cons_of_ne_nil some
  unfold format
  rw [leads]
  dsimp only
  rw [listed]
  dsimp only
  rw [if_neg (not_not.mpr rfl)]
  rcases start _ tree with ⟨_ | ⟨_ | _, _, _⟩, reached⟩ <;> rfl

theorem format_of_launch?_eq_none {program : String} {directory : HostPath} {tree : FileTree}
    (silent : launch? program directory tree = none) (start other : Launcher) :
    format program start directory tree = format program other directory tree := by
  unfold launch? at silent
  unfold format
  cases leads : tree.lookup directory with
  | error cause => rfl
  | ok found =>
    obtain ⟨place, entry⟩ := found
    rw [leads] at silent
    dsimp only
    cases entry with
    | directory =>
      cases listed : generatedFiles tree directory place with
      | nil => rfl
      | cons file files =>
        dsimp only at silent
        rw [listed] at silent
        cases silent
    | file content => rfl

/-- From the place that an absolute directory leads to, it leads there again; a relative one without
two dots leads below it. -/
theorem locate_again {tree : FileTree} {directory : HostPath} {place : Location}
    (leads : tree.locate directory = .ok place) :
    (directory.isAbsolute = true → (tree.workingIn place).locate directory = .ok place) ∧
    (directory.isAbsolute = false → ".." ∉ directory.segments →
      PackagePath.segments directory.text ≠ [] →
        (tree.workingIn place).locate directory ≠ .ok place) := by
  constructor
  · intro absolute
    obtain ⟨resolved, walked⟩ := FileTree.locate_eq_ok_iff.mp leads
    have start (other : FileTree) : other.start directory.isAbsolute = [] := if_pos absolute
    rw [start] at walked
    refine FileTree.locate_eq_ok_iff.mpr ⟨resolved, ?_⟩
    rw [start]
    have directories (other : Location) (here : tree.entryAt other = some .directory) :
        (tree.workingIn place).entryAt other = some .directory := here
    exact FileTree.walk_of_directories directories walked
  · intro relative level some again
    have below := FileTree.eq_destination_of_locate again
    have inner : ".." ∉ PackagePath.segments directory.text :=
      fun up => level (List.mem_filter.mp up).1
    have start : (tree.workingIn place).start directory.isAbsolute = place := by
      unfold FileTree.start
      rw [relative, if_neg Bool.false_ne_true]
      rfl
    unfold FileTree.destination HostPath.segments at below
    rw [start, Location.descend_split inner] at below
    exact some (List.map_eq_nil_iff.mp (List.self_eq_append_right.mp below))

theorem locate_of_lookup {tree : FileTree} {path : HostPath} {place : Location}
    {entry : FileTree.Entry} (leads : tree.lookup path = .ok (place, entry)) :
    tree.locate path = .ok place := by
  unfold FileTree.lookup at leads
  split at leads
  case h_1 => cases leads
  case h_2 found located =>
    split at leads
    case h_1 => cases leads
    case h_2 =>
      obtain ⟨rfl, rfl⟩ := Prod.mk.inj (Except.ok.inj leads)
      exact located

theorem formatted_directory {output : HostPath} {part : String}
    (formatted : part ∈ formattedDirectories) (level : ".." ∉ output.segments) :
    (output.join part).isAbsolute = output.isAbsolute ∧ ".." ∉ (output.join part).segments ∧
      PackagePath.segments (output.join part).text ≠ [] := by
  have proper : Location.IsName part := by
    have names : ∀ name ∈ formattedDirectories, Location.IsName name := by decide
    exact names part formatted
  obtain ⟨kept, cut, before⟩ := HostPath.segments_join output proper.relative
  rw [Text.split_of_not_mem proper.segment.unbroken] at cut
  have own : part ∈ PackagePath.segments (output.join part).text := by
    refine List.mem_filter.mpr ⟨?_, ?_⟩
    · change part ∈ (output.join part).segments
      rw [cut]
      exact List.mem_append_right _ (List.mem_singleton_self part)
    · simp [proper.segment.nonempty, proper.segment.undotted]
  refine ⟨HostPath.isAbsolute_join proper.relative, ?_, List.ne_nil_of_mem own⟩
  rw [cut, List.mem_append, List.mem_singleton, not_or]
  refine ⟨fun up => level ?_, fun up => proper.notUp up.symm⟩
  rcases before with before | before
  · exact before ▸ up
  · exact before ▸ List.mem_append_left _ up

/-- What formatting a directory has to do with the program. If it starts one, it is given the
generated files as they are spelled from outside; inside the directory, where it works, such a path
leads to its file exactly if it can be resolved and the directory leads from itself to itself. It
does if it is absolute; and for the directories that a run formats below an output without two dots,
only then. -/
theorem launched_files_located {tree : FileTree} (sound : tree.Sound) (program : String)
    (directory : HostPath) :
    match launch? program directory tree with
    | none => ∀ start other : Launcher,
      format program start directory tree = format program other directory tree
    | some request =>
      (∀ start, format program start directory tree =
        report program directory (start request tree)) ∧
      ∃ place, tree.lookup directory = .ok (place, .directory) ∧
        let within := tree.workingIn place
        let path := FileTree.spelled directory.raw place
        request = launch program directory ((found tree directory.raw place).map path) ∧
        (∀ file ∈ found tree directory.raw place,
          (tree.locateRaw (path file) = .ok file ↔ FileTree.checkPath (path file) = .ok ()) ∧
          (within.locateRaw (path file) = .ok file ↔
            FileTree.checkPath (path file) = .ok () ∧ within.locate directory = .ok place)) ∧
        (directory.isAbsolute = true → within.locate directory = .ok place) ∧
        ∀ (output : HostPath) (part : String), part ∈ formattedDirectories →
          directory = output.join part → ".." ∉ output.segments →
            (within.locate directory = .ok place ↔ output.isAbsolute = true) := by
  cases launched : launch? program directory tree with
  | none => exact format_of_launch?_eq_none launched
  | some request =>
    refine ⟨format_eq_report launched, ?_⟩
    obtain ⟨place, leads, _, spelling⟩ := exists_of_launch? launched
    have located := locate_of_lookup leads
    obtain ⟨absolute, relative⟩ := locate_again located
    have resolved := (FileTree.locate_eq_ok_iff.mp located).1
    refine ⟨place, leads, spelling, fun file member => ?_, absolute, ?_⟩
    · obtain ⟨below, content, rfl, present, _⟩ := (mem_found_iff sound).mp member
      constructor
      · rw [locate_spelled_eq_ok_iff sound resolved present, and_iff_left located]
      · exact locate_spelled_eq_ok_iff (sound.workingIn place) resolved present
    · rintro output part formatted rfl level
      obtain ⟨fromOutput, level, some⟩ := formatted_directory formatted level
      rw [← fromOutput]
      refine ⟨fun again => ?_, absolute⟩
      by_contra notAbsolute
      exact relative (Bool.eq_false_iff.mpr notAbsolute) level some again

end Formatter

def registered : FileTree where
  workingDirectory := ["home"]
  entries := ⟨[(["home"], .directory), (["home", "out"], .directory),
    (["home", "out", "apis"], .directory),
    (["home", "out", "apis", "zz_register.go"], .file "package apis\n".toUTF8)], by decide⟩

theorem registered_sound : registered.Sound := by
  constructor
  intro place member
  simp only [OrderedMap.keys, registered, List.map_cons, List.map_nil, List.mem_cons,
    List.not_mem_nil, or_false] at member
  rcases member with rfl | rfl | rfl | rfl
  · exact ⟨[], _, rfl, by decide⟩
  · exact ⟨["home"], _, rfl, by decide⟩
  · exact ⟨["home", "out"], _, rfl, by decide⟩
  · exact ⟨["home", "out", "apis"], _, rfl, by decide⟩

namespace Formatter

theorem registered_located :
    registered.Sound ∧
    let directory := (⟨"/home/out"⟩ : HostPath).join "apis"
    let path : HostPath := ⟨"/home/out/apis/zz_register.go"⟩
    launch? "goimports" directory registered =
      some ⟨"goimports", ["-w"], [path.raw], directory⟩ ∧
    (registered.workingIn ["home", "out", "apis"]).locate path =
      .ok ["home", "out", "apis", "zz_register.go"] := by
  have launched : launch? "goimports" ((⟨"/home/out"⟩ : HostPath).join "apis") registered =
      some ⟨"goimports", ["-w"], [(⟨"/home/out/apis/zz_register.go"⟩ : HostPath).raw],
        (⟨"/home/out"⟩ : HostPath).join "apis"⟩ := by decide +kernel
  have there : registered.lookup ((⟨"/home/out"⟩ : HostPath).join "apis") =
      .ok (["home", "out", "apis"], .directory) := by decide +kernel
  have files := launched_files_located registered_sound "goimports"
    ((⟨"/home/out"⟩ : HostPath).join "apis")
  rw [launched] at files
  obtain ⟨_, place, leads, _, each, absolute, _⟩ := files
  cases there.symm.trans leads
  have member : (["home", "out", "apis", "zz_register.go"] : Location) ∈
      found registered ((⟨"/home/out"⟩ : HostPath).join "apis").raw ["home", "out", "apis"] := by
    decide +kernel
  have path : FileTree.spelled ((⟨"/home/out"⟩ : HostPath).join "apis").raw ["home", "out", "apis"]
      ["home", "out", "apis", "zz_register.go"] =
        (⟨"/home/out/apis/zz_register.go"⟩ : HostPath).raw := by decide +kernel
  have within := (each _ member).2
  rw [path] at within
  exact ⟨registered_sound, launched, within.mpr ⟨by decide, absolute rfl⟩⟩

/-- With a relative output, the program is given a path that leads nowhere in the directory that it
works in. -/
theorem registered_lost :
    let directory := (⟨"out"⟩ : HostPath).join "apis"
    let path : HostPath := ⟨"out/apis/zz_register.go"⟩
    registered.lookup directory = .ok (["home", "out", "apis"], .directory) ∧
    found registered directory.raw ["home", "out", "apis"] =
      [["home", "out", "apis", "zz_register.go"]] ∧
    launch? "goimports" directory registered =
      some ⟨"goimports", ["-w"], [path.raw], directory⟩ ∧
    registered.locate path = .ok ["home", "out", "apis", "zz_register.go"] ∧
    (registered.workingIn ["home", "out", "apis"]).locate path = .error .notFound := by
  decide +kernel

end Formatter

end ProviderGen
