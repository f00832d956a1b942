import ProviderGen.Proofs.FormatterLaunch

/-!
Which files are formatted, and in which order. A directory is walked by ascending names, each with
all that lies below it; so the generated files come in the order of the components of their paths,
which is not the order of the paths as texts. What the walk cannot read is passed over without a
word, with everything below it. The program is started once for all files found, or not at all.
-/

namespace ProviderGen

open HostPath (Component)

/-! ### Orders -/

theorem compare_cons {α : Type} [Ord α] (item other : α) (rest later : List α) :
    compare (item :: rest) (other :: later) = (compare item other).then (compare rest later) := by
  rw [List.compare_eq_compareLex, List.compareLex_cons_cons]

theorem compare_append_left {α : Type} [Ord α] [Std.ReflOrd α] (start first second : List α) :
    compare (start ++ first) (start ++ second) = compare first second := by
  induction start with
  | nil => rfl
  | cons item rest ih =>
    rw [List.cons_append, List.cons_append, compare_cons, Std.compare_self, Ordering.eq_then, ih]

theorem compare_map {α β : Type} [Ord α] [Ord β] {f : α → β}
    (kept : ∀ first second, compare (f first) (f second) = compare first second)
    (first second : List α) : compare (first.map f) (second.map f) = compare first second := by
  induction first generalizing second with
  | nil => cases second <;> rfl
  | cons item rest ih =>
    cases second with
    | nil => rfl
    | cons other later => rw [List.map_cons, List.map_cons, compare_cons, compare_cons, kept, ih]

theorem HostPath.Component.compare_name (first second : EntryName) :
    compare (Component.name first) (.name second) = compare first second := rfl

namespace FileTree

variable {tree : FileTree} {root : RawPath} {place : Location}

/-! ### Regular files and names -/

def names (tree : FileTree) (place : Location) : List EntryName :=
  tree.entries.keys.filterMap fun found =>
    found.getLast?.filter fun name => found = place ++ [name]

theorem mem_names_iff {name : EntryName} :
    name ∈ tree.names place ↔ ∃ entry, tree.entryAt (place ++ [name]) = some entry := by
  have inside : place ++ [name] ≠ [] := List.concat_ne_nil name place
  unfold names OrderedMap.keys
  simp only [List.mem_filterMap, List.mem_map, Option.filter_eq_some_iff, decide_eq_true_eq,
    entryAt_eq_some_iff inside]
  constructor
  · rintro ⟨found, ⟨⟨_, entry⟩, present, rfl⟩, _, spelled⟩
    exact ⟨entry, spelled ▸ present⟩
  · rintro ⟨entry, present⟩
    exact ⟨_, ⟨_, present, rfl⟩, List.getLast?_concat, rfl⟩

theorem names_ascending (tree : FileTree) (place : Location) :
    (tree.names place).Pairwise fun name later => compare name later = .lt := by
  unfold names
  apply List.pairwise_filterMap.mpr
  apply tree.entries.keys_ascending.imp
  intro found later less name chosen next nextChosen
  obtain ⟨_, spelled⟩ := Option.filter_eq_some_iff.mp chosen
  obtain ⟨_, nextSpelled⟩ := Option.filter_eq_some_iff.mp nextChosen
  rw [of_decide_eq_true spelled, of_decide_eq_true nextSpelled, compare_append_left,
    compare_cons] at less
  have none : compare ([] : List EntryName) [] = .eq := rfl
  rwa [none, Ordering.then_eq] at less

theorem mem_filesBelow_iff (sound : tree.Sound) {file : Location × ByteArray} :
    file ∈ tree.filesBelow place ↔
      place <+: file.1 ∧ tree.entryAt file.1 = some (.file file.2) := by
  unfold filesBelow
  rw [List.mem_filterMap]
  constructor
  · rintro ⟨⟨found, entry⟩, present, chosen⟩
    have inside := sound.ne_root present
    cases entry with
    | directory => cases chosen
    | file content =>
      obtain ⟨below, same⟩ := Option.ite_none_right_eq_some.mp chosen
      cases same
      exact ⟨List.isPrefixOf_iff_prefix.mp below, (entryAt_eq_some_iff inside).mpr present⟩
  · rintro ⟨below, present⟩
    have inside : file.1 ≠ [] := by
      intro root
      rw [root] at present
      cases present
    refine ⟨(file.1, .file file.2), (entryAt_eq_some_iff inside).mp present, ?_⟩
    exact if_pos (List.isPrefixOf_iff_prefix.mpr below)

theorem filesBelow_ascending (tree : FileTree) (place : Location) :
    (tree.filesBelow place).Pairwise fun file later => compare file.1 later.1 = .lt := by
  unfold filesBelow
  apply List.pairwise_filterMap.mpr
  apply tree.entries.ascending.imp
  rintro ⟨found, entry⟩ ⟨later, other⟩ less file chosen next nextChosen
  cases entry with
  | directory => cases chosen
  | file content =>
    cases other with
    | directory => cases nextChosen
    | file otherContent =>
      cases (Option.ite_none_right_eq_some.mp chosen).2
      cases (Option.ite_none_right_eq_some.mp nextChosen).2
      exact less

/-! ### Directories on the way -/

/-- On the way along some names below a directory, each directory can be opened: its path can be
resolved, and the host lets the walk read it. -/
def Opens (tree : FileTree) (root : RawPath) (place names : Location) : Prop :=
  ∀ above name rest, names = above ++ name :: rest →
    checkPath (above.foldl RawPath.join root) = .ok () ∧ tree.unread.find? (place ++ above) = none

theorem openDirectory_isOk_iff :
    (tree.openDirectory root place).isOk = true ↔
      checkPath root = .ok () ∧ tree.unread.find? place = none := by
  unfold openDirectory
  cases checkPath root with
  | error failure => exact ⟨nofun, nofun⟩
  | ok => cases tree.unread.find? place <;> simp [Except.isOk, Except.toBool]

theorem reaches_iff {names : Location} :
    tree.reaches root place names = true ↔ tree.Opens root place names := by
  induction names generalizing root place with
  | nil =>
    exact ⟨fun _ above name rest cut => absurd cut.symm (by simp), fun _ => rfl⟩
  | cons first later ih =>
    rw [reaches, Bool.and_eq_true, openDirectory_isOk_iff, ih]
    constructor
    · rintro ⟨opened, rest⟩ above name after cut
      cases above with
      | nil =>
        rw [List.append_nil]
        exact opened
      | cons head above =>
        obtain ⟨rfl, onwards⟩ := List.cons.inj cut
        rw [List.append_cons]
        exact rest above name after onwards
    · intro opens
      have opened := opens [] first later rfl
      rw [List.append_nil] at opened
      refine ⟨opened, fun above name after cut => ?_⟩
      rw [List.append_assoc, List.singleton_append]
      exact opens (first :: above) name after (congrArg _ cut)

theorem Sound.opens (sound : tree.Sound) (readable : ∀ other, tree.unread.find? other = none)
    (short : ∀ below, tree.entryAt (place ++ below) = some .directory →
      checkPath (below.foldl RawPath.join root) = .ok ())
    {below : Location} {entry : Entry} (present : tree.entryAt (place ++ below) = some entry) :
    tree.Opens root place below := by
  rintro above name rest rfl
  rw [← List.append_assoc] at present
  exact ⟨short above ((sound.above present).1 (List.cons_ne_nil _ _)), readable _⟩

end FileTree

namespace Formatter

def GeneratedName (name : String) : Prop :=
  "zz_".toList <+: (Text.lowercase name).toList ∧ ".go".toList <:+ (Text.lowercase name).toList

theorem isGenerated_iff {name : String} : isGenerated name = true ↔ GeneratedName name := by
  unfold isGenerated GeneratedName
  rw [Bool.and_eq_true, List.isPrefixOf_iff_prefix, List.isSuffixOf_iff_suffix]

variable {tree : FileTree} {root : RawPath} {place : Location}

/-! ### The walk -/

theorem found_ascending (tree : FileTree) (root : RawPath) (place : Location) :
    (found tree root place).Pairwise fun file later => compare file later = .lt := by
  have kept {entry met : Location × FileTree.Entry}
      (chosen : tree.met? root place entry = some met) : met = entry :=
    (Option.some.inj (Option.ite_none_right_eq_some.mp chosen).2).symm
  unfold found
  rw [FileTree.walkEntries_passed]
  apply List.pairwise_filterMap.mpr
  apply List.pairwise_filterMap.mpr
  apply tree.entries.ascending.imp
  rintro ⟨location, entry⟩ ⟨later, other⟩ less _ met _ otherMet file chosen next nextChosen
  obtain rfl := kept met
  obtain rfl := kept otherMet
  cases entry with
  | directory => cases chosen
  | file content =>
    cases other with
    | directory => cases nextChosen
    | file otherContent =>
      cases (Option.ite_none_right_eq_some.mp chosen).2
      cases (Option.ite_none_right_eq_some.mp nextChosen).2
      exact less

theorem found_file (sound : tree.Sound) {content : ByteArray}
    (here : tree.entryAt place = some (.file content)) :
    found tree root place =
      if tree.unread.find? place = none ∧ (place.getLast?.bind EntryName.text?).any isGenerated
      then [place] else [] := by
  apply OrderedMap.eq_of_same_members id (found_ascending tree root place)
  case sorted' => split <;> simp
  case same =>
    intro file
    rw [mem_found_iff sound, List.mem_ite_nil_right, List.mem_singleton]
    constructor
    · rintro ⟨below, bytes, rfl, present, read, _, generated⟩
      have none : below = [] := by
        by_contra some
        cases here.symm.trans ((sound.above present).1 some)
      subst none
      rw [List.append_nil] at read generated
      exact ⟨⟨read, generated⟩, List.append_nil place⟩
    · rintro ⟨⟨read, generated⟩, rfl⟩
      exact ⟨[], content, (List.append_nil _).symm, here, read, rfl, generated⟩

/-- What is found in a directory lies at or below an entry of it. -/
theorem mem_found_directory_iff (sound : tree.Sound)
    (here : tree.entryAt place = some .directory) {file : Location} :
    file ∈ found tree root place ↔ (tree.openDirectory root place).isOk = true ∧
      ∃ name ∈ tree.names place, file ∈ found tree (root.join name) (place ++ [name]) := by
  simp only [mem_found_iff sound]
  constructor
  · rintro ⟨below, content, rfl, present, read, reached, generated⟩
    cases below with
    | nil =>
      rw [List.append_nil] at present
      cases here.symm.trans present
    | cons name rest =>
      obtain ⟨opened, reached⟩ := Bool.and_eq_true_iff.mp reached
      have entry : ∃ entry, tree.entryAt (place ++ [name]) = some entry := by
        by_cases none : rest = []
        · rw [none] at present
          exact ⟨_, present⟩
        · rw [List.append_cons] at present
          exact ⟨_, (sound.above present).1 none⟩
      exact ⟨opened, name, FileTree.mem_names_iff.mpr entry, rest, content,
        List.append_cons _ _ _, present, read, reached, generated⟩
  · rintro ⟨opened, name, _, below, content, rfl, present, read, reached, generated⟩
    exact ⟨name :: below, content, (List.append_cons _ _ _).symm, present, read,
      Bool.and_eq_true_iff.mpr ⟨opened, reached⟩, generated⟩

/-- In a directory that it can open the walk goes from entry to entry, by ascending names. -/
theorem found_directory (sound : tree.Sound) (here : tree.entryAt place = some .directory) :
    found tree root place =
      if (tree.openDirectory root place).isOk then
        (tree.names place).flatMap fun name => found tree (root.join name) (place ++ [name])
      else [] := by
  by_cases opened : (tree.openDirectory root place).isOk = true
  · rw [if_pos opened]
    apply OrderedMap.eq_of_same_members id (found_ascending tree root place)
    case sorted' =>
      apply List.pairwise_flatMap.mpr
      refine ⟨fun name _ => found_ascending tree _ _, ?_⟩
      apply (tree.names_ascending place).imp
      intro name later less file member next nextMember
      obtain ⟨below, _, rfl, _⟩ := (mem_found_iff sound).mp member
      obtain ⟨nextBelow, _, rfl, _⟩ := (mem_found_iff sound).mp nextMember
      rw [id, id, List.append_assoc, List.append_assoc, compare_append_left,
        List.singleton_append, List.singleton_append, compare_cons, less]
      rfl
    case same =>
      intro file
      rw [mem_found_directory_iff sound here, and_iff_right opened, List.mem_flatMap]
  · rw [if_neg opened]
    exact List.eq_nil_iff_forall_not_mem.mpr fun file member =>
      opened ((mem_found_directory_iff sound here).mp member).1

theorem found_of_readable (sound : tree.Sound) (readable : ∀ other, tree.unread.find? other = none)
    (short : ∀ below, tree.entryAt (place ++ below) = some .directory →
      FileTree.checkPath (below.foldl RawPath.join root) = .ok ()) :
    found tree root place = ((tree.filesBelow place).map (·.1)).filter fun file =>
      (file.getLast?.bind EntryName.text?).any isGenerated := by
  apply OrderedMap.eq_of_same_members id (found_ascending tree root place)
  case sorted' => exact (List.pairwise_map.mpr (tree.filesBelow_ascending place)).filter _
  case same =>
    intro file
    rw [mem_found_iff sound, List.mem_filter, List.mem_map]
    constructor
    · rintro ⟨below, content, rfl, present, _, _, generated⟩
      refine ⟨⟨(_, content), ?_, rfl⟩, generated⟩
      exact (FileTree.mem_filesBelow_iff sound).mpr ⟨List.prefix_append place below, present⟩
    · rintro ⟨⟨⟨_, content⟩, walked, rfl⟩, generated⟩
      obtain ⟨⟨below, rfl⟩, present⟩ := (FileTree.mem_filesBelow_iff sound).mp walked
      exact ⟨below, content, rfl, present, readable _,
        FileTree.reaches_iff.mpr (sound.opens readable short present), generated⟩

/-! ### The files that are listed -/

theorem mem_generatedFiles_iff (sound : tree.Sound) {directory : HostPath} {path : RawPath} :
    path ∈ generatedFiles tree directory place ↔
      ∃ below content own name, tree.entryAt (place ++ below) = some (.file content) ∧
        tree.unread.find? (place ++ below) = none ∧ tree.Opens directory.raw place below ∧
          (place ++ below).getLast? = some own ∧ own.text? = some name ∧ GeneratedName name ∧
            path = below.foldl RawPath.join directory.raw := by
  unfold generatedFiles
  simp only [List.mem_map, mem_found_iff sound, Option.any_eq_true, Option.bind_eq_some_iff,
    isGenerated_iff, FileTree.reaches_iff]
  constructor
  · rintro ⟨_, ⟨below, content, rfl, present, read, opens, name, ⟨own, last, text⟩, generated⟩, rfl⟩
    exact ⟨below, content, own, name, present, read, opens, last, text, generated,
      FileTree.spelled_append _ place below⟩
  · rintro ⟨below, content, own, name, present, read, opens, last, text, generated, rfl⟩
    exact ⟨_, ⟨below, content, rfl, present, read, opens, name, ⟨own, last, text⟩, generated⟩,
      FileTree.spelled_append _ place below⟩

theorem compare_components_spelled (sound : tree.Sound) (some : root.bytes ≠ [])
    {below later : Location} {entry other : FileTree.Entry}
    (present : tree.entryAt (place ++ below) = .some entry)
    (otherPresent : tree.entryAt (place ++ later) = .some other) :
    compare (FileTree.spelled root place (place ++ below)).components
        (FileTree.spelled root place (place ++ later)).components =
      compare (place ++ below) (place ++ later) := by
  rw [FileTree.spelled_append, FileTree.spelled_append,
    RawPath.components_foldl_join some fun name member => ((sound.above present).2 name member).1,
    RawPath.components_foldl_join some fun name member =>
      ((sound.above otherPresent).2 name member).1,
    compare_append_left, compare_append_left, compare_map Component.compare_name]

theorem generatedFiles_ascending (sound : tree.Sound) {directory : HostPath}
    (some : directory.raw.bytes ≠ []) (place : Location) :
    (generatedFiles tree directory place).Pairwise fun path later =>
      compare path.components later.components = .lt := by
  unfold generatedFiles
  apply List.pairwise_map.mpr
  apply (found_ascending tree directory.raw place).imp_of_mem
  intro file later member laterMember less
  obtain ⟨below, content, rfl, present, _⟩ := (mem_found_iff sound).mp member
  obtain ⟨laterBelow, other, rfl, otherPresent, _⟩ := (mem_found_iff sound).mp laterMember
  rwa [compare_components_spelled sound some present otherPresent]

theorem launch?_eq_some (program : String) {directory : HostPath}
    (leads : tree.lookup directory = .ok (place, .directory))
    (some : generatedFiles tree directory place ≠ []) :
    launch? program directory tree =
      .some (launch program directory (generatedFiles tree directory place)) := by
  unfold launch?
  rw [leads]
  dsimp only
  cases listed : generatedFiles tree directory place with
  | nil => exact absurd listed some
  | cons file files => rfl

theorem report_eq_ok_iff {program : String} {directory : HostPath}
    {outcome : LaunchResult × FileTree} :
    (report program directory outcome).1 = .ok () ↔
      ∃ output errors, outcome.1 = .exited true output errors := by
  rcases outcome with ⟨cause | ⟨_ | _, output, errors⟩, reached⟩
  · exact ⟨nofun, nofun⟩
  · exact ⟨nofun, nofun⟩
  · exact ⟨fun _ => ⟨output, errors, rfl⟩, fun _ => rfl⟩

/-- What formatting a directory does, in whatever tree. Where the directory does not exist or the
walk finds no generated file below it, no program is started and all is well. Else the program is
started once, with the files found in ascending order of their components, hence each of them once,
and all is well exactly if it starts and exits with success. A file is no directory to work in, so
that the program cannot be started there. The walk finds the regular files that it can read, below
directories that it can open; that is all of them if the host lets it read everything and every
directory has a path that can be resolved. -/
theorem format_generated_files (sound : tree.Sound) (program : String) (directory : HostPath) :
    match tree.lookup directory with
    | .error _ => ∀ start, format program start directory tree = (.ok (), tree)
    | .ok (place, entry) =>
      let files := generatedFiles tree directory place
      (∀ path, path ∈ files ↔
        ∃ below content own name, tree.entryAt (place ++ below) = some (.file content) ∧
          tree.unread.find? (place ++ below) = none ∧ tree.Opens directory.raw place below ∧
            (place ++ below).getLast? = some own ∧ own.text? = some name ∧ GeneratedName name ∧
              path = below.foldl RawPath.join directory.raw) ∧
      files.Pairwise (fun path later => compare path.components later.components = .lt) ∧
      (files = [] → ∀ start, format program start directory tree = (.ok (), tree)) ∧
      (files ≠ [] → entry = .directory → ∀ start,
        let outcome := start ⟨program, ["-w"], files, directory⟩ tree
        format program start directory tree = report program directory outcome ∧
          ((format program start directory tree).1 = .ok () ↔
            ∃ output errors, outcome.1 = .exited true output errors)) ∧
      (files ≠ [] → entry ≠ .directory → ∀ start, format program start directory tree =
        (.error (.notStarted program directory .notDirectory), tree)) ∧
      ((∀ other, tree.unread.find? other = none) →
        (∀ below, tree.entryAt (place ++ below) = some .directory →
          FileTree.checkPath (below.foldl RawPath.join directory.raw) = .ok ()) →
        files = (((tree.filesBelow place).map (·.1)).filter fun file =>
          (file.getLast?.bind EntryName.text?).any isGenerated).map
            (FileTree.spelled directory.raw place)) := by
  cases leads : tree.lookup directory with
  | error cause =>
    intro start
    unfold format
    rw [leads]
  | ok target =>
    obtain ⟨place, entry⟩ := target
    have resolved := (FileTree.locate_eq_ok_iff.mp (locate_of_lookup leads)).1
    refine ⟨fun path => mem_generatedFiles_iff sound,
      generatedFiles_ascending sound (FileTree.checkPath_eq_ok_iff.mp resolved).2.1 place,
      ?silent, ?started, ?refused, ?readable⟩
    case silent =>
      intro none start
      unfold format
      rw [leads]
      dsimp only
      rw [none]
    case started =>
      rintro some rfl start outcome
      have reported : format program start directory tree = report program directory outcome :=
        format_eq_report (launch?_eq_some program leads some) start
      refine ⟨reported, ?_⟩
      rw [reported]
      exact report_eq_ok_iff
    case refused =>
      intro some file start
      obtain ⟨path, rest, listed⟩ := List.exists_cons_of_ne_nil some
      unfold format
      rw [leads]
      dsimp only
      rw [listed]
      dsimp only
      rw [if_pos file]
    case readable =>
      intro readable short
      exact congrArg _ (found_of_readable sound readable short)

/-- A tree in which the text order of paths is not the order of their components, with a directory
that is named like a generated file. -/
def scattered : FileTree where
  workingDirectory := []
  entries := ⟨[
    (["apis"], .directory), (["apis", "a"], .directory),
    (["apis", "a", "ZZ_Register.GO"], .file "package a\n".toUTF8), (["apis", "a-b"], .directory),
    (["apis", "a-b", "doc.go"], .file "package b\n".toUTF8),
    (["apis", "a-b", "zz_types.go"], .file "package b\n".toUTF8),
    (["apis", "zz_dir.go"], .directory),
    (["apis", "zz_dir.go", "zz_types.go"], .file "package dir\n".toUTF8)], by decide⟩

theorem scattered_sound : scattered.Sound := by
  constructor
  intro place member
  simp only [OrderedMap.keys, scattered, List.map_cons, List.map_nil, List.mem_cons,
    List.not_mem_nil, or_false] at member
  rcases member with rfl | rfl | rfl | rfl | rfl | rfl | rfl | rfl
  · exact ⟨[], _, rfl, by decide⟩
  · exact ⟨["apis"], _, rfl, by decide⟩
  · exact ⟨["apis", "a"], _, rfl, by decide⟩
  · exact ⟨["apis"], _, rfl, by decide⟩
  · exact ⟨["apis", "a-b"], _, rfl, by decide⟩
  · exact ⟨["apis", "a-b"], _, rfl, by decide⟩
  · exact ⟨["apis"], _, rfl, by decide⟩
  · exact ⟨["apis", "zz_dir.go"], _, rfl, by decide⟩

theorem scattered_formatted :
    scattered.Sound ∧ ∀ start, format "goimports" start ⟨"apis"⟩ scattered =
      report "goimports" ⟨"apis"⟩ (start ⟨"goimports",
        ["-w"], ([⟨"apis/a/ZZ_Register.GO"⟩, ⟨"apis/a-b/zz_types.go"⟩,
          ⟨"apis/zz_dir.go/zz_types.go"⟩] : List HostPath).map HostPath.raw,
        ⟨"apis"⟩⟩ scattered) := by
  have leads : scattered.lookup ⟨"apis"⟩ = .ok (["apis"], .directory) := by decide +kernel
  have files : generatedFiles scattered ⟨"apis"⟩ ["apis"] =
      ([⟨"apis/a/ZZ_Register.GO"⟩, ⟨"apis/a-b/zz_types.go"⟩, ⟨"apis/zz_dir.go/zz_types.go"⟩] :
        List HostPath).map HostPath.raw := by decide +kernel
  have formatted := format_generated_files scattered_sound "goimports" ⟨"apis"⟩
  rw [leads] at formatted
  obtain ⟨_, _, _, started, _⟩ := formatted
  rw [files] at started
  exact ⟨scattered_sound, fun start => (started (List.cons_ne_nil _ _) rfl start).1⟩

def deep : FileTree where
  workingDirectory := []
  entries := ⟨[
    (["d"], .directory), (["d", ⟨List.replicate 250 0x41⟩], .directory),
    (["d", ⟨List.replicate 250 0x41⟩, ⟨List.replicate 250 0x42⟩], .directory),
    (["d", ⟨List.replicate 250 0x41⟩, ⟨List.replicate 250 0x42⟩, "zz_b.go"],
      .file "package b\n".toUTF8),
    (["d", "zz_a.go"], .file "package d\n".toUTF8)], by decide +kernel⟩

def winding (dots : Nat) : HostPath :=
  ⟨String.ofList ('d' :: (List.replicate dots ['/', '.']).flatten)⟩

theorem winding_raw (dots : Nat) :
    (winding dots).raw = ⟨0x64 :: (List.replicate dots [0x2F, 0x2E]).flatten⟩ := by
  have first : String.utf8EncodeChar 'd' = [0x64] := by decide
  unfold winding HostPath.raw
  rw [Text.bytes_eq_flatMap, String.toList_ofList, List.flatMap_cons, first, List.singleton_append]
  congr 2
  induction dots with
  | zero => rfl
  | succ dots ih =>
    rw [List.replicate_succ, List.replicate_succ, List.flatten_cons, List.flatten_cons,
      List.flatMap_append, ih]
    rfl

theorem winding_segments (dots : Nat) :
    (winding dots).raw.segments = ↑"d" :: List.replicate dots (EntryName.ofText ".") := by
  have dot : [0x2E].splitOn RawPath.slash = [[0x2E]] := by decide
  unfold RawPath.segments
  rw [winding_raw]
  induction dots with
  | zero => rfl
  | succ dots ih =>
    rw [List.replicate_succ', List.flatten_append, List.flatten_singleton, ← List.cons_append,
      List.replicate_succ', ← List.cons_append, ← ih]
    change List.map _ (List.splitOn RawPath.slash (_ ++ RawPath.slash :: [0x2E])) = _
    rw [List.splitOn_append_cons_self, dot, List.map_append]
    rfl

theorem walk_dots {tree : FileTree} {place : Location}
    (here : tree.entryAt place = some .directory) (dots : Nat) :
    tree.walk place (List.replicate dots (EntryName.ofText ".")) = .ok place := by
  induction dots with
  | zero => rfl
  | succ dots ih => exact FileTree.walk_cons_eq_ok_iff.mpr ⟨here, by decide, ih⟩

theorem lookup_deep {dots : Nat} (short : 2 * dots < FileTree.pathLimit) :
    deep.lookup (winding dots) = .ok (["d"], .directory) := by
  have here : deep.entryAt ["d"] = some .directory := by decide +kernel
  have resolved : FileTree.checkPath (winding dots).raw = .ok () := by
    rw [winding_raw]
    refine FileTree.checkPath_eq_ok_iff.mpr ⟨?_, List.cons_ne_nil _ _, ?_⟩
    · simp
    · simp
      omega
  have relative : (winding dots).raw.isAbsolute = false := by
    rw [winding_raw]
    rfl
  have walked : deep.walk [] (winding dots).raw.segments = .ok ["d"] := by
    rw [winding_segments]
    exact FileTree.walk_cons_eq_ok_iff.mpr ⟨rfl, by decide, walk_dots here dots⟩
  have located : deep.locate (winding dots) = .ok ["d"] := by
    refine FileTree.locateRaw_eq_ok_iff.mpr ⟨resolved, ?_⟩
    rw [relative]
    exact walked
  unfold FileTree.lookup
  rw [located]
  dsimp only
  rw [here]

theorem generatedFiles_deep :
    generatedFiles deep (winding 1800) ["d"] = [(winding 1800).raw.join "zz_a.go"] := by
  unfold generatedFiles
  rw [winding_raw]
  decide +kernel

/-- The walk does not list the lower file, though it is a regular file with the name of a generated
one: the path of the directory that holds it is too long to be opened, which nobody is told. -/
theorem deep_passed_over :
    let lower : Location := [⟨List.replicate 250 0x41⟩, ⟨List.replicate 250 0x42⟩, "zz_b.go"]
    deep.lookup (winding 1800) = .ok (["d"], .directory) ∧
    deep.entryAt (["d"] ++ lower) = some (.file "package b\n".toUTF8) ∧
    GeneratedName "zz_b.go" ∧
    lower.foldl RawPath.join (winding 1800).raw ∉ generatedFiles deep (winding 1800) ["d"] ∧
    ∀ start, format "goimports" start (winding 1800) deep =
      report "goimports" (winding 1800)
        (start ⟨"goimports", ["-w"], [(winding 1800).raw.join "zz_a.go"], winding 1800⟩ deep) := by
  have some : generatedFiles deep (winding 1800) ["d"] ≠ [] := by
    rw [generatedFiles_deep]
    exact List.cons_ne_nil _ _
  have launched := launch?_eq_some "goimports" (lookup_deep (by decide)) some
  have generated : GeneratedName "zz_b.go" := isGenerated_iff.mp (by decide +kernel)
  refine ⟨lookup_deep (by decide), by decide +kernel, generated, ?_, ?_⟩
  · rw [generatedFiles_deep, winding_raw]
    decide +kernel
  · rw [generatedFiles_deep] at launched
    exact format_eq_report launched

end Formatter

end ProviderGen
