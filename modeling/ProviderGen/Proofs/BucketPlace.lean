import Mathlib.Data.List.TakeWhile
import ProviderGen.Emit.ApiTypes
import ProviderGen.Proofs.HostPath
import ProviderGen.Proofs.Lowercase
import ProviderGen.Proofs.RunTrace
import ProviderGen.Proofs.SourceText

/-!
Which versions of groups are generated in one place. A group counts with its first label in
lowercase only, and import paths and directories drop empty segments and dots, so two versions share
a package exactly if the segments of their labels and versions are the same. Where these are plain
names, the versions of two groups share a place if the labels and the versions are equal, and
otherwise no file of the one can be a file of the other.
-/

namespace ProviderGen

open HostPath (Component)
open Location (IsName)

def placeLabel (group : String) : String := Text.lowercase (groupLabel group)

/-- The segments that tell the place of a version of a group. -/
def placeSegments (group version : String) : List String :=
  PackagePath.segments (placeLabel group) ++ PackagePath.segments version

variable {group other version otherVersion : String}

theorem Layout.apiPackage_eq_iff (layout : Layout) :
    layout.apiPackage group version = layout.apiPackage other otherVersion ↔
      placeSegments group version = placeSegments other otherVersion := by
  unfold apiPackage apiGroupBase placeSegments placeLabel
  rw [PackagePath.join_eq_join_iff, PackagePath.isAbsolute_join, PackagePath.isAbsolute_join]
  simp only [List.flatMap_cons, List.flatMap_nil, List.append_nil, PackagePath.segments_join,
    List.append_assoc, List.append_cancel_left_eq, true_and]

/-! ### Directories -/

/-- Neither the label nor the version starts over at the root. -/
structure RelativePlace (group version : String) : Prop where
  label : Text.startsWith '/' (placeLabel group) = false
  version : Text.startsWith '/' version = false

theorem components_apiDirectory (root : HostPath) (relative : RelativePlace group version) :
    (apiDirectory root group version).components =
      (root.join "apis").components ++ (placeSegments group version).map Component.ofName := by
  have apis : (root.join "apis").text ≠ "" := HostPath.text_join_ne_empty rfl (.inr (by decide))
  have labelled : ((root.join "apis").join (placeLabel group)).text ≠ "" :=
    HostPath.text_join_ne_empty relative.label (.inl apis)
  calc
    (apiDirectory root group version).components
    _ = ((root.join "apis").join (placeLabel group)).components ++
          (PackagePath.segments version).map Component.ofName :=
        HostPath.components_join labelled relative.version
    _ = (root.join "apis").components ++ (placeSegments group version).map Component.ofName := by
        rw [HostPath.components_join apis relative.label, List.append_assoc, ← List.map_append]
        rfl

theorem components_apiDirectory_eq_iff (root : HostPath) (relative : RelativePlace group version)
    (relativeOther : RelativePlace other otherVersion) :
    (apiDirectory root group version).components =
        (apiDirectory root other otherVersion).components ↔
      placeSegments group version = placeSegments other otherVersion := by
  have injective : Function.Injective Component.ofName := fun _ _ => Component.ofName_injective
  rw [components_apiDirectory root relative, components_apiDirectory root relativeOther,
    List.append_cancel_left_eq, (List.map_injective_iff.mpr injective).eq_iff]

/-! ### Files -/

theorem dot_not_mem_placeLabel (group : String) : '.' ∉ (placeLabel group).toList := by
  intro member
  have kept := Text.mem_of_mem_lowercase (by decide) (by decide) member
  unfold groupLabel at kept
  rw [String.toList_ofList] at kept
  have notDot := List.mem_takeWhile_imp kept
  simp at notDot

theorem up_not_mem_segments_placeLabel (group : String) :
    ".." ∉ PackagePath.segments (placeLabel group) := by
  intro member
  have piece := (List.mem_filter.mp member).1
  exact dot_not_mem_placeLabel group (Text.subset_of_mem_split piece List.mem_cons_self)

theorem destination_bucket_join (tree : FileTree) (base : HostPath)
    (relative : RelativePlace group version) (level : ".." ∉ PackagePath.segments version)
    {name : String} (proper : IsName name) :
    tree.destination (((base.join (placeLabel group)).join version).join name) =
      tree.destination base ++ (placeSegments group version).map .ofText ++
        [EntryName.ofText name] := by
  unfold placeSegments
  rw [tree.destination_join_name proper, tree.destination_join relative.version,
    Location.descend_split level]
  change (tree.destination (base.join (placeLabel group)) ++ _) ++ _ = _
  rw [tree.destination_join relative.label,
    Location.descend_split (up_not_mem_segments_placeLabel group), List.map_append,
    ← List.append_assoc]

theorem destination_apiDirectory_join (tree : FileTree) (root : HostPath)
    (relative : RelativePlace group version) (level : ".." ∉ PackagePath.segments version)
    {name : String} (proper : IsName name) :
    tree.destination ((apiDirectory root group version).join name) =
      tree.destination (root.join "apis") ++ (placeSegments group version).map .ofText ++
        [EntryName.ofText name] :=
  destination_bucket_join tree (root.join "apis") relative level proper

/-- Wherever the paths of both can be resolved, no file of the first is one of the second, also if
directories change in between. -/
def FilesApart (first second : List (HostPath × String)) : Prop :=
  ∀ file ∈ first, ∀ later ∈ second, ∀ tree changed : FileTree,
    tree.workingDirectory = changed.workingDirectory → ∀ place changedPlace,
      tree.locate file.1 = .ok place → changed.locate later.1 = .ok changedPlace →
        place ≠ changedPlace

namespace Emit

theorem isName_typeFileName {kind : String} (plain : '/' ∉ kind.toList) :
    IsName (typeFileName kind) := by
  unfold typeFileName
  rw [String.append_assoc]
  apply isName_generated
  rw [String.toList_append, List.mem_append]
  rintro (lower | ending)
  · exact plain (Text.mem_of_mem_lowercase (by decide) (by decide) lower)
  · exact absurd ending (by decide)

theorem exists_name_of_mem_typeFiles {root : HostPath} {resources : List Resource}
    (plain : ∀ resource ∈ resources, '/' ∉ resource.kind.toList) {file : HostPath × String}
    (member : file ∈ typeFiles root group version resources) :
    ∃ name, IsName name ∧ file.1 = (apiDirectory root group version).join name := by
  unfold typeFiles at member
  rcases List.mem_append.mp member with types | others
  · obtain ⟨resource, present, rfl⟩ := List.mem_map.mp types
    exact ⟨_, isName_typeFileName (plain resource present), rfl⟩
  · simp only [List.mem_cons, List.not_mem_nil, or_false] at others
    rcases others with rfl | rfl
    · exact ⟨_, isName_generated (show '/' ∉ "generated_resources.go".toList by decide), rfl⟩
    · exact ⟨_, isName_generated (show '/' ∉ "groupversion_info.go".toList by decide), rfl⟩

theorem filesApart_typeFiles (root : HostPath) {resources others : List Resource}
    (relative : RelativePlace group version) (relativeOther : RelativePlace other otherVersion)
    (level : ".." ∉ PackagePath.segments version)
    (levelOther : ".." ∉ PackagePath.segments otherVersion)
    (plain : ∀ resource ∈ resources, '/' ∉ resource.kind.toList)
    (plainOthers : ∀ resource ∈ others, '/' ∉ resource.kind.toList)
    (different : placeSegments group version ≠ placeSegments other otherVersion) :
    FilesApart (typeFiles root group version resources)
      (typeFiles root other otherVersion others) := by
  intro file member later laterMember tree changed together place changedPlace located relocated
  obtain ⟨name, proper, path⟩ := exists_name_of_mem_typeFiles plain member
  obtain ⟨laterName, laterProper, laterPath⟩ := exists_name_of_mem_typeFiles plainOthers laterMember
  have first : place = tree.destination file.1 := FileTree.eq_destination_of_locate located
  have second : changedPlace = changed.destination later.1 :=
    FileTree.eq_destination_of_locate relocated
  rw [path, destination_apiDirectory_join tree root relative level proper] at first
  rw [laterPath, ← FileTree.destination_congr together,
    destination_apiDirectory_join tree root relativeOther levelOther laterProper] at second
  rw [first, second]
  intro same
  have directories := List.append_inj_left' same rfl
  exact different (List.map_injective_iff.mpr EntryName.ofText_injective
    (List.append_cancel_left directories))

end Emit

/-! ### Plain names -/

/-- The label is a name or empty, and the version a name. -/
structure PlainPlace (group version : String) : Prop where
  unbrokenLabel : '/' ∉ (groupLabel group).toList
  unbrokenVersion : '/' ∉ version.toList
  undotted : version ≠ "."
  notUp : version ≠ ".."

instance (group version : String) : Decidable (PlainPlace group version) :=
  decidable_of_iff ('/' ∉ (groupLabel group).toList ∧ '/' ∉ version.toList ∧
      version ≠ "." ∧ version ≠ "..")
    ⟨fun ⟨label, unbroken, undotted, notUp⟩ => ⟨label, unbroken, undotted, notUp⟩,
      fun ⟨label, unbroken, undotted, notUp⟩ => ⟨label, unbroken, undotted, notUp⟩⟩

namespace PlainPlace

theorem slash_not_mem_placeLabel (plain : PlainPlace group version) :
    '/' ∉ (placeLabel group).toList :=
  fun member => plain.unbrokenLabel (Text.mem_of_mem_lowercase (by decide) (by decide) member)

theorem relative (plain : PlainPlace group version) : RelativePlace group version where
  label := Text.startsWith_of_not_mem plain.slash_not_mem_placeLabel
  version := Text.startsWith_of_not_mem plain.unbrokenVersion

theorem level (plain : PlainPlace group version) : ".." ∉ PackagePath.segments version := by
  rw [PackagePath.segments_of_not_mem plain.unbrokenVersion]
  split
  · exact List.not_mem_nil
  · exact fun up => plain.notUp (List.mem_singleton.mp up).symm

theorem placeSegments_eq (plain : PlainPlace group version) (some : version ≠ "") :
    placeSegments group version =
      (if placeLabel group = "" then [] else [placeLabel group]) ++ [version] := by
  have notDot : placeLabel group ≠ "." := fun dot =>
    dot_not_mem_placeLabel group (dot ▸ List.mem_cons_self)
  have proper : PackagePath.IsSegment version := ⟨some, plain.undotted, plain.unbrokenVersion⟩
  unfold placeSegments
  rw [PackagePath.segments_of_not_mem plain.slash_not_mem_placeLabel, proper.segments_eq]
  simp only [notDot, or_false]

theorem placeSegments_eq_iff (plain : PlainPlace group version) (some : version ≠ "")
    (plainOther : PlainPlace other otherVersion) (someOther : otherVersion ≠ "") :
    placeSegments group version = placeSegments other otherVersion ↔
      placeLabel group = placeLabel other ∧ version = otherVersion := by
  constructor
  · rw [plain.placeSegments_eq some, plainOther.placeSegments_eq someOther]
    intro same
    obtain ⟨labels, versions⟩ := List.append_inj' same rfl
    refine ⟨?_, List.singleton_inj.mp versions⟩
    split at labels <;> split at labels
    case isTrue.isTrue empty emptyOther => rw [empty, emptyOther]
    case isTrue.isFalse => cases labels
    case isFalse.isTrue => cases labels
    case isFalse.isFalse => exact List.singleton_inj.mp labels
  · rintro ⟨labels, rfl⟩
    unfold placeSegments
    rw [labels]

end PlainPlace

/-! ### Valid configurations -/

theorem Resource.version_ne_empty {resource : Resource} (sound : resource.fault? = none) :
    resource.version ≠ "" := by
  rintro empty
  unfold fault? at sound
  rw [empty] at sound
  split at sound <;> cases sound

namespace Config

variable {config : Config}

theorem fault?_eq_none_of_mem (valid : config.validate = .ok ()) {resource : Resource}
    (listed : resource ∈ config.resources) : resource.fault? = none := by
  have sound : config.fault? = none := by
    unfold validate at valid
    split at valid
    · cases valid
    · assumption
  unfold fault? at sound
  split at sound
  · cases sound
  · split at sound
    · cases sound
    · exact List.findSome?_eq_none_iff.mp sound resource listed

theorem version_ne_empty (valid : config.validate = .ok ()) {bucket : Bucket}
    (found : config.table.bucket? group version = some bucket) : version ≠ "" := by
  obtain ⟨versions, inTable, inGroup⟩ := Option.bind_eq_some_iff.mp found
  obtain ⟨resource, listed, _, rfl⟩ := ResourceTable.exists_resource_of_version config.resources
    _ (OrderedMap.find?_eq_some_iff.mp inTable) _ (OrderedMap.find?_eq_some_iff.mp inGroup)
  exact resource.version_ne_empty (fault?_eq_none_of_mem valid listed)

/-- Two versions of groups in the table of a valid configuration have one package exactly if the
segments of their places are the same, and one directory exactly then, unless a label or a version
starts over at the root. In different places they have no file in common, as long as no version
leads up and no kind leads into other directories. Plain places differ exactly if the labels or the
versions do. -/
theorem buckets_share_place_iff (valid : config.validate = .ok ()) (root : HostPath)
    {bucket otherBucket : Bucket} (found : config.table.bucket? group version = some bucket)
    (foundOther : config.table.bucket? other otherVersion = some otherBucket) :
    let shared := placeSegments group version = placeSegments other otherVersion
    (config.layout.apiPackage group version = config.layout.apiPackage other otherVersion ↔
      shared) ∧
    (RelativePlace group version → RelativePlace other otherVersion →
      ((apiDirectory root group version).components =
          (apiDirectory root other otherVersion).components ↔ shared) ∧
      (".." ∉ PackagePath.segments version → ".." ∉ PackagePath.segments otherVersion →
        (∀ resource ∈ bucket.values, '/' ∉ resource.kind.toList) →
        (∀ resource ∈ otherBucket.values, '/' ∉ resource.kind.toList) →
        ¬shared → FilesApart (Emit.typeFiles root group version bucket.values)
          (Emit.typeFiles root other otherVersion otherBucket.values))) ∧
    (PlainPlace group version → PlainPlace other otherVersion →
      (shared ↔ placeLabel group = placeLabel other ∧ version = otherVersion)) := by
  intro shared
  refine ⟨config.layout.apiPackage_eq_iff, fun relative relativeOther => ⟨?_, ?_⟩, ?_⟩
  · exact components_apiDirectory_eq_iff root relative relativeOther
  · exact Emit.filesApart_typeFiles root relative relativeOther
  · intro plain plainOther
    exact plain.placeSegments_eq_iff (version_ne_empty valid found) plainOther
      (version_ne_empty valid foundOther)

theorem networks_share_no_place :
    networks.validate = .ok () ∧
    ∃ bucket otherBucket,
      networks.table.bucket? "aws.example" "v1" = some bucket ∧
      networks.table.bucket? "ec2.aws.example" "v1" = some otherBucket ∧
      networks.layout.apiPackage "aws.example" "v1" ≠
        networks.layout.apiPackage "ec2.aws.example" "v1" ∧
      (apiDirectory ⟨"/out"⟩ "aws.example" "v1").components ≠
        (apiDirectory ⟨"/out"⟩ "ec2.aws.example" "v1").components ∧
      FilesApart (Emit.typeFiles ⟨"/out"⟩ "aws.example" "v1" bucket.values)
        (Emit.typeFiles ⟨"/out"⟩ "ec2.aws.example" "v1" otherBucket.values) := by
  have plain : PlainPlace "aws.example" "v1" := by constructor <;> decide
  have plainOther : PlainPlace "ec2.aws.example" "v1" := by constructor <;> decide
  have found : networks.table.bucket? "aws.example" "v1" = some _ := rfl
  have foundOther : networks.table.bucket? "ec2.aws.example" "v1" = some _ := rfl
  obtain ⟨package, files, shared⟩ := buckets_share_place_iff rfl ⟨"/out"⟩ found foundOther
  have apart := (shared plain plainOther).not.mpr (by decide)
  obtain ⟨directory, filesApart⟩ := files plain.relative plainOther.relative
  exact ⟨rfl, _, _, found, foundOther, package.not.mpr apart, directory.not.mpr apart,
    filesApart plain.level plainOther.level (by decide) (by decide) apart⟩

def rootedTwice : Config where
  rootGroup := "ec2.example"
  shortName := "ec2"
  modulePath := "example.org/provider"
  resources := [
    { name := "network", version := "v1", kind := "Network" },
    { name := "subnet", shortGroup := "ec2", version := "v1", kind := "Subnet" }]

/-- The root group and its group share a place, and write different texts to one file. -/
theorem rootedTwice_share_place :
    rootedTwice.validate = .ok () ∧
    ∃ bucket otherBucket,
      rootedTwice.table.bucket? "ec2.example" "v1" = some bucket ∧
      rootedTwice.table.bucket? "ec2.ec2.example" "v1" = some otherBucket ∧
      rootedTwice.layout.apiPackage "ec2.example" "v1" =
        rootedTwice.layout.apiPackage "ec2.ec2.example" "v1" ∧
      apiDirectory ⟨"/out"⟩ "ec2.example" "v1" = apiDirectory ⟨"/out"⟩ "ec2.ec2.example" "v1" ∧
      ∃ path text otherText, text ≠ otherText ∧
        (path, text) ∈ Emit.typeFiles ⟨"/out"⟩ "ec2.example" "v1" bucket.values ∧
        (path, otherText) ∈ Emit.typeFiles ⟨"/out"⟩ "ec2.ec2.example" "v1" otherBucket.values := by
  refine ⟨rfl, _, _, rfl, rfl, rfl, rfl,
    (apiDirectory ⟨"/out"⟩ "ec2.example" "v1").join "zz_groupversion_info.go", _, _, ?_,
    List.mem_append_right _ (List.mem_cons_of_mem _ List.mem_cons_self),
    List.mem_append_right _ (List.mem_cons_of_mem _ List.mem_cons_self)⟩
  decide

end Config

end ProviderGen
