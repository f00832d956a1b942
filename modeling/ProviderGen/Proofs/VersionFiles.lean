import Mathlib.Tactic.Linarith
import ProviderGen.Proofs.BucketPlace
import ProviderGen.Proofs.FileContents
import ProviderGen.Proofs.SourceText
import ProviderGen.Proofs.WorkEffect

/-!
What becomes of the resources of a version. The types of each go to a file that is named after the
kind in lowercase, while accessors and registrations follow the list of resources. So no resource is
lost, and no kind comes twice, exactly if these files are different files.
-/

namespace ProviderGen

open Location (IsName)

namespace Emit

variable {root : HostPath} {group version : String} {resources : List Resource}

def typePath (root : HostPath) (group version : String) (resource : Resource) : HostPath :=
  (apiDirectory root group version).join (typeFileName resource.kind)

def typeText (version : String) (resource : Resource) : String :=
  sourceText (typeLines (packageName version) version resource)

def accessorsPath (root : HostPath) (group version : String) : HostPath :=
  (apiDirectory root group version).join "zz_generated_resources.go"

def registrationPath (root : HostPath) (group version : String) : HostPath :=
  (apiDirectory root group version).join "zz_groupversion_info.go"

theorem typeFiles_eq (root : HostPath) (group version : String) (resources : List Resource) :
    typeFiles root group version resources =
      resources.map (fun resource =>
        (typePath root group version resource, typeText version resource)) ++ [
      (accessorsPath root group version,
        sourceText (accessorLines (packageName version) resources)),
      (registrationPath root group version,
        sourceText (groupVersionLines (packageName version) group version resources))] := rfl

/-! ### What the files tell -/

def accessorLine (kind : String) : String :=
  "func (mg *" ++ kind ++ ") GetTerraformResourceType() string \x7b"

def registrationLine (kind : String) : String :=
  "\tSchemeBuilder.Register(&" ++ kind ++ "\x7b\x7d, &" ++ kind ++ "List\x7b\x7d)"

theorem accessorLine_injective : Function.Injective accessorLine := by
  intro kind other same
  unfold accessorLine at same
  exact (String.append_right_inj _).mp ((String.append_left_inj _).mp same)

theorem registrationLine_injective : Function.Injective registrationLine :=
  fun _ _ same => eq_of_two_places same

def definitions (lines : List String) : List String := opened "func (mg *" lines

def registrations (lines : List String) : List String :=
  opened "\tSchemeBuilder.Register(&" lines

theorem definitions_accessorLines (package : String) (resources : List Resource) :
    definitions (accessorLines package resources) =
      resources.map fun resource => accessorLine resource.kind := by
  have own (kind : String) : Opens "func (mg *"
      ("func (mg *" ++ kind ++ ") GetTerraformResourceType() string \x7b") := by
    rw [String.append_assoc]
    exact opens_append _ _
  unfold definitions accessorLines fileStart generatedHeader
  rw [opened_append, opened, opened, List.filter_flatMap, List.map_eq_flatMap]
  simp +decide only [List.filter_cons, List.filter_nil, Diverge.not_opens, own, if_false, if_true,
    List.nil_append, accessorLine]

theorem registrations_groupVersionLines (package group version : String)
    (resources : List Resource) :
    registrations (groupVersionLines package group version resources) =
      resources.map fun resource => registrationLine resource.kind := by
  have kept : opened "\tSchemeBuilder.Register(&"
      (resources.map fun resource => registrationLine resource.kind) =
        resources.map fun resource => registrationLine resource.kind := by
    apply opened_eq_self
    intro line member
    obtain ⟨resource, _, rfl⟩ := List.mem_map.mp member
    unfold registrationLine
    rw [String.append_assoc, String.append_assoc, String.append_assoc]
    exact opens_append _ _
  unfold registrationLine at kept ⊢
  unfold registrations groupVersionLines generatedHeader
  rw [opened_append, opened_append, kept, opened, opened]
  simp +decide only [List.filter_cons, List.filter_nil, Diverge.not_opens, if_false,
    List.nil_append, List.append_nil]

/-! ### The kind in the types of a resource -/

theorem length_sourceText (lines : List String) :
    (sourceText lines).length = (lines.map fun line => line.length + 1).sum := by
  induction lines with
  | nil => rfl
  | cons line rest ih =>
    have feed : "\n".length = 1 := rfl
    rw [sourceText_cons, String.length_append, String.length_append, feed, ih, List.map_cons,
      List.sum_cons]

def markerLength (version : String) (resource : Resource) : Nat :=
  if resource.hubVersion = version then 31 else 0

theorem length_kind_of_typeLines {package version : String} {resource other : Resource}
    (same : sourceText (typeLines package version resource) =
      sourceText (typeLines package version other)) :
    23 * resource.kind.length + markerLength version resource =
      23 * other.kind.length + markerLength version other := by
  have marker (resource : Resource) :
      ((if resource.hubVersion = version then ["// +kubebuilder:storageversion"] else []).map
        fun line => line.length + 1).sum = markerLength version resource := by
    unfold markerLength
    split <;> rfl
  have lengths := congrArg String.length same
  rw [length_sourceText, length_sourceText] at lengths
  unfold typeLines fileStart at lengths
  simp only [List.map_append, List.map_cons, List.map_nil, List.sum_append, List.sum_cons,
    List.sum_nil, String.length_append, marker] at lengths
  linarith only [lengths]

/-- The kind can be told from the types of a resource. The length of the text tells the length of
the kind, and the first comment opens with it. -/
theorem kind_eq_of_typeText_eq {resource other : Resource}
    (same : typeText version resource = typeText version other) :
    resource.kind = other.kind := by
  let opening := fileStart (packageName version) ++ ["", "import (",
    "\tmetav1 \"k8s.io/apimachinery/pkg/apis/meta/v1\"", ")", ""]
  have lengths : resource.kind.length = other.kind.length := by
    have total := length_kind_of_typeLines same
    unfold markerLength at total
    split at total <;> split at total <;> omega
  have opened (resource : Resource) :
      ∃ rest, typeText version resource = sourceText opening ++ "// " ++ resource.kind ++ rest := by
    have cut : typeLines (packageName version) version resource = opening ++
        ("// " ++ resource.kind ++ "Parameters are the configurable fields of a " ++
          resource.kind ++ ".") :: (typeLines (packageName version) version resource).drop 9 := rfl
    unfold typeText
    rw [cut, sourceText_append, sourceText_cons]
    simp only [String.append_assoc]
    exact ⟨_, rfl⟩
  obtain ⟨rest, text⟩ := opened resource
  obtain ⟨later, otherText⟩ := opened other
  rw [text, otherText] at same
  exact eq_of_opening same lengths

/-! ### Places -/

theorem exists_destination_typePath (tree : FileTree) (root : HostPath) (group version : String)
    (resource : Resource) : ∃ above name,
      tree.destination (typePath root group version resource) =
        above ++ [EntryName.ofText (name ++ "_types.go")] := by
  have relative : Text.startsWith '/' (typeFileName resource.kind) = false := by
    unfold Text.startsWith typeFileName
    simp
  -- slashes of the kind cut the name, but the ending stays whole
  have absent : '/' ∉ "_types.go".toList := by decide
  obtain ⟨before, last, cut⟩ :=
    Text.split_append_ending ("zz_" ++ Text.lowercase resource.kind) absent
  have proper : IsName (last ++ "_types.go") := by
    have unbroken : '/' ∉ (last ++ "_types.go").toList := by
      apply Text.not_mem_of_mem_split (s := typeFileName resource.kind)
      unfold typeFileName
      rw [cut]
      exact List.mem_append_right _ List.mem_cons_self
    have longer {short : String} (bound : short.length < 9) : last ++ "_types.go" ≠ short := by
      intro same
      have lengths := congrArg String.length same
      rw [String.length_append] at lengths
      have ending : "_types.go".length = 9 := rfl
      omega
    exact ⟨⟨longer (by decide), longer (by decide), unbroken⟩, longer (by decide)⟩
  refine ⟨(tree.destination (apiDirectory root group version)).descend (before.map .ofText), last,
    ?_⟩
  unfold typePath
  rw [tree.destination_join relative]
  unfold typeFileName Location.descend
  rw [cut, List.map_append, List.foldl_append]
  exact proper.step _

theorem destination_typePath_ne (tree : FileTree) {name : String} (proper : IsName name)
    (different : ¬"_types.go".toList <:+ name.toList) (resource : Resource) :
    tree.destination ((apiDirectory root group version).join name) ≠
      tree.destination (typePath root group version resource) := by
  intro same
  obtain ⟨above, start, types⟩ := exists_destination_typePath tree root group version resource
  rw [tree.destination_join_name proper, types] at same
  obtain ⟨_, names⟩ := List.append_inj' same rfl
  apply different
  rw [EntryName.ofText_injective (List.singleton_inj.mp names), String.toList_append]
  exact List.suffix_append _ _

theorem nodup_places_iff (tree : FileTree)
    (plain : ∀ resource ∈ resources, '/' ∉ resource.kind.toList) :
    (resources.map fun resource => tree.destination (typePath root group version resource)).Nodup ↔
      (resources.map fun resource => Text.lowercase resource.kind).Nodup := by
  let place (lower : String) : Location :=
    tree.destination (apiDirectory root group version) ++
      [EntryName.ofText ("zz_" ++ lower ++ "_types.go")]
  have injective : Function.Injective place := by
    intro lower other same
    have names := EntryName.ofText_injective
      (List.singleton_inj.mp (List.append_cancel_left same))
    exact (String.append_right_inj _).mp ((String.append_left_inj _).mp names)
  have places : (resources.map fun resource =>
      tree.destination (typePath root group version resource)) =
        (resources.map fun resource => Text.lowercase resource.kind).map place := by
    rw [List.map_map]
    apply List.map_congr_left
    intro resource member
    exact tree.destination_join_name (isName_typeFileName (plain resource member))
  rw [places, List.nodup_map_iff injective]

/-! ### Versions -/

/-- What a directory is to hold of the resources of a version: the types of each in the file named
after it, and no kind twice among the accessors and registrations. -/
structure VersionKept (tree : FileTree) (root : HostPath) (group version : String)
    (resources : List Resource) : Prop where
  types : ∀ resource ∈ resources,
    tree.readText (typePath root group version resource) = .ok (typeText version resource)
  defined : (definitions (accessorLines (packageName version) resources)).Nodup
  registered :
    (registrations (groupVersionLines (packageName version) group version resources)).Nodup

theorem nodup_lines_iff {line : String → String} (injective : Function.Injective line) :
    (resources.map fun resource => line resource.kind).Nodup ↔
      (resources.map Resource.kind).Nodup := by
  change (resources.map (line ∘ Resource.kind)).Nodup ↔ _
  rw [← List.map_map, List.nodup_map_iff injective]

theorem nodup_definitions_iff {package : String} :
    (definitions (accessorLines package resources)).Nodup ↔
      (resources.map Resource.kind).Nodup := by
  rw [definitions_accessorLines]
  exact nodup_lines_iff accessorLine_injective

theorem nodup_registrations_iff {package : String} :
    (registrations (groupVersionLines package group version resources)).Nodup ↔
      (resources.map Resource.kind).Nodup := by
  rw [registrations_groupVersionLines]
  exact nodup_lines_iff registrationLine_injective

theorem isName_accessors : IsName "zz_generated_resources.go" := by decide

theorem isName_registration : IsName "zz_groupversion_info.go" := by decide

namespace Target

variable {target : Target} {pending : PendingManifests} {tree after : FileTree} {package : String}

section

variable (success : (target.work pending (.types group version resources)).1.run tree =
  (.ok package, after))

include success

theorem updated_of_types :
    tree.Updated (typeFiles target.root group version resources) after :=
  FileWork.updated_of_writeAll_done success

theorem readText_registration :
    after.readText (registrationPath target.root group version) =
      .ok (sourceText (groupVersionLines (packageName version) group version resources)) := by
  have updated := updated_of_types success
  rw [typeFiles_eq, List.append_cons] at updated
  apply updated.readText_written (List.mem_append_right _ List.mem_cons_self)
  rw [FileTree.lastWritten?_append, FileTree.lastWritten?_singleton, if_pos rfl, Option.some_or]

theorem readText_accessors :
    after.readText (accessorsPath target.root group version) =
      .ok (sourceText (accessorLines (packageName version) resources)) := by
  have updated := updated_of_types success
  have apart : tree.destination (accessorsPath target.root group version) ≠
      tree.destination (registrationPath target.root group version) := by
    unfold accessorsPath registrationPath
    rw [tree.destination_join_name isName_accessors, tree.destination_join_name isName_registration]
    simp
  rw [typeFiles_eq, List.append_cons] at updated
  apply updated.readText_written
    (List.mem_append_left _ (List.mem_append_right _ List.mem_cons_self))
  rw [FileTree.lastWritten?_append, FileTree.lastWritten?_singleton, if_neg apart, Option.none_or,
    FileTree.lastWritten?_append, FileTree.lastWritten?_singleton, if_pos rfl, Option.some_or]

theorem readText_types {resource : Resource} (member : resource ∈ resources) :
    ∃ last, LastWith (fun other => tree.destination (typePath target.root group version other))
        resources (tree.destination (typePath target.root group version resource)) last ∧
      after.readText (typePath target.root group version resource) =
        .ok (typeText version last) := by
  have updated := updated_of_types success
  rw [typeFiles_eq, ← List.nil_append (List.map _ _)] at updated
  apply updated.readText_item member
  intro file later
  simp only [List.mem_cons, List.not_mem_nil, or_false] at later
  cases later with
  | inl accessors =>
    subst accessors
    exact destination_typePath_ne tree isName_accessors (by decide) resource
  | inr registration =>
    subst registration
    exact destination_typePath_ne tree isName_registration (by decide) resource

end

/-- Where a version is generated from any list of resources, its accessors and registrations follow
the list, and the file of a resource's types holds those of the last resource with the same place.
Each resource has its own types there and no kind comes twice exactly if the places differ, which
for kinds without slashes is to say that the kinds differ in lowercase. -/
theorem types_kept_iff
    (success : (target.work pending (.types group version resources)).1.run tree =
      (.ok package, after)) :
    let place := fun resource => tree.destination (typePath target.root group version resource)
    after.readText (accessorsPath target.root group version) =
      .ok (sourceText (accessorLines (packageName version) resources)) ∧
    after.readText (registrationPath target.root group version) =
      .ok (sourceText (groupVersionLines (packageName version) group version resources)) ∧
    (∀ resource ∈ resources, ∃ last, LastWith place resources (place resource) last ∧
      after.readText (typePath target.root group version resource) =
        .ok (typeText version last)) ∧
    (VersionKept after target.root group version resources ↔ (resources.map place).Nodup) ∧
    ((∀ resource ∈ resources, '/' ∉ resource.kind.toList) →
      ((resources.map place).Nodup ↔
        (resources.map fun resource => Text.lowercase resource.kind).Nodup)) := by
  intro place
  have types : ∀ resource ∈ resources, ∃ last, LastWith place resources (place resource) last ∧
      after.readText (typePath target.root group version resource) = .ok (typeText version last) :=
    fun _ member => readText_types success member
  refine ⟨readText_accessors success, readText_registration success, types, ⟨?_, ?_⟩,
    nodup_places_iff tree⟩
  · intro kept
    -- two resources with one place would both have the types of the last there, and so one kind
    apply LastWith.nodup_of_key (nodup_definitions_iff.mp kept.defined)
    intro resource member last lastWith
    obtain ⟨other, otherWith, read⟩ := types resource member
    rw [kept.types resource member] at read
    rw [lastWith.unique otherWith]
    exact (kind_eq_of_typeText_eq (Except.ok.inj read)).symm
  · intro distinct
    have kinds : (resources.map Resource.kind).Nodup := by
      apply nodup_map_of_told _ distinct
      intro resource other same
      unfold place typePath
      rw [same]
    refine ⟨?_, nodup_definitions_iff.mpr kinds, nodup_registrations_iff.mpr kinds⟩
    intro resource member
    obtain ⟨last, lastWith, read⟩ := types resource member
    rw [read, lastWith.eq_of_nodup distinct member]

end Target

end Emit

/-! ### Pairs of kinds -/

namespace Config

open Emit

def networkAnd (kind : String) : Config where
  rootGroup := "aws.example"
  shortName := "aws"
  modulePath := "example.org/provider"
  resources := [
    { name := "network", shortGroup := "ec2", version := "v1", kind := "Network" },
    { name := "network_default", shortGroup := "ec2", version := "v1", kind }]

def versionDirectory : FileTree where
  workingDirectory := []
  entries := ⟨[
    (["out"], .directory), (["out", "apis"], .directory), (["out", "apis", "ec2"], .directory),
    (["out", "apis", "ec2", "v1"], .directory)], by decide⟩

def typesOfNetworkAnd (kind : String) : Except GenerateFailure String × FileTree :=
  let target : Target := ⟨⟨"out"⟩, (networkAnd kind).layout⟩
  (target.work .empty (.types "ec2.aws.example" "v1" (networkAnd kind).resources)).1.run
    versionDirectory

theorem networkAnd_kept :
    (networkAnd "Subnet").validate = .ok () ∧ (networkAnd "NETWORK").validate = .ok () ∧
    (∃ package after, typesOfNetworkAnd "Subnet" = (.ok package, after) ∧
      VersionKept after ⟨"out"⟩ "ec2.aws.example" "v1" (networkAnd "Subnet").resources) ∧
    ∃ package after, typesOfNetworkAnd "NETWORK" = (.ok package, after) ∧
      ¬VersionKept after ⟨"out"⟩ "ec2.aws.example" "v1" (networkAnd "NETWORK").resources := by
  obtain ⟨package, after, success⟩ := FileWork.exists_of_isOk
    (show (typesOfNetworkAnd "Subnet").1.isOk = true by decide +kernel)
  obtain ⟨lossyPackage, lossyAfter, lossySuccess⟩ := FileWork.exists_of_isOk
    (show (typesOfNetworkAnd "NETWORK").1.isOk = true by decide +kernel)
  obtain ⟨_, _, _, kept, places⟩ := Target.types_kept_iff success
  obtain ⟨_, _, _, lossyKept, lossyPlaces⟩ := Target.types_kept_iff lossySuccess
  have plain : ∀ resource ∈ (networkAnd "Subnet").resources, '/' ∉ resource.kind.toList := by
    decide
  have lossyPlain : ∀ resource ∈ (networkAnd "NETWORK").resources,
      '/' ∉ resource.kind.toList := by
    decide
  refine ⟨rfl, rfl, ⟨package, after, success, ?_⟩, lossyPackage, lossyAfter, lossySuccess, ?_⟩
  · apply kept.mpr
    apply (places plain).mpr
    decide
  · intro whole
    exact absurd ((lossyPlaces lossyPlain).mp (lossyKept.mp whole)) (by decide)

/-- With one kind twice, the accessors of a valid configuration define it twice. -/
theorem networkAnd_defined_twice :
    (networkAnd "Network").validate = .ok () ∧
    (∃ bucket, (networkAnd "Network").table.bucket? "ec2.aws.example" "v1" = some bucket ∧
      bucket.values = (networkAnd "Network").resources) ∧
    let lines := accessorLines "v1" (networkAnd "Network").resources
    (∃ package after, typesOfNetworkAnd "Network" = (.ok package, after) ∧
      after.readText ⟨"out/apis/ec2/v1/zz_generated_resources.go"⟩ = .ok (sourceText lines)) ∧
    definitions lines = [accessorLine "Network", accessorLine "Network"] := by
  obtain ⟨package, after, success⟩ := FileWork.exists_of_isOk
    (show (typesOfNetworkAnd "Network").1.isOk = true by decide +kernel)
  have path : accessorsPath ⟨"out"⟩ "ec2.aws.example" "v1" =
      ⟨"out/apis/ec2/v1/zz_generated_resources.go"⟩ := by decide
  have read := Target.readText_accessors success
  rw [path] at read
  exact ⟨rfl, ⟨_, rfl, rfl⟩, ⟨package, after, success, read⟩, definitions_accessorLines _ _⟩

end Config

end ProviderGen
