import ProviderGen.Proofs.PathWithin
import ProviderGen.Proofs.SourceText
import ProviderGen.Proofs.TableContents
import ProviderGen.Proofs.WrittenPaths

/-!
Which runs stay inside their output. Only versions, kinds, names and the labels of groups can lead
elsewhere, and valid configurations may have any of them. A run stays inside if they lead inward,
which they do if no slash is in them, and a successful run into a relative output only then.
-/

namespace ProviderGen

open Location (IsName)

namespace Emit

theorem isName_conversionFile (kind : NodeKind) : IsName (conversionFileName kind) := by
  cases kind <;> decide

theorem exists_name_of_mem_partsOf {call : Call} {parts : List String}
    (among : parts ∈ partsOf call) : ∃ name rest, parts = name :: rest ∧ IsName name := by
  cases call with
  | types =>
    obtain ⟨_, _, rfl⟩ := List.mem_map.mp among
    exact ⟨_, _, rfl, by decide⟩
  | setup controllers mainTemplate? =>
    rcases List.mem_append.mp among with setup | main
    · obtain ⟨_, _, rfl⟩ := List.mem_map.mp setup
      exact ⟨_, _, rfl, by decide⟩
    · split at main
      · cases main
      · obtain ⟨_, _, rfl⟩ := List.mem_map.mp main
        exact ⟨_, _, rfl, by decide⟩
  | store => cases among
  | format => cases among
  | _ =>
    rw [List.mem_singleton.mp among]
    exact ⟨_, _, rfl, by decide⟩

end Emit

theorem Manifest.isName_fileName {resource : String} (plain : '/' ∉ resource.toList) :
    IsName (Manifest.fileName resource) := by
  have ending : ".yaml".toList.length = 5 := rfl
  have letters : (Manifest.fileName resource).toList =
      (resource.toList.map fun c => if c = '_' then '-' else c) ++ ".yaml".toList := by
    unfold Manifest.fileName
    rw [String.toList_append, String.toList_ofList]
  have differs {name : String} (short : name.toList.length < 5) :
      Manifest.fileName resource ≠ name := by
    rintro rfl
    rw [letters, List.length_append, ending] at short
    omega
  refine ⟨⟨differs (by decide), differs (by decide), ?_⟩, differs (by decide)⟩
  rw [letters, List.mem_append]
  rintro (member | last)
  · obtain ⟨c, present, same⟩ := List.mem_map.mp member
    split at same
    · cases same
    · exact plain (same ▸ present)
  · exact absurd last (by decide)

/-! ### Resources that lead inward -/

def Resource.placeParts (resource : Resource) (group version : String) : List (List String) :=
  [ ["apis", placeLabel group, version, Emit.typeFileName resource.kind],
    ["internal", "controller", placeLabel group, Text.lowercase resource.kind,
      "zz_controller.go"],
    ["examples-generated", placeLabel group, version, Manifest.fileName resource.name]]

theorem Resource.exists_name_of_mem_placeParts {resource : Resource} {group version : String}
    {parts : List String} (among : parts ∈ resource.placeParts group version) :
    ∃ name rest, parts = name :: rest ∧ IsName name := by
  simp only [placeParts, List.mem_cons, List.not_mem_nil, or_false] at among
  rcases among with rfl | rfl | rfl <;> exact ⟨_, _, rfl, by decide⟩

namespace Config

open Emit (partsOf)
open Emit.Target (Formatter unformatted)

/-- All resources of a configuration lead inward from the output. -/
def Inward (config : Config) : Prop :=
  ∀ resource ∈ config.table.resources,
    ∀ parts ∈ resource.placeParts (resource.apiGroup config.rootGroup) resource.version,
      HostPath.Inward parts

instance (config : Config) : Decidable config.Inward :=
  inferInstanceAs (Decidable (∀ _ ∈ _, ∀ _ ∈ _, _))

def Unbroken (config : Config) : Prop :=
  ∀ resource ∈ config.table.resources,
    '/' ∉ (groupLabel (resource.apiGroup config.rootGroup)).toList ∧
      '/' ∉ resource.version.toList ∧ '/' ∉ resource.kind.toList ∧ '/' ∉ resource.name.toList

instance (config : Config) : Decidable config.Unbroken :=
  inferInstanceAs (Decidable (∀ _ ∈ _, _))

variable {config : Config}

/-- Below names and the label of a group, a segment and a last name lead inward. -/
theorem inward_below_label {group middle last : String} (first : String) (names : List String)
    (named : ∀ name ∈ first :: names, IsName name) (label : '/' ∉ (groupLabel group).toList)
    (unbroken : '/' ∉ middle.toList) (proper : IsName last) :
    HostPath.Inward ((first :: names ++ [placeLabel group]) ++ [middle, last]) := by
  have plain : '/' ∉ (placeLabel group).toList := fun slash =>
    label (Text.mem_of_mem_lowercase (by decide) (by decide) slash)
  have relative : ∀ part ∈ first :: names ++ [placeLabel group], Text.startsWith '/' part = false :=
    List.forall_mem_append.mpr ⟨(HostPath.inward_of_names named).relative,
      List.forall_mem_singleton.mpr (Text.startsWith_of_not_mem plain)⟩
  have down : ".." ∉ (first :: names ++ [placeLabel group]).flatMap PackagePath.segments := by
    rw [List.flatMap_append, List.flatMap_singleton, List.mem_append]
    exact not_or.mpr ⟨Location.up_not_mem_of_names named, up_not_mem_segments_placeLabel group⟩
  exact HostPath.inward_of_unbroken down ⟨first, List.mem_cons_self, named _ List.mem_cons_self⟩
    relative unbroken proper

theorem inward_of_unbroken (unbroken : config.Unbroken) : config.Inward := by
  intro resource member
  obtain ⟨label, version, kind, name⟩ := unbroken resource member
  have directory : '/' ∉ (Text.lowercase resource.kind).toList := fun slash =>
    kind (Text.mem_of_mem_lowercase (by decide) (by decide) slash)
  simp only [Resource.placeParts, List.forall_mem_cons]
  refine ⟨?types, ?controller, ?manifest, nofun⟩
  case types =>
    exact inward_below_label "apis" [] (by decide) label version (Emit.isName_typeFileName kind)
  case controller =>
    exact inward_below_label "internal" ["controller"] (by decide) label directory (by decide)
  case manifest =>
    exact inward_below_label "examples-generated" [] (by decide) label version
      (Manifest.isName_fileName name)

/-! ### Calls -/

theorem inward_beside {resource : Resource} {group version name : String}
    (inward : ∀ parts ∈ resource.placeParts group version, HostPath.Inward parts)
    (proper : IsName name) : HostPath.Inward ["apis", placeLabel group, version, name] := by
  have types : HostPath.Inward (["apis", placeLabel group, version] ++
      [Emit.typeFileName resource.kind]) := inward _ List.mem_cons_self
  have directory : HostPath.Inward ["apis", placeLabel group, version] := types.of_append
  exact directory.append_name proper

section Planned

variable {returned : Call → String} {output : HostPath} {entry : String × GroupVersions}
  {version : String × Bucket}

theorem placed_of_mem_values (inTable : entry ∈ config.table.groups.entries)
    (inGroup : version ∈ entry.2.entries) {resource : Resource}
    (member : resource ∈ version.2.values) :
    resource ∈ config.table.resources ∧ resource.apiGroup config.rootGroup = entry.1 ∧
      resource.version = version.1 := by
  have key := ResourceTable.key_of_mem_values
    (config.table_wellPlaced entry inTable version inGroup) member
  have listed : resource ∈ config.table.resources :=
    List.mem_flatMap.mpr ⟨entry.2, List.mem_map_of_mem inTable,
      List.mem_flatMap.mpr ⟨version.2, List.mem_map_of_mem inGroup, member⟩⟩
  exact ⟨listed, congrArg ResourceKey.group key, congrArg ResourceKey.version key⟩

theorem inward_of_mem_values (inward : config.Inward)
    (inTable : entry ∈ config.table.groups.entries) (inGroup : version ∈ entry.2.entries)
    {resource : Resource} (member : resource ∈ version.2.values) :
    ∀ parts ∈ resource.placeParts entry.1 version.1, HostPath.Inward parts := by
  obtain ⟨listed, group, level⟩ := placed_of_mem_values inTable inGroup member
  have own := inward resource listed
  rwa [group, level] at own

theorem exists_bucket {resource : Resource} (member : resource ∈ config.table.resources) :
    ∃ entry ∈ config.table.groups.entries, ∃ version ∈ entry.2.entries,
      resource ∈ version.2.values ∧ resource.apiGroup config.rootGroup = entry.1 ∧
        resource.version = version.1 := by
  obtain ⟨_, groupListed, member⟩ := List.mem_flatMap.mp member
  obtain ⟨entry, inTable, rfl⟩ := List.mem_map.mp groupListed
  obtain ⟨_, versionListed, member⟩ := List.mem_flatMap.mp member
  obtain ⟨version, inGroup, rfl⟩ := List.mem_map.mp versionListed
  have placed := placed_of_mem_values inTable inGroup member
  exact ⟨entry, inTable, version, inGroup, member, placed.2⟩

theorem exists_mem_values (inTable : entry ∈ config.table.groups.entries)
    (inGroup : version ∈ entry.2.entries) : ∃ resource, resource ∈ version.2.values := by
  have filled := (ResourceTable.filled_ofResources config.resources).versions entry inTable
    version inGroup
  obtain ⟨named, present⟩ := List.exists_mem_of_ne_nil _ filled
  exact ⟨named.2, List.mem_map_of_mem present⟩

theorem inward_of_versionCall (inward : config.Inward)
    (inTable : entry ∈ config.table.groups.entries) (inGroup : version ∈ entry.2.entries)
    {call : Call} (made : call ∈ CallOrder.versionCalls config returned entry.1 version) :
    ∀ parts ∈ partsOf call, HostPath.Inward parts := by
  have placed {resource : Resource} (member : resource ∈ version.2.values) :=
    inward_of_mem_values inward inTable inGroup member
  rcases CallOrder.mem_versionCalls.mp made with rfl | ⟨resource, member, rfl | rfl⟩
  · intro parts listed
    obtain ⟨name, among, rfl⟩ := List.mem_map.mp listed
    rcases List.mem_append.mp among with typed | fixed
    · obtain ⟨resource, member, rfl⟩ := List.mem_map.mp typed
      exact placed member _ List.mem_cons_self
    · obtain ⟨resource, member⟩ := exists_mem_values inTable inGroup
      have names : ∀ name ∈ ["zz_generated_resources.go", "zz_groupversion_info.go"],
          IsName name := by decide
      exact inward_beside (placed member) (names name fixed)
  · exact List.forall_mem_singleton.mpr
      (placed member _ (List.mem_cons_of_mem _ List.mem_cons_self))
  · exact List.forall_mem_singleton.mpr
      (placed member _ (List.mem_cons_of_mem _ (List.mem_cons_of_mem _ List.mem_cons_self)))

theorem inward_of_conversionCall (inward : config.Inward)
    (inTable : entry ∈ config.table.groups.entries) {kind : NodeKind} {call : Call}
    (made : call ∈ CallOrder.conversionCalls kind entry) :
    ∀ parts ∈ partsOf call, HostPath.Inward parts := by
  obtain ⟨version, inGroup, called⟩ := List.mem_filterMap.mp made
  obtain ⟨some, rfl⟩ := CallOrder.conversionCall?_eq_some_iff.mp called
  obtain ⟨resource, covered⟩ := List.exists_mem_of_ne_nil _ some
  have placed := inward_of_mem_values inward inTable inGroup (List.mem_filter.mp covered).1
  exact List.forall_mem_singleton.mpr (inward_beside placed (Emit.isName_conversionFile kind))

theorem inward_of_closingCall {call : Call}
    (made : call ∈ CallOrder.closingCalls config returned output) :
    ∀ parts ∈ partsOf call, HostPath.Inward parts := by
  simp only [CallOrder.closingCalls, List.mem_cons, List.not_mem_nil, or_false] at made
  intro parts listed
  apply HostPath.inward_of_names
  rcases made with rfl | rfl | rfl | rfl | rfl
  · cases listed
  · cases List.mem_singleton.mp listed
    decide
  · rcases List.mem_append.mp listed with setup | main
    · obtain ⟨key, _, rfl⟩ := List.mem_map.mp setup
      have file := Emit.isName_setupFile key
      simpa using ⟨by decide, by decide, file⟩
    · split at main
      · cases main
      · obtain ⟨key, _, rfl⟩ := List.mem_map.mp main
        have directory := (Emit.isPlain_packageName key).isName
        simpa using ⟨by decide, by decide, directory, by decide⟩
  · cases listed
  · cases listed

theorem inward_of_planned (inward : config.Inward) {call : Call}
    (planned : call ∈ config.plannedCalls output) :
    ∀ parts ∈ partsOf call, HostPath.Inward parts := by
  unfold plannedCalls at planned
  split at planned
  case h_1 => cases planned
  case h_2 =>
  rcases CallOrder.mem_runCalls planned with ⟨entry, inTable, own⟩ | closing
  · rcases List.mem_append.mp own with versions | conversions
    · obtain ⟨version, inGroup, made⟩ := List.mem_flatMap.mp versions
      exact inward_of_versionCall inward inTable inGroup made
    · rcases List.mem_append.mp conversions with hub | spoke
      · exact inward_of_conversionCall inward inTable hub
      · exact inward_of_conversionCall inward inTable spoke
  · exact inward_of_closingCall closing

theorem exists_call_of_placeParts (config : Config) (returned : Call → String) {group : String}
    {resource : Resource} (member : resource ∈ version.2.values) {parts : List String}
    (among : parts ∈ resource.placeParts group version.1) :
    ∃ call ∈ CallOrder.versionCalls config returned group version, parts ∈ partsOf call := by
  simp only [Resource.placeParts, List.mem_cons, List.not_mem_nil, or_false] at among
  rcases among with types | controller | manifest
  · refine ⟨CallOrder.typesCall group version, CallOrder.mem_versionCalls.mpr (.inl rfl), ?_⟩
    unfold CallOrder.typesCall
    rw [partsOf, types]
    exact List.mem_map.mpr ⟨Emit.typeFileName resource.kind,
      List.mem_append_left _ (List.mem_map.mpr ⟨resource, member, rfl⟩), rfl⟩
  · refine ⟨CallOrder.controllerCall config returned group version resource,
      CallOrder.mem_versionCalls.mpr (.inr ⟨resource, member, .inl rfl⟩), ?_⟩
    unfold CallOrder.controllerCall
    rw [partsOf, controller]
    exact List.mem_singleton_self _
  · refine ⟨.manifest group version.1 resource,
      CallOrder.mem_versionCalls.mpr (.inr ⟨resource, member, .inr rfl⟩), ?_⟩
    rw [partsOf, manifest]
    exact List.mem_singleton_self _

end Planned

/-! ### Runs -/

variable {output : HostPath} {formatter : Formatter} {tree : FileTree}

theorem plannedWrites_confined (inward : config.Inward) (output : HostPath) (template : String) :
    ∀ file ∈ config.plannedWrites output template, output.Contains file.1 := by
  refine Emit.Target.forall_filesOf (Q := fun components => ∃ segments, components =
    output.components ++ segments.map HostPath.Component.ofName ∧
      HostPath.staysWithin 0 segments = true) (fun call planned path listed => ?_) ?_
  · obtain ⟨parts, among, rfl⟩ := List.mem_map.mp listed
    obtain ⟨name, rest, rfl, named⟩ := Emit.exists_name_of_mem_partsOf among
    exact HostPath.contains_of_inward output named (inward_of_planned inward planned _ among)
  · intro entry none
    cases none

theorem writesInto_confined (inward : config.Inward) :
    ∀ file ∈ config.writesInto output formatter tree ++
      (config.failedInto? output formatter tree).toList, output.Contains file.1 := by
  obtain ⟨template, read⟩ := Emit.Target.exists_template
    (config.length_readingsInto output formatter tree)
  intro file written
  exact plannedWrites_confined inward output template file
    ((writesInto_planned read).1.subset written)

theorem plannedCalls_of_success {summary : Summary}
    (success : (config.generateInto output formatter tree).1 = .ok summary) :
    ∃ later, config.plannedCalls output = config.table.groups.entries.flatMap
      (CallOrder.ownCalls config (config.target output).package) ++ .store :: later := by
  obtain ⟨_, ended⟩ := config.planned_or_failed output formatter tree
  rcases ended with ⟨_, _, result⟩ | ⟨_, _, _, _, blamed⟩
  · rw [success] at result
    cases valid : config.validate with
    | error cause =>
      rw [generation_of_invalid valid, Process.follow_fail] at result
      cases result
    | ok =>
      rw [follow_generation valid] at result
      have sound : CallOrder.firstFault? config = none := by
        change _ = CallOrder.outcome config _ at result
        unfold CallOrder.outcome at result
        split at result
        · cases result
        · assumption
      unfold plannedCalls
      rw [valid]
      exact ⟨_, CallOrder.runCalls_of_sound sound output⟩
  · rw [success] at blamed
    cases blamed

theorem exists_file_of_placeParts {summary : Summary}
    (success : (config.generateInto output formatter tree).1 = .ok summary) {resource : Resource}
    (member : resource ∈ config.table.resources) {parts : List String}
    (among : parts ∈ resource.placeParts (resource.apiGroup config.rootGroup) resource.version) :
    ∃ file ∈ config.writesInto output formatter tree,
      file.1.components = (parts.foldl HostPath.join output).components := by
  obtain ⟨later, planned⟩ := plannedCalls_of_success success
  obtain ⟨template, read⟩ := Emit.Target.exists_template
    (config.length_readingsInto output formatter tree)
  have whole : config.writesInto output formatter tree = config.plannedWrites output template := by
    refine ((writesInto_planned read).2 fun unit cause failed => ?_).2
    rw [success] at failed
    cases failed
  have kept : ∀ call ∈ config.table.groups.entries.flatMap
      (CallOrder.ownCalls config (config.target output).package), call ≠ .store := by
    rintro call member rfl
    obtain ⟨entry, inTable, own⟩ := List.mem_flatMap.mp member
    cases CallOrder.group?_of_mem_ownCalls (config.table_wellPlaced entry inTable) own
  obtain ⟨entry, inTable, version, inGroup, present, group, level⟩ := exists_bucket member
  rw [group, level] at among
  obtain ⟨call, made, listed⟩ :=
    config.exists_call_of_placeParts (config.target output).package present among
  have own : call ∈ config.table.groups.entries.flatMap
      (CallOrder.ownCalls config (config.target output).package) :=
    List.mem_flatMap.mpr ⟨entry, inTable,
      List.mem_append_left _ (List.mem_flatMap.mpr ⟨version, inGroup, made⟩)⟩
  rw [whole]
  unfold plannedWrites
  rw [planned]
  exact Emit.Target.exists_file_of_stored kept own (List.mem_map_of_mem listed)

/-- A run into a relative output that succeeds and stays inside is one of resources that lead
inward. -/
theorem inward_of_confined (relative : output.isAbsolute = false) {summary : Summary}
    (success : (config.generateInto output formatter tree).1 = .ok summary)
    (inside : ∀ file ∈ config.writesInto output formatter tree, output.Contains file.1) :
    config.Inward := by
  intro resource member parts among
  obtain ⟨file, written, same⟩ := exists_file_of_placeParts success member among
  obtain ⟨name, rest, rfl, named⟩ := resource.exists_name_of_mem_placeParts among
  exact HostPath.inward_of_contains relative named
    ((HostPath.contains_congr same).mp (inside file written))

/-- All that a run writes, and a file that the host fails it to write, lies inside its output, and
so at or below the output's location, if the resources lead inward; they do if no slash is in their
versions, kinds and names and in the labels of their groups. A run into a relative output that
succeeds stays inside only then. -/
theorem generation_confined (config : Config) (output : HostPath) :
    (config.Inward → ∀ formatter tree, ∀ file ∈ config.writesInto output formatter tree ++
        (config.failedInto? output formatter tree).toList,
      output.Contains file.1 ∧ tree.destination output <+: tree.destination file.1) ∧
    (config.Unbroken → config.Inward) ∧
    (output.isAbsolute = false → ∀ formatter tree summary,
      (config.generateInto output formatter tree).1 = .ok summary →
        (∀ file ∈ config.writesInto output formatter tree, output.Contains file.1) →
          config.Inward) := by
  refine ⟨fun inward formatter tree file written => ?_, inward_of_unbroken,
    fun relative _ _ _ => inward_of_confined relative⟩
  have inside := writesInto_confined inward file written
  exact ⟨inside, inside.destination_below tree⟩

def outwardResource : Resource where
  name := "../../../../vpc"
  shortGroup := "ec2"
  version := "v1"
  kind := "VPC"

def outward : Config where
  rootGroup := "aws.example"
  shortName := "aws"
  modulePath := "example.org/provider"
  resources := [outwardResource]

def directories : FileTree where
  workingDirectory := []
  entries := ⟨[
    (["out"], .directory), (["out", "apis"], .directory), (["out", "apis", "ec2"], .directory),
    (["out", "apis", "ec2", "v1"], .directory), (["out", "examples-generated"], .directory),
    (["out", "examples-generated", "ec2"], .directory),
    (["out", "examples-generated", "ec2", "v1"], .directory), (["out", "internal"], .directory),
    (["out", "internal", "controller"], .directory),
    (["out", "internal", "controller", "ec2"], .directory),
    (["out", "internal", "controller", "ec2", "vpc"], .directory)], by decide⟩

theorem outward_generates :
    ∃ summary, (outward.generateInto ⟨"out"⟩ unformatted directories).1 = .ok summary := by
  have succeeded : (outward.generateInto ⟨"out"⟩ unformatted directories).1.isOk = true := by
    decide +kernel
  cases result : (outward.generateInto ⟨"out"⟩ unformatted directories).1 with
  | error failure =>
    rw [result] at succeeded
    cases succeeded
  | ok summary => exact ⟨summary, rfl⟩

theorem networks_confined :
    networks.Inward ∧
    (∀ formatter tree, ∀ file ∈ networks.writesInto ⟨"/out"⟩ formatter tree ++
        (networks.failedInto? ⟨"/out"⟩ formatter tree).toList,
      (⟨"/out"⟩ : HostPath).Contains file.1 ∧
        tree.destination ⟨"/out"⟩ <+: tree.destination file.1) ∧
    ¬∀ file ∈ outward.writesInto ⟨"out"⟩ unformatted directories,
      (⟨"out"⟩ : HostPath).Contains file.1 := by
  obtain ⟨inside, inward, _⟩ := generation_confined networks ⟨"/out"⟩
  obtain ⟨_, _, only⟩ := generation_confined outward ⟨"out"⟩
  have unbroken : networks.Unbroken := by decide
  have strays : ¬outward.Inward := by decide
  obtain ⟨summary, success⟩ := outward_generates
  exact ⟨inward unbroken, inside (inward unbroken),
    fun whole => strays (only rfl unformatted directories summary success whole)⟩

/-- A valid configuration whose manifest is written beside the output. -/
theorem outward_strays :
    outward.validate = .ok () ∧
    ∃ file ∈ outward.writesInto ⟨"out"⟩ unformatted directories,
      file.1.components =
        (⟨"out/examples-generated/ec2/v1/../../../../vpc.yaml"⟩ : HostPath).components ∧
      ¬(⟨"out"⟩ : HostPath).Contains file.1 := by
  obtain ⟨summary, success⟩ := outward_generates
  have listed : outwardResource ∈ outward.table.resources := by decide
  have manifest : ["examples-generated", "ec2", "v1", "../../../../vpc.yaml"] ∈
      outwardResource.placeParts "ec2.aws.example" "v1" := by decide
  have climbs : ¬HostPath.Inward ["examples-generated", "ec2", "v1", "../../../../vpc.yaml"] := by
    decide
  obtain ⟨file, written, same⟩ := exists_file_of_placeParts success listed manifest
  refine ⟨by rfl, file, written, same.trans (by decide), fun contained => climbs ?_⟩
  exact HostPath.inward_of_contains (by decide) (by decide)
    ((HostPath.contains_congr same).mp contained)

end Config

end ProviderGen
