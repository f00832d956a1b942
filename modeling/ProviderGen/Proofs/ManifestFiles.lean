import ProviderGen.Proofs.Confinement
import ProviderGen.Proofs.PendingManifests
import ProviderGen.Proofs.RunTrace

/-!
What becomes of the manifests of a configuration. Where several lead to one place, one of them
stands there and the others are lost, so each resource has a manifest of its own exactly if no two
of them lead to one place. In plain names dashes and underscores lead to one place, and so do groups
with one label.
-/

namespace ProviderGen

namespace PendingManifests

/-- Of the manifests that lead to a place, the one that stands there when all are stored: no other
has later components, and none with its components was put aside later. -/
structure Prevails (tree : FileTree) (items : List (HostPath × Manifest)) (place : Location)
    (item : HostPath × Manifest) : Prop where
  leads : tree.destination item.1 = place
  latest : ∀ other ∈ items, tree.destination other.1 = place →
    compare other.1.components item.1.components ≠ .gt
  last : LastWith key items item.1.components item

theorem Chosen.exists_prevails {items : List (HostPath × Manifest)}
    {files : List (HostPath × String)} (chosen : Chosen items files) {tree after : FileTree}
    (updated : tree.Updated files after) {item : HostPath × Manifest} (member : item ∈ items) :
    ∃ winner ∈ items, Prevails after items (after.destination item.1) winner ∧
      after.entryAt (after.destination item.1) = some (.file winner.2.text.toUTF8) := by
  have together (path : HostPath) : tree.destination path = after.destination path :=
    (FileTree.destination_congr updated.together path).symm
  obtain ⟨file, listed, same⟩ := chosen.covered item member
  obtain ⟨last, lastWith⟩ := LastWith.exists_of_mem
    (f := fun other : HostPath × String => tree.destination other.1) listed
  rw [tree.destination_eq_of_components same] at lastWith
  obtain ⟨_, winner, _, winnerWith, written, _⟩ := chosen.chosen last lastWith.mem
  have own : winner.1.components = last.1.components := winnerWith.value_eq
  refine ⟨winner, winnerWith.mem, ⟨?leads, ?latest, ?last⟩, ?stands⟩
  case leads =>
    rw [← together, ← together, tree.destination_eq_of_components own]
    exact lastWith.value_eq
  case latest =>
    intro other present there
    obtain ⟨rival, rivalListed, rivalSame⟩ := chosen.covered other present
    obtain ⟨before, later, cut, _, others⟩ := lastWith
    have ascending := chosen.ascending
    rw [cut] at rivalListed ascending
    rw [own, ← rivalSame]
    rcases List.mem_append.mp rivalListed with earlier | onwards
    · have less := (List.pairwise_append.mp ascending).2.2 rival earlier last List.mem_cons_self
      rw [less]
      nofun
    rcases List.mem_cons.mp onwards with rfl | behind
    · rw [Std.compare_self]
      nofun
    · rw [← together, ← together, ← tree.destination_eq_of_components rivalSame] at there
      exact absurd there (others rival behind)
  case last => rwa [own]
  case stands =>
    rw [← together]
    apply updated.written
    unfold FileTree.lastWritten?
    rw [LastWith.find?_reverse_eq_some_iff.mpr lastWith, written]
    rfl

end PendingManifests

/-! ### Places of manifests -/

theorem Manifest.destination_path (tree : FileTree) (root : HostPath) {group version name : String}
    (plain : PlainPlace group version) (unbroken : '/' ∉ name.toList) :
    tree.destination (Manifest.path root group version name) =
      tree.destination (root.join "examples-generated") ++
        (placeSegments group version).map .ofText ++
          [EntryName.ofText (Manifest.fileName name)] :=
  destination_bucket_join tree _ plain.relative plain.level (Manifest.isName_fileName unbroken)

theorem Manifest.destination_path_eq_iff {tree : FileTree} {root : HostPath}
    {group version name other otherVersion otherName : String} (plain : PlainPlace group version)
    (unbroken : '/' ∉ name.toList) (some : version ≠ "")
    (plainOther : PlainPlace other otherVersion) (unbrokenOther : '/' ∉ otherName.toList)
    (someOther : otherVersion ≠ "") :
    tree.destination (Manifest.path root group version name) =
        tree.destination (Manifest.path root other otherVersion otherName) ↔
      (placeLabel group, version, Manifest.fileName name) =
        (placeLabel other, otherVersion, Manifest.fileName otherName) := by
  rw [destination_path tree root plain unbroken,
    destination_path tree root plainOther unbrokenOther, Prod.mk.injEq, Prod.mk.injEq,
    ← and_assoc, ← plain.placeSegments_eq_iff some plainOther someOther]
  constructor
  · intro same
    obtain ⟨directories, names⟩ := List.append_inj' same rfl
    exact ⟨List.map_injective_iff.mpr EntryName.ofText_injective
      (List.append_cancel_left directories),
        EntryName.ofText_injective (List.singleton_inj.mp names)⟩
  · rintro ⟨directories, names⟩
    rw [directories, names]

namespace Config

open Emit (Target)
open Emit.Target (Formatter Workspace unformatted)

variable (config : Config) (root : HostPath)

def manifestItem (resource : Resource) : HostPath × Manifest :=
  let group := resource.apiGroup config.rootGroup
  (Manifest.path root group resource.version resource.name,
    .ofResource group resource.version resource)

def manifestPlace (tree : FileTree) (resource : Resource) : Location :=
  tree.destination (config.manifestItem root resource).1

def ManifestAt (tree : FileTree) (place : Location) (resource : Resource) : Prop :=
  tree.entryAt place = some (.file (config.manifestItem root resource).2.text.toUTF8)

/-- Every resource of the table has a file of its own, which holds its manifest. -/
structure ManifestsKept (tree : FileTree) : Prop where
  holds : ∀ resource ∈ config.table.resources,
    config.ManifestAt root tree (config.manifestPlace root tree resource) resource
  own : (config.table.resources.map (config.manifestPlace root tree)).Nodup

/-- Since the last store the manifests of all resources of the table were put aside, and no
others. -/
def ManifestsAside (target : Target) (calls : List Call) : Prop :=
  ∀ item, item ∈ target.sinceStore calls ↔
    ∃ resource ∈ config.table.resources, item = config.manifestItem target.root resource

def PlainNames : Prop :=
  ∀ resource ∈ config.table.resources,
    PlainPlace (resource.apiGroup config.rootGroup) resource.version ∧ '/' ∉ resource.name.toList

instance : Decidable config.PlainNames := inferInstanceAs (Decidable (∀ _ ∈ _, _))

variable {config root}

theorem mem_resources_of_table {resource : Resource}
    (member : resource ∈ config.table.resources) : resource ∈ config.resources :=
  List.mem_reverse.mp
    (List.mem_of_find?_eq_some (ResourceTable.mem_resources_ofResources_iff.mp member))

theorem nodup_manifestPlaces_iff (valid : config.validate = .ok ()) (plain : config.PlainNames)
    (tree : FileTree) :
    (config.table.resources.map (config.manifestPlace root tree)).Nodup ↔
      (config.table.resources.map fun resource =>
        (placeLabel (resource.apiGroup config.rootGroup), resource.version,
          Manifest.fileName resource.name)).Nodup := by
  have some {resource : Resource} (member : resource ∈ config.table.resources) :
      resource.version ≠ "" :=
    resource.version_ne_empty (fault?_eq_none_of_mem valid (mem_resources_of_table member))
  unfold List.Nodup
  rw [List.pairwise_map, List.pairwise_map]
  apply List.Pairwise.iff_of_mem
  intro resource other member otherMember
  obtain ⟨place, unbroken⟩ := plain resource member
  obtain ⟨otherPlace, otherUnbroken⟩ := plain other otherMember
  apply not_congr
  dsimp only [manifestPlace, manifestItem]
  exact Manifest.destination_path_eq_iff place unbroken (some member) otherPlace otherUnbroken
    (some otherMember)

/-! ### Calls before the store -/

theorem manifestsAside_of_calls {target : Target} {calls : List Call} (kept : .store ∉ calls)
    (made : ∀ {group version resource}, .manifest group version resource ∈ calls ↔
      resource ∈ config.table.resources ∧ group = resource.apiGroup config.rootGroup ∧
        version = resource.version) : config.ManifestsAside target calls := by
  intro item
  have whole : ∀ call ∈ calls, decide (call ≠ .store) = true := by
    intro call member
    apply decide_eq_true
    rintro rfl
    exact kept member
  unfold Target.sinceStore
  rw [List.rtakeWhile_eq_self_iff.mpr whole, List.mem_filterMap]
  constructor
  · rintro ⟨call, member, put⟩
    cases call with
    | manifest group version resource =>
      obtain ⟨listed, rfl, rfl⟩ := made.mp member
      exact ⟨resource, listed, (Option.some.inj put).symm⟩
    | _ => cases put
  · rintro ⟨resource, listed, rfl⟩
    exact ⟨_, made.mpr ⟨listed, rfl, rfl⟩, rfl⟩

def groupedCalls (config : Config) (returned : Call → String) : List Call :=
  config.table.groups.entries.flatMap (CallOrder.ownCalls config returned)

variable {returned : Call → String}

theorem store_not_mem_groupedCalls : Call.store ∉ config.groupedCalls returned := by
  intro member
  obtain ⟨entry, inTable, own⟩ := List.mem_flatMap.mp member
  have label := CallOrder.group?_of_mem_ownCalls (config.table_wellPlaced entry inTable) own
  cases label

theorem manifest_mem_groupedCalls {group version : String} {resource : Resource} :
    .manifest group version resource ∈ config.groupedCalls returned ↔
      resource ∈ config.table.resources ∧ group = resource.apiGroup config.rootGroup ∧
        version = resource.version := by
  constructor
  · intro member
    obtain ⟨entry, inTable, own⟩ := List.mem_flatMap.mp member
    rcases List.mem_append.mp own with versions | nodes
    · obtain ⟨bucket, inGroup, made⟩ := List.mem_flatMap.mp versions
      rcases CallOrder.mem_versionCalls.mp made with types | ⟨named, listed, watch | same⟩
      · cases types
      · cases watch
      · cases same
        obtain ⟨ofTable, group, version⟩ := placed_of_mem_values inTable inGroup listed
        exact ⟨ofTable, group.symm, version.symm⟩
    · rcases List.mem_append.mp nodes with node | node
      · cases (CallOrder.labels_of_mem_conversionCalls node).2
      · cases (CallOrder.labels_of_mem_conversionCalls node).2
  · rintro ⟨listed, rfl, rfl⟩
    obtain ⟨entry, inTable, bucket, inGroup, member, group, version⟩ := exists_bucket listed
    rw [group, version]
    exact List.mem_flatMap.mpr ⟨entry, inTable, List.mem_append_left _ (List.mem_flatMap.mpr
      ⟨bucket, inGroup, CallOrder.mem_versionCalls.mpr (.inr ⟨resource, member, .inr rfl⟩)⟩)⟩

theorem manifestsAside_of_run (sound : CallOrder.firstFault? config = none)
    (returned : Call → String) (output : HostPath) (target : Target) :
    (∃ later, CallOrder.runCalls config returned output =
      config.groupedCalls returned ++ Call.store :: later) ∧
    config.ManifestsAside target (config.groupedCalls returned) :=
  ⟨⟨_, CallOrder.runCalls_of_sound sound output⟩,
    manifestsAside_of_calls store_not_mem_groupedCalls manifest_mem_groupedCalls⟩

/-! ### Histories that end in a store -/

theorem updated_of_store {target : Target} {formatter : Formatter} {calls : List Call}
    {tree : FileTree} {stored : Workspace} {answer : String}
    (success : target.answer formatter .store (target.reached formatter calls ⟨tree, .empty⟩) =
      (.ok answer, stored)) :
    ∃ files, PendingManifests.Chosen (target.sinceStore calls) files ∧
      (target.reached formatter calls ⟨tree, .empty⟩).tree.Updated files stored.tree := by
  have waiting := target.pending_reached formatter calls tree
  rcases target.answer_store formatter (target.reached formatter calls ⟨tree, .empty⟩) with
    ⟨after, answered, written⟩ | ⟨_, _, _, _, answered, _⟩
  · rw [success] at answered
    cases answered
    exact ⟨_, PendingManifests.chosen_files _, waiting ▸ written.updated⟩
  · rw [success] at answered
    cases answered

/-- When the manifests of a valid configuration are stored, the one that prevails at a place stands
there, so each resource has a file of its own with its manifest exactly if no two manifests lead to
one place. Under plain names that is so exactly if the label of the group, the version, and the name
with its underscores as dashes tell the resources apart. A run whose groups have no fault puts these
manifests aside and then stores them. -/
theorem manifests_kept_iff (valid : config.validate = .ok ()) {target : Target}
    {formatter : Formatter} {calls : List Call} {tree : FileTree} {stored : Workspace}
    {answer : String} (aside : config.ManifestsAside target calls)
    (success : target.answer formatter .store (target.reached formatter calls ⟨tree, .empty⟩) =
      (.ok answer, stored)) :
    let place := config.manifestPlace target.root stored.tree
    (∀ resource ∈ config.table.resources, ∃ winner ∈ config.table.resources,
      PendingManifests.Prevails stored.tree (target.sinceStore calls) (place resource)
        (config.manifestItem target.root winner) ∧
      config.ManifestAt target.root stored.tree (place resource) winner) ∧
    (config.ManifestsKept target.root stored.tree ↔ (config.table.resources.map place).Nodup) ∧
    (config.PlainNames →
      ((config.table.resources.map place).Nodup ↔
        (config.table.resources.map fun resource =>
          (placeLabel (resource.apiGroup config.rootGroup), resource.version,
            Manifest.fileName resource.name)).Nodup)) ∧
    (CallOrder.firstFault? config = none → ∀ returned output,
      (∃ later, CallOrder.runCalls config returned output =
        config.groupedCalls returned ++ Call.store :: later) ∧
      config.ManifestsAside target (config.groupedCalls returned)) := by
  intro place
  obtain ⟨files, chosen, updated⟩ := updated_of_store success
  have stands : ∀ resource ∈ config.table.resources, ∃ winner ∈ config.table.resources,
      PendingManifests.Prevails stored.tree (target.sinceStore calls) (place resource)
        (config.manifestItem target.root winner) ∧
      config.ManifestAt target.root stored.tree (place resource) winner := by
    intro resource member
    obtain ⟨item, waited, prevails, read⟩ :=
      chosen.exists_prevails updated ((aside _).mpr ⟨resource, member, rfl⟩)
    obtain ⟨winner, listed, rfl⟩ := (aside item).mp waited
    exact ⟨winner, listed, prevails, read⟩
  refine ⟨stands, ⟨fun kept => kept.own, fun distinct => ⟨?holds, distinct⟩⟩,
    fun plain => nodup_manifestPlaces_iff valid plain stored.tree,
    fun sound returned output => manifestsAside_of_run sound returned output target⟩
  case holds =>
    intro resource member
    obtain ⟨winner, listed, prevails, read⟩ := stands resource member
    have own : winner = resource := List.inj_on_of_nodup_map distinct listed member prevails.leads
    subst own
    exact read

def networkRule (name : String) : Resource where
  name := name
  shortGroup := "ec2"
  version := "v1"
  kind := "NetworkRule"

def networkRules (name : String) : Config where
  rootGroup := "aws.example"
  shortName := "aws"
  modulePath := "example.org/provider"
  resources := [
    { name := "network_acl", shortGroup := "ec2", version := "v1", kind := "NetworkACL" },
    networkRule name]

def manifestDirectory : FileTree where
  workingDirectory := []
  entries := ⟨[
    (["out"], .directory), (["out", "examples-generated"], .directory),
    (["out", "examples-generated", "ec2"], .directory),
    (["out", "examples-generated", "ec2", "v1"], .directory)], by decide⟩

def manifestCalls (config : Config) : List Call :=
  config.table.resources.map fun resource =>
    .manifest (resource.apiGroup config.rootGroup) resource.version resource

theorem manifestsAside_of_manifestCalls {target : Target} :
    config.ManifestsAside target config.manifestCalls := by
  unfold manifestCalls
  apply manifestsAside_of_calls
  · simp
  · intro group version resource
    simp only [List.mem_map, Call.manifest.injEq]
    constructor
    · rintro ⟨other, listed, rfl, rfl, rfl⟩
      exact ⟨listed, rfl, rfl⟩
    · rintro ⟨listed, rfl, rfl⟩
      exact ⟨resource, listed, rfl, rfl, rfl⟩

def rulesTarget (name : String) : Target := (networkRules name).target ⟨"out"⟩

def storeRules (name : String) : Answer × Workspace :=
  (rulesTarget name).answer unformatted .store
    ((rulesTarget name).reached unformatted (networkRules name).manifestCalls
      ⟨manifestDirectory, .empty⟩)

theorem storeRules_success (name : String) (succeeded : (storeRules name).1.isOk = true) :
    ∃ answer stored, storeRules name = (.ok answer, stored) := by
  rcases stored : storeRules name with ⟨failure | answer, workspace⟩
  · rw [stored] at succeeded
    cases succeeded
  · exact ⟨answer, workspace, rfl⟩

theorem storeRules_underscore :
    ∃ answer stored, storeRules "network_rule" = (.ok answer, stored) :=
  storeRules_success _ (by decide +kernel)

theorem storeRules_dash : ∃ answer stored, storeRules "network-acl" = (.ok answer, stored) :=
  storeRules_success _ (by decide +kernel)

theorem networkRules_kept :
    (∃ answer stored, storeRules "network_rule" = (.ok answer, stored) ∧
      (networkRules "network_rule").ManifestsKept ⟨"out"⟩ stored.tree) ∧
    ∃ answer stored, storeRules "network-acl" = (.ok answer, stored) ∧
      ¬(networkRules "network-acl").ManifestsKept ⟨"out"⟩ stored.tree := by
  obtain ⟨answer, stored, success⟩ := storeRules_underscore
  obtain ⟨lossyAnswer, lossyStored, lossySuccess⟩ := storeRules_dash
  have aside (name : String) : (networkRules name).ManifestsAside (rulesTarget name)
      (networkRules name).manifestCalls := manifestsAside_of_manifestCalls
  obtain ⟨_, kept, names, _⟩ := manifests_kept_iff rfl (aside "network_rule") success
  obtain ⟨_, lossyKept, lossyNames, _⟩ := manifests_kept_iff rfl (aside "network-acl") lossySuccess
  have plain : (networkRules "network_rule").PlainNames := by decide
  have lossyPlain : (networkRules "network-acl").PlainNames := by decide
  refine ⟨⟨answer, stored, success, kept.mpr ((names plain).mpr (by decide))⟩,
    lossyAnswer, lossyStored, lossySuccess, fun whole => ?_⟩
  exact absurd ((lossyNames lossyPlain).mp (lossyKept.mp whole)) (by decide)

/-- A name with an underscore takes the place of one with a dash: the manifest of the rule is at no
place of the tree. -/
theorem networkRules_lost :
    (networkRules "network-acl").validate = .ok () ∧
    networkRule "network-acl" ∈ (networkRules "network-acl").table.resources ∧
    ∃ answer stored, storeRules "network-acl" = (.ok answer, stored) ∧ ∀ place,
      ¬(networkRules "network-acl").ManifestAt ⟨"out"⟩ stored.tree place
        (networkRule "network-acl") := by
  have absent : ∀ entry ∈ (storeRules "network-acl").2.tree.entries.entries, entry.2 ≠ .file
      ((networkRules "network-acl").manifestItem ⟨"out"⟩
        (networkRule "network-acl")).2.text.toUTF8 := by
    decide +kernel
  obtain ⟨answer, stored, success⟩ := storeRules_dash
  refine ⟨rfl, by decide, answer, stored, success, fun place found => ?_⟩
  rw [success] at absent
  unfold ManifestAt FileTree.entryAt at found
  split at found
  · cases found
  · have present := OrderedMap.find?_eq_some_iff.mp found
    exact absent _ present rfl

end Config

end ProviderGen
