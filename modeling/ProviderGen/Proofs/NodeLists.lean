import ProviderGen.Emit.ApiTypes
import ProviderGen.Proofs.HubRule
import ProviderGen.Proofs.SourceText

/-!
Three readings of what a hub is, and that they agree: the versions that are recorded under node
keys, the lists of nodes that conversions are generated for, and the marker of the storage version
among the types of a resource. The lists of hubs and spokes share out the resources of a group.
-/

namespace ProviderGen

namespace ResourceTable

def ofInsertions (insertions : List (String × Resource)) : ResourceTable :=
  insertions.foldl (fun table insertion => table.insert insertion.1 insertion.2) empty

theorem ofResources_eq_ofInsertions (resources : List Resource) (rootGroup : String) :
    ofResources resources rootGroup =
      ofInsertions (resources.map fun resource => (resource.apiGroup rootGroup, resource)) := by
  unfold ofResources ofInsertions
  rw [List.foldl_map]

end ResourceTable

namespace GroupVersions

def Filed (versions : GroupVersions) : Prop :=
  ∀ entry ∈ versions.entries, ∀ named ∈ entry.2.entries,
    named.2.version = entry.1 ∧ named.2.name = named.1

theorem filed_ofInsertions (insertions : List (String × Resource)) :
    ∀ group ∈ (ResourceTable.ofInsertions insertions).groups.entries, group.2.Filed := by
  refine List.foldlRecOn insertions _ (motive := fun table : ResourceTable =>
    ∀ group ∈ table.groups.entries, group.2.Filed) nofun fun table filed insertion _ => ?_
  refine OrderedMap.forall_mem_alter ?_ filed
  refine OrderedMap.forall_mem_alter ?_ fun version member => ?_
  · refine OrderedMap.forall_mem_alter ⟨rfl, rfl⟩ fun named member => ?_
    obtain ⟨bucket, inGroup, member⟩ := OrderedMap.mem_of_mem_getD member
    obtain ⟨versions, inTable, inGroup⟩ := OrderedMap.mem_of_mem_getD inGroup
    exact filed _ inTable _ inGroup named member
  · obtain ⟨versions, inTable, member⟩ := OrderedMap.mem_of_mem_getD member
    exact filed _ inTable version member

variable {versions : GroupVersions}

namespace Filed

theorem map_name_values (filed : versions.Filed) {entry : String × Bucket}
    (inGroup : entry ∈ versions.entries) :
    entry.2.values.map Resource.name = entry.2.keys := by
  unfold OrderedMap.values OrderedMap.keys
  rw [List.map_map]
  exact List.map_congr_left fun named member => (filed entry inGroup named member).2

theorem names_ascending (filed : versions.Filed) {entry : String × Bucket}
    (inGroup : entry ∈ versions.entries) :
    (entry.2.values.map Resource.name).Pairwise (· < ·) := by
  rw [filed.map_name_values inGroup]
  exact entry.2.keys_lt

theorem version_of_mem_placed (filed : versions.Filed) {place : String × Resource}
    (member : place ∈ versions.placed) : place.2.version = place.1 := by
  obtain ⟨bucket, inGroup, present⟩ := mem_placed.mp member
  obtain ⟨named, inBucket, same⟩ := List.mem_map.mp present
  rw [← same]
  exact (filed _ inGroup named inBucket).1

theorem nodup_placed (filed : versions.Filed) : versions.placed.Nodup := by
  refine List.pairwise_flatMap.mpr ⟨fun entry inGroup => ?_, ?_⟩
  · have names := List.pairwise_map.mp (filed.names_ascending inGroup)
    refine List.pairwise_map.mpr (names.imp fun {first second} less same => ?_)
    rw [(Prod.mk.inj same).2] at less
    exact String.lt_irrefl _ less
  · refine (List.pairwise_map.mp versions.keys_distinct).imp fun {first second} apart => ?_
    intro place here later there same
    obtain ⟨_, _, rfl⟩ := List.mem_map.mp here
    obtain ⟨_, _, rfl⟩ := List.mem_map.mp there
    exact apart (Prod.mk.inj same).1

end Filed

/-! ### The lists of nodes -/

/-- The nodes of a kind, each with the version it is listed under. -/
def placedNodes (versions : GroupVersions) (kind : NodeKind) : List (String × Resource) :=
  (versions.nodes kind).flatMap fun (version, nodes) => nodes.map fun node => (version, node)

theorem mem_nodes {kind : NodeKind} {entry : String × List Resource} :
    entry ∈ versions.nodes kind ↔ ∃ bucket, (entry.1, bucket) ∈ versions.entries ∧
      bucket.values.filter (kind.covers · entry.1) = entry.2 ∧ entry.2 ≠ [] := by
  unfold nodes
  rw [List.mem_filterMap]
  constructor
  · rintro ⟨⟨version, bucket⟩, inGroup, kept⟩
    dsimp only at kept
    split at kept
    case isTrue => cases kept
    case isFalse some =>
      obtain rfl := Option.some.inj kept
      exact ⟨bucket, inGroup, rfl, fun none => some (List.isEmpty_iff.mpr none)⟩
  · rintro ⟨bucket, inGroup, nodes, some⟩
    refine ⟨(entry.1, bucket), inGroup, ?_⟩
    dsimp only
    rw [nodes, if_neg fun none => some (List.isEmpty_iff.mp none)]

theorem nodes_ascending (versions : GroupVersions) (kind : NodeKind) :
    ((versions.nodes kind).map (·.1)).Pairwise (· < ·) := by
  refine List.pairwise_map.mpr (List.pairwise_filterMap.mpr ?_)
  refine (List.pairwise_map.mp versions.keys_lt).imp fun {first second} less => ?_
  intro node here later there
  dsimp only at here there
  split at here <;> split at there <;> cases here <;> cases there
  exact less

theorem placedNodes_eq_filter (versions : GroupVersions) (kind : NodeKind) :
    versions.placedNodes kind =
      versions.placed.filter fun place => kind.covers place.2 place.1 := by
  unfold placedNodes nodes placed
  rw [List.filter_flatMap]
  induction versions.entries with
  | nil => rfl
  | cons entry rest ih =>
    rw [List.filterMap_cons, List.flatMap_cons, ← ih, List.filter_map]
    dsimp only [Function.comp_def]
    cases nodes : entry.2.values.filter (kind.covers · entry.1) with
    | nil => rfl
    | cons node later => rfl

/-- The resource is among the nodes of the kind that are listed under the version. -/
def Lists (versions : GroupVersions) (kind : NodeKind) (version : String) (resource : Resource) :
    Prop :=
  ∃ nodes, (version, nodes) ∈ versions.nodes kind ∧ resource ∈ nodes

theorem lists_iff {kind : NodeKind} {version : String} {resource : Resource} :
    versions.Lists kind version resource ↔
      (version, resource) ∈ versions.placed ∧ kind.covers resource version := by
  have flattened : (version, resource) ∈ versions.placedNodes kind ↔
      versions.Lists kind version resource := by
    simp [placedNodes, Lists]
  rw [← flattened, placedNodes_eq_filter, List.mem_filter]

theorem mem_versionsOf_iff_lists {kind : NodeKind} {key version : String} :
    version ∈ (versions.classify kind.covers).versionsOf key ↔
      ∃ node, versions.Lists kind version node ∧ node.nodeKey = key := by
  rw [mem_versionsOf_classify]
  simp only [lists_iff, mem_placed]
  constructor
  · rintro ⟨bucket, inGroup, resource, present, covered, keyed⟩
    exact ⟨resource, ⟨⟨bucket, inGroup, present⟩, covered⟩, keyed⟩
  · rintro ⟨resource, ⟨⟨bucket, inGroup, present⟩, covered⟩, keyed⟩
    exact ⟨bucket, inGroup, resource, present, covered, keyed⟩

/-- Hubs and spokes share out the resources of a group. -/
theorem placedNodes_perm (versions : GroupVersions) :
    (versions.placedNodes .hub ++ versions.placedNodes .spoke).Perm versions.placed := by
  rw [placedNodes_eq_filter, placedNodes_eq_filter]
  exact List.filter_append_perm (fun place => NodeKind.hub.covers place.2 place.1) versions.placed

end GroupVersions

/-! ### The marker of the storage version -/

namespace Emit

def storageMarker : String := "// +kubebuilder:storageversion"

def Foreign (text : String) : Prop := ∃ c ∈ text.toList, c ∉ storageMarker.toList

instance (text : String) : Decidable (Foreign text) := List.decidableBEx _ _

theorem foreign_append {first second : String} :
    Foreign (first ++ second) ↔ Foreign first ∨ Foreign second := by
  unfold Foreign
  rw [String.toList_append]
  simp only [List.mem_append, or_and_right, exists_or]

theorem Foreign.ne_marker {line : String} (foreign : Foreign line) :
    (line == storageMarker) = false := by
  rw [beq_eq_false_iff_ne]
  rintro rfl
  obtain ⟨c, present, absent⟩ := foreign
  exact absent present

/-- Among the lines of a resource's types, the marker stands once in the hub version, and in no
other. All other lines have a part of their own with a foreign character, whatever the kind is. -/
theorem filter_marker_typeLines (package version : String) (resource : Resource) :
    (typeLines package version resource).filter (· == storageMarker) =
      if resource.hubVersion = version then [storageMarker] else [] := by
  unfold typeLines fileStart
  simp +decide only [List.filter_append, List.filter_cons, List.filter_nil, List.append_nil,
    List.nil_append, Foreign.ne_marker, foreign_append, or_true, true_or, if_false]
  split <;> rfl

theorem unbroken_typeLines {package version : String} {resource : Resource}
    (plainPackage : '\n' ∉ package.toList) (plainKind : '\n' ∉ resource.kind.toList) :
    ∀ line ∈ typeLines package version resource, '\n' ∉ line.toList := by
  unfold typeLines fileStart
  simp only [List.forall_mem_append, List.forall_mem_cons, not_mem_append, plainPackage, plainKind,
    not_false_eq_true, and_true]
  simp [generatedHeader]

theorem marker_mem_split_iff {version : String} {resource : Resource}
    (plain : '\n' ∉ resource.kind.toList) :
    let lines := typeLines (packageName version) version resource
    storageMarker ∈ Text.split '\n' (sourceText lines) ↔ storageMarker ∈ lines := by
  intro lines
  have package : '\n' ∉ (packageName version).toList :=
    (isPlain_packageName version).not_mem (by decide)
  rw [split_sourceText (unbroken_typeLines package plain), List.mem_append]
  exact or_iff_left (by decide)

theorem marker_mem_typeLines_iff {package version : String} {resource : Resource} :
    storageMarker ∈ typeLines package version resource ↔ resource.hubVersion = version := by
  have once := filter_marker_typeLines package version resource
  have kept : storageMarker ∈ typeLines package version resource ↔
      storageMarker ∈ (typeLines package version resource).filter (· == storageMarker) := by
    simp
  rw [kept, once]
  split
  case isTrue hub => exact iff_of_true (List.mem_singleton_self _) hub
  case isFalse other => exact iff_of_false List.not_mem_nil other

end Emit

namespace GroupVersions

/-- In every group of a table, the lists of hubs and spokes hold each resource once, under its own
version, with versions and names ascending and no version without nodes. A version is recorded as a
hub or as a spoke under a node key exactly if a resource with that key is listed there, and the
types of a resource get the marker of the storage version exactly if it is listed as a hub. -/
theorem hub_readings_agree {insertions : List (String × Resource)} {group : String}
    {versions : GroupVersions}
    (found : (ResourceTable.ofInsertions insertions).group? group = some versions) :
    ((versions.placedNodes .hub ++ versions.placedNodes .spoke).Perm versions.placed ∧
      versions.placed.Nodup ∧ ∀ place ∈ versions.placed, place.2.version = place.1) ∧
    (∀ kind, ((versions.nodes kind).map (·.1)).Pairwise (· < ·) ∧
      ∀ entry ∈ versions.nodes kind,
        entry.2 ≠ [] ∧ (entry.2.map Resource.name).Pairwise (· < ·)) ∧
    (∀ kind key version,
      version ∈ ((GroupConversions.ofVersions group versions).ofKind kind).versionsOf key ↔
        ∃ node, versions.Lists kind version node ∧ node.nodeKey = key) ∧
    ∀ version resource, (version, resource) ∈ versions.placed →
      let lines := Emit.typeLines (Emit.packageName version) version resource
      (Emit.storageMarker ∈ lines ↔ versions.Lists .hub version resource) ∧
      ('\n' ∉ resource.kind.toList →
        (Emit.storageMarker ∈ Text.split '\n' (Emit.sourceText lines) ↔
          versions.Lists .hub version resource)) := by
  have filed : versions.Filed :=
    filed_ofInsertions insertions _ (OrderedMap.find?_eq_some_iff.mp found)
  refine ⟨⟨placedNodes_perm versions, filed.nodup_placed, fun _ => filed.version_of_mem_placed⟩,
    fun kind => ⟨nodes_ascending versions kind, ?names⟩, ?recorded, ?marked⟩
  case names =>
    intro entry member
    obtain ⟨bucket, inGroup, nodes, some⟩ := mem_nodes.mp member
    have ascending := filed.names_ascending inGroup
    rw [← nodes]
    exact ⟨nodes ▸ some, ascending.sublist (List.filter_sublist.map _)⟩
  case recorded =>
    intro kind key version
    rw [GroupConversions.ofKind_ofVersions]
    exact mem_versionsOf_iff_lists
  case marked =>
    intro version resource stands lines
    have hub : Emit.storageMarker ∈ lines ↔ versions.Lists .hub version resource := by
      rw [Emit.marker_mem_typeLines_iff, lists_iff, and_iff_right stands]
      exact beq_iff_eq.symm
    exact ⟨hub, fun plain => (Emit.marker_mem_split_iff plain).trans hub⟩

theorem converted_readings_agree : ∃ versions,
    (ResourceTable.ofResources converted "aws.example").group? "ec2.aws.example" = some versions ∧
    versions.placed.map (·.1) = ["v1", "v2"] ∧
    (versions.placedNodes .hub ++ versions.placedNodes .spoke).Perm versions.placed ∧
    (∀ key version,
      version ∈ (GroupConversions.ofVersions "ec2.aws.example" versions).hubs.versionsOf key ↔
        ∃ node, versions.Lists .hub version node ∧ node.nodeKey = key) ∧
    ∀ version resource, (version, resource) ∈ versions.placed →
      (Emit.storageMarker ∈ Emit.typeLines (Emit.packageName version) version resource ↔
        versions.Lists .hub version resource) := by
  have found : (ResourceTable.ofResources converted "aws.example").group? "ec2.aws.example" =
      some _ := rfl
  have agree := hub_readings_agree
    (ResourceTable.ofResources_eq_ofInsertions converted "aws.example" ▸ found)
  exact ⟨_, found, by decide, agree.1.1, agree.2.2.1 .hub,
    fun version resource stands => (agree.2.2.2 version resource stands).1⟩

end GroupVersions

end ProviderGen
