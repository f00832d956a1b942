import ProviderGen.OrderedMap.Lemmas
import ProviderGen.ResourceTable

/-!
Where the resources of a configuration stand in its table. Every resource lies under its own
group, version and name, so walking a bucket meets its resources in ascending order of names.
-/

namespace ProviderGen

namespace ResourceTable

/-- A resource that lies under its own group, version and name. -/
structure Placed (rootGroup group version : String) (entry : String × Resource) : Prop where
  name : entry.2.name = entry.1
  version : entry.2.version = version
  group : entry.2.apiGroup rootGroup = group

def BucketPlaced (rootGroup group : String) (entry : String × Bucket) : Prop :=
  ∀ resource ∈ entry.2.entries, Placed rootGroup group entry.1 resource

def GroupPlaced (rootGroup : String) (entry : String × GroupVersions) : Prop :=
  ∀ bucket ∈ entry.2.entries, BucketPlaced rootGroup entry.1 bucket

def WellPlaced (rootGroup : String) (table : ResourceTable) : Prop :=
  ∀ group ∈ table.groups.entries, GroupPlaced rootGroup group

variable {rootGroup : String}

theorem wellPlaced_empty : WellPlaced rootGroup empty := by
  intro group member
  cases member

theorem wellPlaced_insert {table : ResourceTable} (placed : WellPlaced rootGroup table)
    (resource : Resource) :
    WellPlaced rootGroup (table.insert (resource.apiGroup rootGroup) resource) := by
  refine OrderedMap.forall_mem_alter ?_ placed
  -- only the entries on the way down to the new resource change
  refine OrderedMap.forall_mem_alter ?_ fun bucket member => ?_
  · refine OrderedMap.forall_mem_alter ⟨rfl, rfl, rfl⟩ fun named member => ?_
    obtain ⟨bucket, inGroup, member⟩ := OrderedMap.mem_of_mem_getD member
    obtain ⟨versions, inTable, inGroup⟩ := OrderedMap.mem_of_mem_getD inGroup
    exact placed _ inTable _ inGroup named member
  · obtain ⟨versions, inTable, member⟩ := OrderedMap.mem_of_mem_getD member
    exact placed _ inTable bucket member

theorem wellPlaced_ofResources (resources : List Resource) :
    WellPlaced rootGroup (ofResources resources rootGroup) :=
  List.foldlRecOn resources _ wellPlaced_empty fun _ placed resource _ =>
    wellPlaced_insert placed resource

/-- Every version of a group in a table is the version of a resource that belongs to the group. -/
theorem exists_resource_of_version (resources : List Resource) :
    ∀ group ∈ (ofResources resources rootGroup).groups.entries, ∀ version ∈ group.2.entries,
      ∃ resource ∈ resources,
        resource.apiGroup rootGroup = group.1 ∧ resource.version = version.1 := by
  unfold ofResources
  refine List.foldlRecOn resources _ (motive := fun table : ResourceTable =>
    ∀ group ∈ table.groups.entries, ∀ version ∈ group.2.entries, ∃ resource ∈ resources,
      resource.apiGroup rootGroup = group.1 ∧ resource.version = version.1) nofun ?_
  intro table sourced resource member
  refine OrderedMap.forall_mem_alter ?_ sourced
  refine OrderedMap.forall_mem_alter ⟨resource, member, rfl, rfl⟩ fun version inGroup => ?_
  obtain ⟨versions, inTable, inGroup⟩ := OrderedMap.mem_of_mem_getD inGroup
  exact sourced _ inTable version inGroup

theorem map_name_values {group : String} {entry : String × Bucket}
    (placed : BucketPlaced rootGroup group entry) :
    entry.2.values.map Resource.name = entry.2.keys := by
  unfold OrderedMap.values OrderedMap.keys
  rw [List.map_map]
  exact List.map_congr_left fun resource member => (placed resource member).name

theorem version_of_mem_values {group : String} {entry : String × Bucket} {resource : Resource}
    (placed : BucketPlaced rootGroup group entry) (member : resource ∈ entry.2.values) :
    resource.version = entry.1 := by
  obtain ⟨named, present, rfl⟩ := List.mem_map.mp member
  exact (placed named present).version

theorem apiGroup_of_mem_resources {entry : String × GroupVersions} {resource : Resource}
    (placed : GroupPlaced rootGroup entry) (member : resource ∈ entry.2.resources) :
    resource.apiGroup rootGroup = entry.1 := by
  obtain ⟨bucket, listed, present⟩ := List.mem_flatMap.mp member
  obtain ⟨version, inGroup, rfl⟩ := List.mem_map.mp listed
  obtain ⟨named, inBucket, rfl⟩ := List.mem_map.mp present
  exact (placed version inGroup named inBucket).group

theorem apiGroup_of_group? {resources : List Resource} {group : String} {versions : GroupVersions}
    (found : (ofResources resources rootGroup).group? group = some versions) {resource : Resource}
    (member : resource ∈ versions.resources) : resource.apiGroup rootGroup = group :=
  apiGroup_of_mem_resources
    (wellPlaced_ofResources resources _ (OrderedMap.find?_eq_some_iff.mp found)) member

structure Ascending (table : ResourceTable) : Prop where
  groups : table.groups.keys.Pairwise (· < ·)
  versions : ∀ group ∈ table.groups.entries, group.2.keys.Pairwise (· < ·)
  resources : ∀ group ∈ table.groups.entries, ∀ version ∈ group.2.entries,
    (version.2.values.map Resource.name).Pairwise (· < ·)

theorem WellPlaced.ascending {table : ResourceTable} (placed : WellPlaced rootGroup table) :
    table.Ascending where
  groups := OrderedMap.keys_lt _
  versions := fun group _ => OrderedMap.keys_lt group.2
  resources := fun group inTable version inGroup => by
    rw [map_name_values (placed group inTable version inGroup)]
    exact OrderedMap.keys_lt version.2

end ResourceTable

theorem Config.table_wellPlaced (config : Config) : config.table.WellPlaced config.rootGroup :=
  ResourceTable.wellPlaced_ofResources config.resources

end ProviderGen
