import Mathlib.Data.Finset.Card
import ProviderGen.Proofs.ByteOrder
import ProviderGen.Proofs.ResourceTable

/-!
What the table of a list of resources holds: under every group, version and name the last resource
of the list that belongs there, and nothing else. Its walk and its counts follow from this, and so
does that tables depend on the last definitions only.
-/

namespace ProviderGen

structure ResourceKey where
  group : String
  version : String
  name : String
deriving DecidableEq, Repr

namespace ResourceKey

def bytes (key : ResourceKey) : List (List UInt8) :=
  [Text.bytes key.group, Text.bytes key.version, Text.bytes key.name]

theorem bytes_lt_of_group {first second : ResourceKey} (less : first.group < second.group) :
    first.bytes < second.bytes :=
  List.cons_lt_cons_iff.mpr (.inl (Text.bytes_lt_iff.mpr less))

theorem bytes_lt_of_version {first second : ResourceKey} (group : first.group = second.group)
    (less : first.version < second.version) : first.bytes < second.bytes := by
  unfold bytes
  rw [group]
  exact List.cons_lt_cons_iff.mpr
    (.inr ⟨rfl, List.cons_lt_cons_iff.mpr (.inl (Text.bytes_lt_iff.mpr less))⟩)

theorem bytes_lt_of_name {first second : ResourceKey} (group : first.group = second.group)
    (version : first.version = second.version) (less : first.name < second.name) :
    first.bytes < second.bytes := by
  unfold bytes
  rw [group, version]
  exact List.cons_lt_cons_iff.mpr (.inr ⟨rfl, List.cons_lt_cons_iff.mpr
    (.inr ⟨rfl, List.cons_lt_cons_iff.mpr (.inl (Text.bytes_lt_iff.mpr less))⟩)⟩)

end ResourceKey

def Resource.key (rootGroup : String) (resource : Resource) : ResourceKey :=
  ⟨resource.apiGroup rootGroup, resource.version, resource.name⟩

namespace ResourceTable

/-- The last of the resources that belong under a key. -/
def lastWithKey? (rootGroup : String) (resources : List Resource) (key : ResourceKey) :
    Option Resource :=
  resources.reverse.find? fun resource => resource.key rootGroup = key

/-- No group without versions and no version without resources. -/
structure Filled (table : ResourceTable) : Prop where
  groups : ∀ group ∈ table.groups.entries, group.2.entries ≠ []
  versions : ∀ group ∈ table.groups.entries, ∀ version ∈ group.2.entries, version.2.entries ≠ []

variable {rootGroup : String} {resources : List Resource} {key : ResourceKey}

section LastWithKey

theorem lastWithKey?_concat (resource : Resource) :
    lastWithKey? rootGroup (resources ++ [resource]) key =
      if key = resource.key rootGroup then some resource
      else lastWithKey? rootGroup resources key := by
  unfold lastWithKey?
  rw [List.reverse_append, List.reverse_singleton, List.singleton_append, List.find?_cons]
  by_cases same : key = resource.key rootGroup
  · rw [if_pos same, decide_eq_true same.symm]
  · rw [if_neg same, decide_eq_false fun equal => same equal.symm]

theorem key_of_lastWithKey? {resource : Resource}
    (last : lastWithKey? rootGroup resources key = some resource) :
    resource.key rootGroup = key := by
  have found := List.find?_some last
  exact of_decide_eq_true found

theorem exists_lastWithKey?_iff :
    (∃ resource, lastWithKey? rootGroup resources key = some resource) ↔
      key ∈ resources.map (·.key rootGroup) := by
  constructor
  · rintro ⟨resource, last⟩
    have member := List.mem_reverse.mp (List.mem_of_find?_eq_some last)
    exact List.mem_map.mpr ⟨resource, member, key_of_lastWithKey? last⟩
  · intro member
    obtain ⟨resource, member, same⟩ := List.mem_map.mp member
    exact Option.isSome_iff_exists.mp
      (List.find?_isSome.mpr ⟨resource, List.mem_reverse.mpr member, decide_eq_true same⟩)

theorem lastWithKey?_cons_of_mem {resource : Resource}
    (replaced : resource.key rootGroup ∈ resources.map (·.key rootGroup)) (key : ResourceKey) :
    lastWithKey? rootGroup (resource :: resources) key =
      lastWithKey? rootGroup resources key := by
  unfold lastWithKey?
  rw [List.reverse_cons, List.find?_append]
  cases last : resources.reverse.find? fun resource => resource.key rootGroup = key with
  | some later => rw [Option.some_or]
  | none =>
    rw [Option.none_or, List.find?_singleton, if_neg]
    intro same
    rw [of_decide_eq_true same] at replaced
    obtain ⟨later, found⟩ := exists_lastWithKey?_iff.mpr replaced
    unfold lastWithKey? at found
    rw [last] at found
    cases found

theorem lastWithKey?_of_mem (distinct : (resources.map (·.key rootGroup)).Nodup)
    {resource : Resource} (member : resource ∈ resources) :
    lastWithKey? rootGroup resources (resource.key rootGroup) = some resource := by
  obtain ⟨other, last⟩ := exists_lastWithKey?_iff.mpr (List.mem_map_of_mem member)
  have present := List.mem_reverse.mp (List.mem_of_find?_eq_some last)
  have same := List.inj_on_of_nodup_map distinct present member (key_of_lastWithKey? last)
  rw [last, same]

end LastWithKey

/-! ### Building a table -/

theorem find?_insert (table : ResourceTable) (group : String) (resource : Resource)
    (key : ResourceKey) :
    (table.insert group resource).find? key.group key.version key.name =
      if key = ⟨group, resource.version, resource.name⟩ then some resource
      else table.find? key.group key.version key.name := by
  obtain ⟨g, v, n⟩ := key
  unfold find? bucket? group? insert
  dsimp only
  rw [OrderedMap.find?_alter]
  by_cases sameGroup : g = group
  case neg => rw [if_neg sameGroup, if_neg fun same => sameGroup (congrArg ResourceKey.group same)]
  subst sameGroup
  rw [if_pos rfl, Option.bind_some, OrderedMap.find?_alter, OrderedMap.find?_getD]
  by_cases sameVersion : v = resource.version
  case neg =>
    rw [if_neg sameVersion, if_neg fun same => sameVersion (congrArg ResourceKey.version same),
      OrderedMap.find?_getD]
  subst sameVersion
  unfold OrderedMap.insert
  rw [if_pos rfl, Option.bind_some, OrderedMap.find?_alter, OrderedMap.find?_getD]
  by_cases sameName : n = resource.name
  · rw [sameName, if_pos rfl, if_pos rfl]
  · rw [if_neg sameName, if_neg fun same => sameName (congrArg ResourceKey.name same)]

theorem find?_ofResources (resources : List Resource) (key : ResourceKey) :
    (ofResources resources rootGroup).find? key.group key.version key.name =
      lastWithKey? rootGroup resources key := by
  induction resources using List.reverseRecOn with
  | nil => rfl
  | append_singleton resources resource ih =>
    have built : ofResources (resources ++ [resource]) rootGroup =
        (ofResources resources rootGroup).insert (resource.apiGroup rootGroup) resource := by
      unfold ofResources
      rw [List.foldl_append, List.foldl_cons, List.foldl_nil]
    rw [built, find?_insert, lastWithKey?_concat, ih]
    rfl

theorem alter_entries_ne_nil {κ α : Type} [Ord κ] [Std.TransOrd κ] [Std.LawfulEqOrd κ]
    (m : OrderedMap κ α) (k : κ) (f : Option α → α) : (m.alter k f).entries ≠ [] :=
  List.ne_nil_of_mem (OrderedMap.find?_eq_some_iff.mp (OrderedMap.find?_alter_self m k f))

theorem filled_insert {table : ResourceTable} (filled : table.Filled) (group : String)
    (resource : Resource) : (table.insert group resource).Filled where
  groups := OrderedMap.forall_mem_alter (alter_entries_ne_nil _ _ _) filled.groups
  versions := by
    refine OrderedMap.forall_mem_alter ?_ filled.versions
    refine OrderedMap.forall_mem_alter (alter_entries_ne_nil _ _ _) fun version member => ?_
    obtain ⟨versions, inTable, member⟩ := OrderedMap.mem_of_mem_getD member
    exact filled.versions _ inTable version member

theorem filled_ofResources (resources : List Resource) :
    (ofResources resources rootGroup).Filled :=
  List.foldlRecOn resources _ ⟨nofun, nofun⟩ fun _ filled resource _ =>
    filled_insert filled _ resource

/-! ### Tables and what is found in them -/

theorem exists_find?_of_ne_nil {α : Type} {m : OrderedMap String α} (filled : m.entries ≠ []) :
    ∃ k a, m.find? k = some a := by
  obtain ⟨⟨k, a⟩, member⟩ := List.exists_mem_of_ne_nil _ filled
  exact ⟨k, a, OrderedMap.find?_eq_some_iff.mpr member⟩

def named? (versions : GroupVersions) (place : String × String) : Option Resource :=
  (versions.find? place.1).bind (·.find? place.2)

theorem Filled.exists_named? {table : ResourceTable} (filled : table.Filled) :
    ∀ group ∈ table.groups.entries, ∃ place resource, named? group.2 place = some resource := by
  intro group inTable
  obtain ⟨version, bucket, inGroup⟩ := exists_find?_of_ne_nil (filled.groups group inTable)
  have present := OrderedMap.find?_eq_some_iff.mp inGroup
  obtain ⟨name, resource, inBucket⟩ :=
    exists_find?_of_ne_nil (filled.versions group inTable _ present)
  exact ⟨(version, name), resource, by rw [named?, inGroup, Option.bind_some, inBucket]⟩

theorem versions_ext {first second : GroupVersions}
    (filled : ∀ version ∈ first.entries, version.2.entries ≠ [])
    (filledOther : ∀ version ∈ second.entries, version.2.entries ≠ [])
    (same : ∀ place, named? first place = named? second place) : first = second :=
  OrderedMap.ext_bind (fun version member => exists_find?_of_ne_nil (filled version member))
    (fun version member => exists_find?_of_ne_nil (filledOther version member))
    (fun _ _ _ _ agree => OrderedMap.ext_find? agree)
    fun version name => same (version, name)

theorem ext_find? {first second : ResourceTable} (filled : first.Filled)
    (filledOther : second.Filled)
    (same : ∀ key : ResourceKey, first.find? key.group key.version key.name =
      second.find? key.group key.version key.name) : first = second := by
  have groups : first.groups = second.groups := by
    refine OrderedMap.ext_bind filled.exists_named? filledOther.exists_named?
      (fun group member other present agree => versions_ext (filled.versions group member)
        (filledOther.versions other present) agree) fun group place => ?_
    have found := same ⟨group, place.1, place.2⟩
    unfold find? bucket? group? at found
    rwa [Option.bind_assoc, Option.bind_assoc] at found
  cases first
  cases second
  cases groups
  rfl

/-! ### The walk through a table -/

theorem mem_resources_iff {table : ResourceTable} {resource : Resource} :
    resource ∈ table.resources ↔
      ∃ key : ResourceKey, table.find? key.group key.version key.name = some resource := by
  unfold resources GroupVersions.resources OrderedMap.values find? bucket? group?
  simp only [List.mem_flatMap, List.mem_map, Option.bind_eq_some_iff,
    OrderedMap.find?_eq_some_iff]
  constructor
  · rintro ⟨_, ⟨⟨group, versions⟩, inTable, rfl⟩, _, ⟨⟨version, bucket⟩, inGroup, rfl⟩,
      ⟨name, _⟩, inBucket, rfl⟩
    exact ⟨⟨group, version, name⟩, bucket, ⟨versions, inTable, inGroup⟩, inBucket⟩
  · rintro ⟨key, bucket, ⟨versions, inTable, inGroup⟩, inBucket⟩
    exact ⟨versions, ⟨_, inTable, rfl⟩, bucket, ⟨_, inGroup, rfl⟩, _, inBucket, rfl⟩

/-- The walk meets exactly the last resource of every key. -/
theorem mem_resources_ofResources_iff {resource : Resource} :
    resource ∈ (ofResources resources rootGroup).resources ↔
      lastWithKey? rootGroup resources (resource.key rootGroup) = some resource := by
  rw [mem_resources_iff]
  simp only [find?_ofResources]
  constructor
  · rintro ⟨key, last⟩
    rw [key_of_lastWithKey? last]
    exact last
  · intro last
    exact ⟨_, last⟩

theorem key_of_mem_values {group : String} {version : String × Bucket} {resource : Resource}
    (placed : BucketPlaced rootGroup group version) (member : resource ∈ version.2.values) :
    resource.key rootGroup = ⟨group, version.1, resource.name⟩ := by
  obtain ⟨named, present, rfl⟩ := List.mem_map.mp member
  have belongs := placed named present
  unfold Resource.key
  rw [belongs.group, belongs.version]

theorem WellPlaced.resources_ascending {table : ResourceTable}
    (placed : WellPlaced rootGroup table) :
    table.resources.Pairwise fun first second =>
      (first.key rootGroup).bytes < (second.key rootGroup).bytes := by
  have ascending := placed.ascending
  unfold resources
  refine List.pairwise_flatMap.mpr ⟨fun _ member => ?inGroup, List.pairwise_map.mpr ?acrossGroups⟩
  case acrossGroups =>
    refine (List.pairwise_map.mp ascending.groups).imp_of_mem ?_
    intro group later inTable inTable' less first member second member'
    apply ResourceKey.bytes_lt_of_group
    change first.apiGroup rootGroup < second.apiGroup rootGroup
    rwa [apiGroup_of_mem_resources (placed group inTable) member,
      apiGroup_of_mem_resources (placed later inTable') member']
  obtain ⟨group, inTable, rfl⟩ := List.mem_map.mp member
  refine List.pairwise_flatMap.mpr
    ⟨fun _ member => ?inVersion, List.pairwise_map.mpr ?acrossVersions⟩
  case acrossVersions =>
    refine (List.pairwise_map.mp (ascending.versions group inTable)).imp_of_mem ?_
    intro version later inGroup inGroup' less first member second member'
    rw [key_of_mem_values (placed group inTable version inGroup) member,
      key_of_mem_values (placed group inTable later inGroup') member']
    exact ResourceKey.bytes_lt_of_version rfl less
  obtain ⟨version, inGroup, rfl⟩ := List.mem_map.mp member
  have names := List.pairwise_map.mp (ascending.resources group inTable version inGroup)
  refine names.imp_of_mem fun {first second} member member' less => ?_
  rw [key_of_mem_values (placed group inTable version inGroup) member,
    key_of_mem_values (placed group inTable version inGroup) member']
  exact ResourceKey.bytes_lt_of_name rfl rfl less

theorem keys_of_resources_distinct {table : ResourceTable} (placed : WellPlaced rootGroup table) :
    (table.resources.map (·.key rootGroup)).Nodup := by
  refine List.pairwise_map.mpr (placed.resources_ascending.imp fun less same => ?_)
  rw [same] at less
  exact List.lt_irrefl _ less

theorem keys_ofResources_distinct (rootGroup : String) (resources : List Resource) :
    ((ofResources resources rootGroup).resources.map (·.key rootGroup)).Nodup :=
  keys_of_resources_distinct (wellPlaced_ofResources resources)

/-! ### Counts -/

theorem mem_keys_ofResources_iff :
    key ∈ (ofResources resources rootGroup).resources.map (·.key rootGroup) ↔
      key ∈ resources.map (·.key rootGroup) := by
  refine Iff.trans ?_ exists_lastWithKey?_iff
  constructor
  · intro member
    obtain ⟨resource, walked, rfl⟩ := List.mem_map.mp member
    exact ⟨resource, mem_resources_ofResources_iff.mp walked⟩
  · rintro ⟨resource, last⟩
    have same := key_of_lastWithKey? last
    subst same
    exact List.mem_map_of_mem (mem_resources_ofResources_iff.mpr last)

theorem resourceCount_ofResources (rootGroup : String) (resources : List Resource) :
    (ofResources resources rootGroup).resourceCount =
      (resources.map (·.key rootGroup)).toFinset.card := by
  have distinct := keys_ofResources_distinct rootGroup resources
  have sameKeys : (resources.map (·.key rootGroup)).toFinset =
      ((ofResources resources rootGroup).resources.map (·.key rootGroup)).toFinset := by
    ext key
    rw [List.mem_toFinset, List.mem_toFinset, mem_keys_ofResources_iff]
  rw [sameKeys, List.toFinset_card_of_nodup distinct, List.length_map]
  rfl

def versionKeys (table : ResourceTable) : List (String × String) :=
  table.groups.entries.flatMap fun group => group.2.keys.map fun version => (group.1, version)

theorem versionCount_eq (table : ResourceTable) :
    table.versionCount = table.versionKeys.length := by
  unfold versionCount versionKeys OrderedMap.values
  simp only [List.length_flatMap, List.map_map, List.length_map]
  rfl

theorem versionKeys_distinct (table : ResourceTable) : table.versionKeys.Nodup := by
  refine List.pairwise_flatMap.mpr ⟨fun group _ => ?_, ?_⟩
  · exact List.pairwise_map.mpr (group.2.keys_distinct.imp fun apart same =>
      apart (Prod.mk.inj same).2)
  · refine (List.pairwise_map.mp table.groups.keys_distinct).imp fun {group later} apart => ?_
    intro first member second member' same
    obtain ⟨version, _, rfl⟩ := List.mem_map.mp member
    obtain ⟨version', _, rfl⟩ := List.mem_map.mp member'
    exact apart (Prod.mk.inj same).1

theorem mem_versionKeys_iff {place : String × String} :
    place ∈ (ofResources resources rootGroup).versionKeys ↔
      place ∈ resources.map fun resource => (resource.apiGroup rootGroup, resource.version) := by
  constructor
  · intro member
    obtain ⟨group, inTable, member⟩ := List.mem_flatMap.mp member
    obtain ⟨_, listed, rfl⟩ := List.mem_map.mp member
    obtain ⟨version, inGroup, rfl⟩ := List.mem_map.mp listed
    obtain ⟨resource, listed, sameGroup, sameVersion⟩ :=
      exists_resource_of_version resources group inTable version inGroup
    exact List.mem_map.mpr ⟨resource, listed, by rw [sameGroup, sameVersion]⟩
  · intro member
    obtain ⟨resource, listed, rfl⟩ := List.mem_map.mp member
    obtain ⟨other, last⟩ := exists_lastWithKey?_iff.mpr
      (List.mem_map_of_mem (f := (·.key rootGroup)) listed)
    rw [← find?_ofResources] at last
    unfold find? bucket? group? at last
    simp only [Option.bind_eq_some_iff, OrderedMap.find?_eq_some_iff] at last
    obtain ⟨bucket, ⟨versions, inTable, inGroup⟩, _⟩ := last
    exact List.mem_flatMap.mpr ⟨_, inTable, List.mem_map.mpr ⟨_, List.mem_map_of_mem inGroup, rfl⟩⟩

theorem versionCount_ofResources (rootGroup : String) (resources : List Resource) :
    (ofResources resources rootGroup).versionCount =
      (resources.map fun resource =>
        (resource.apiGroup rootGroup, resource.version)).toFinset.card := by
  have samePlaces : (resources.map fun resource =>
      (resource.apiGroup rootGroup, resource.version)).toFinset =
        (ofResources resources rootGroup).versionKeys.toFinset := by
    ext place
    rw [List.mem_toFinset, List.mem_toFinset, mem_versionKeys_iff]
  rw [samePlaces, List.toFinset_card_of_nodup (versionKeys_distinct _), versionCount_eq]

/-! ### Tables of several lists -/

theorem ofResources_eq_of_lastWithKey? {others : List Resource}
    (agree : ∀ key, lastWithKey? rootGroup others key = lastWithKey? rootGroup resources key) :
    ofResources others rootGroup = ofResources resources rootGroup := by
  refine ext_find? (filled_ofResources others) (filled_ofResources resources) fun key => ?_
  rw [find?_ofResources, find?_ofResources, agree]

theorem lastWithKey?_resources (resources : List Resource) (key : ResourceKey) :
    lastWithKey? rootGroup (ofResources resources rootGroup).resources key =
      lastWithKey? rootGroup resources key := by
  have distinct := keys_ofResources_distinct rootGroup resources
  apply Option.ext
  intro resource
  constructor
  · intro last
    have member := List.mem_reverse.mp (List.mem_of_find?_eq_some last)
    have same := key_of_lastWithKey? last
    subst same
    exact mem_resources_ofResources_iff.mp member
  · intro last
    have same := key_of_lastWithKey? last
    subst same
    exact lastWithKey?_of_mem distinct (mem_resources_ofResources_iff.mpr last)

/-- What the table of a list of resources is: it finds under every key the last resource of the
list that belongs there, has no empty part, is walked in the order of the keys, counts keys, is the
table of its own walk, and is the table of every list with the same last resources. -/
theorem ofResources_contents (resources : List Resource) (rootGroup : String) :
    let table := ofResources resources rootGroup
    (∀ key : ResourceKey, table.find? key.group key.version key.name =
      lastWithKey? rootGroup resources key) ∧
    table.Filled ∧
    (∀ resource, resource ∈ table.resources ↔
      lastWithKey? rootGroup resources (resource.key rootGroup) = some resource) ∧
    table.resources.Pairwise (fun first second =>
      (first.key rootGroup).bytes < (second.key rootGroup).bytes) ∧
    table.resourceCount = (resources.map (·.key rootGroup)).toFinset.card ∧
    table.versionCount = (resources.map fun resource =>
      (resource.apiGroup rootGroup, resource.version)).toFinset.card ∧
    ofResources table.resources rootGroup = table ∧
    ∀ others : List Resource,
      (∀ key, lastWithKey? rootGroup others key = lastWithKey? rootGroup resources key) →
        ofResources others rootGroup = table :=
  ⟨find?_ofResources resources, filled_ofResources resources,
    fun _ => mem_resources_ofResources_iff, (wellPlaced_ofResources resources).resources_ascending,
    resourceCount_ofResources rootGroup resources, versionCount_ofResources rootGroup resources,
    ofResources_eq_of_lastWithKey? (lastWithKey?_resources resources),
    fun _ => ofResources_eq_of_lastWithKey?⟩

def redefined : List Resource := [
  { name := "network", shortGroup := "EC2", version := "v1", kind := "Network" },
  { name := "network", shortGroup := "ec2", version := "v1", kind := "VPC" }]

theorem redefined_contents :
    (ofResources redefined "aws.example").resources = redefined.tail ∧
      (ofResources redefined "aws.example").resourceCount = 1 ∧
        ofResources redefined.tail "aws.example" = ofResources redefined "aws.example" := by
  obtain ⟨_, _, _, _, count, _, _, determined⟩ := ofResources_contents redefined "aws.example"
  have replaced :
      lastWithKey? "aws.example" redefined.tail = lastWithKey? "aws.example" redefined :=
    funext fun key => (lastWithKey?_cons_of_mem (by decide) key).symm
  exact ⟨by decide, count.trans (by decide), determined _ fun key => congrFun replaced key⟩

end ResourceTable

end ProviderGen
