import Mathlib.Data.List.Nodup
import Mathlib.Logic.ExistsUnique
import ProviderGen.Proofs.HubSpoke
import ProviderGen.Proofs.Lowercase
import ProviderGen.Proofs.ResourceTable

/-!
When the hubs of a group are accepted, and what this says of its resources. A group is accepted if
every node key has exactly one hub version. A key is a spelling of the short group with a kind, so
the rule speaks of kinds where each is declared under one spelling; and it says nothing about the
hubs that the other versions of a key name, so these are spokes of the one hub only where all
resources of the key name the same.
-/

namespace ProviderGen

/-! ### Node keys within a group -/

theorem length_groupName_lt (short rest rootGroup : String) :
    (groupName short rootGroup).length < (groupName (short ++ "." ++ rest) rootGroup).length := by
  have longer : groupName (short ++ "." ++ rest) rootGroup =
      Text.lowercase (short ++ "." ++ rest) ++ "." ++ rootGroup := by
    unfold groupName
    rw [if_neg]
    intro empty
    have dotted := congrArg String.length empty
    have dot : ".".length = 1 := rfl
    have none : "".length = 0 := rfl
    simp only [String.length_append] at dotted
    omega
  rw [longer]
  unfold groupName
  simp only [String.length_append, Text.length_lowercase_append]
  have dot : (Text.lowercase ".").length = 1 := by decide
  split
  · omega
  · simp only [String.length_append]
    omega

/-- Of two short groups of one group, neither continues the other with a dot. -/
theorem eq_nil_of_extends {rootGroup short other : String} {rest kind otherKind : List Char}
    (together : groupName short rootGroup = groupName other rootGroup)
    (extended : other.toList = short.toList ++ rest)
    (keys : '.' :: kind = rest ++ '.' :: otherKind) : rest = [] := by
  cases rest with
  | nil => rfl
  | cons dot rest =>
    obtain ⟨rfl, _⟩ := List.cons.inj keys
    have spelled : other = short ++ "." ++ String.ofList rest := by
      apply String.toList_injective
      simp [extended]
    have longer := length_groupName_lt short (String.ofList rest) rootGroup
    rw [← spelled, together] at longer
    exact absurd longer (Nat.lt_irrefl _)

theorem Resource.nodeKey_eq_iff {rootGroup : String} {first second : Resource}
    (together : first.apiGroup rootGroup = second.apiGroup rootGroup) :
    first.nodeKey = second.nodeKey ↔
      first.shortGroup = second.shortGroup ∧ first.kind = second.kind := by
  constructor
  · intro same
    have letters : first.shortGroup.toList ++ '.' :: first.kind.toList =
        second.shortGroup.toList ++ '.' :: second.kind.toList := by
      simpa [nodeKey] using congrArg String.toList same
    rcases List.append_eq_append_iff.mp letters with ⟨rest, extended, keys⟩ | ⟨rest, extended, keys⟩
    · obtain rfl := eq_nil_of_extends together extended keys
      rw [List.append_nil] at extended
      exact ⟨(String.toList_injective extended).symm,
        String.toList_injective (List.cons.inj keys).2⟩
    · obtain rfl := eq_nil_of_extends together.symm extended keys
      rw [List.append_nil] at extended
      exact ⟨String.toList_injective extended,
        (String.toList_injective (List.cons.inj keys).2).symm⟩
  · rintro ⟨shortGroups, kinds⟩
    unfold nodeKey
    rw [shortGroups, kinds]

/-! ### Accepted groups -/

namespace GroupVersions

/-- A hub of some resources is a version in which one of them names that version as its hub. -/
def IsHub (versions : GroupVersions) (among : Resource → Prop) (version : String) : Prop :=
  ∃ bucket, (version, bucket) ∈ versions.entries ∧
    ∃ resource ∈ bucket.values, among resource ∧ resource.hubVersion = version

theorem mem_resources {versions : GroupVersions} {resource : Resource} :
    resource ∈ versions.resources ↔
      ∃ version bucket, (version, bucket) ∈ versions.entries ∧ resource ∈ bucket.values := by
  unfold resources OrderedMap.values
  simp only [List.mem_flatMap, List.mem_map, Prod.exists]
  constructor
  · rintro ⟨_, ⟨version, bucket, inGroup, rfl⟩, present⟩
    exact ⟨version, bucket, inGroup, present⟩
  · rintro ⟨version, bucket, inGroup, present⟩
    exact ⟨bucket, ⟨version, bucket, inGroup, rfl⟩, present⟩

def Occurs (versions : GroupVersions) (key version : String) : Prop :=
  ∃ bucket, (version, bucket) ∈ versions.entries ∧
    ∃ resource ∈ bucket.values, resource.nodeKey = key

def NamesOneHub (versions : GroupVersions) (key : String) : Prop :=
  ∀ first ∈ versions.resources, ∀ second ∈ versions.resources,
    first.nodeKey = key → second.nodeKey = key → first.hubVersion = second.hubVersion

theorem isHub_congr {versions : GroupVersions} {among those : Resource → Prop} {version : String}
    (same : ∀ resource ∈ versions.resources, among resource ↔ those resource) :
    versions.IsHub among version ↔ versions.IsHub those version := by
  have part {p q : Resource → Prop}
      (same : ∀ resource ∈ versions.resources, p resource → q resource)
      (hub : versions.IsHub p version) : versions.IsHub q version := by
    obtain ⟨bucket, inGroup, resource, present, meets, named⟩ := hub
    have member := mem_resources.mpr ⟨version, bucket, inGroup, present⟩
    exact ⟨bucket, inGroup, resource, present, same resource member meets, named⟩
  exact ⟨part fun resource member => (same resource member).mp,
    part fun resource member => (same resource member).mpr⟩

end GroupVersions

namespace GroupConversions

variable {group : String} {versions : GroupVersions}

theorem mem_hubsOf {key version : String} :
    version ∈ (ofVersions group versions).hubsOf key ↔
      versions.IsHub (·.nodeKey = key) version := by
  refine GroupVersions.mem_versionsOf_classify.trans ?_
  simp only [NodeKind.covers, beq_iff_eq]
  constructor
  · rintro ⟨bucket, inGroup, resource, present, named, keyed⟩
    exact ⟨bucket, inGroup, resource, present, keyed, named⟩
  · rintro ⟨bucket, inGroup, resource, present, keyed, named⟩
    exact ⟨bucket, inGroup, resource, present, named, keyed⟩

theorem mem_observed {key : String} :
    key ∈ (ofVersions group versions).observed.keys ↔
      ∃ resource ∈ versions.resources, resource.nodeKey = key := by
  have walked (resources : List Resource) (keys : OrderedMap String Unit) :
      key ∈ (resources.foldl (fun keys resource => keys.insert resource.nodeKey ()) keys).keys ↔
        key ∈ keys.keys ∨ ∃ resource ∈ resources, resource.nodeKey = key := by
    induction resources generalizing keys with
    | nil => simp
    | cons resource rest ih =>
      rw [List.foldl_cons, ih, OrderedMap.mem_keys_insert]
      simp only [List.mem_cons, exists_eq_or_imp, eq_comm (a := key)]
      rw [or_assoc, or_left_comm]
  have start : key ∉ (OrderedMap.empty : OrderedMap String Unit).keys := List.not_mem_nil
  unfold ofVersions
  rw [walked]
  simp only [start, false_or]

theorem length_eq_one_iff_existsUnique {names : List String} (distinct : names.Nodup) :
    names.length = 1 ↔ ∃! name, name ∈ names := by
  rw [List.length_eq_one_iff]
  constructor
  · rintro ⟨name, rfl⟩
    exact ⟨name, List.mem_singleton_self name, fun other => List.mem_singleton.mp⟩
  · rintro ⟨name, member, only⟩
    refine ⟨name, List.perm_singleton.mp ?_⟩
    apply (List.perm_ext_iff_of_nodup distinct (List.nodup_singleton name)).mpr
    intro other
    rw [List.mem_singleton]
    exact ⟨only other, fun same => same ▸ member⟩

theorem hubFault?_eq_none_iff_length {conversions : GroupConversions} :
    conversions.hubFault? = none ↔
      ∀ key ∈ conversions.observed.keys, (conversions.hubsOf key).length = 1 := by
  unfold hubFault?
  rw [Option.map_eq_none_iff, List.find?_eq_none]
  simp only [bne_iff_ne, ne_eq, not_not]

theorem length_hubsOf_eq_one_iff {key : String} :
    ((ofVersions group versions).hubsOf key).length = 1 ↔
      ∃! version, versions.IsHub (·.nodeKey = key) version := by
  have distinct : ((ofVersions group versions).hubsOf key).Nodup :=
    GroupVersions.nodup_versionsOf_classify versions _ key
  rw [length_eq_one_iff_existsUnique distinct]
  exact existsUnique_congr fun version => mem_hubsOf

theorem hubFault?_eq_none_iff :
    (ofVersions group versions).hubFault? = none ↔
      ∀ resource ∈ versions.resources,
        ∃! version, versions.IsHub (·.nodeKey = resource.nodeKey) version := by
  rw [hubFault?_eq_none_iff_length]
  simp only [length_hubsOf_eq_one_iff, mem_observed]
  constructor
  · intro unique resource member
    exact unique _ ⟨resource, member, rfl⟩
  · rintro unique _ ⟨resource, member, rfl⟩
    exact unique resource member

/-- Every group of a table is accepted exactly if each kind has one hub version under each spelling
of the short group it is declared with. Where every kind is declared with one spelling, that is one
hub version for each kind. -/
theorem accepted_iff_spelled {resources : List Resource} {rootGroup group : String}
    {versions : GroupVersions}
    (found : (ResourceTable.ofResources resources rootGroup).group? group = some versions) :
    let accepted := (ofVersions group versions).hubFault? = none
    (accepted ↔ ∀ resource ∈ versions.resources,
      ∃! version, versions.IsHub (fun other => other.shortGroup = resource.shortGroup ∧
        other.kind = resource.kind) version) ∧
    ((∀ first ∈ versions.resources, ∀ second ∈ versions.resources,
        first.kind = second.kind → first.shortGroup = second.shortGroup) →
      (accepted ↔ ∀ resource ∈ versions.resources,
        ∃! version, versions.IsHub (·.kind = resource.kind) version)) := by
  intro accepted
  have inTable := OrderedMap.find?_eq_some_iff.mp found
  have belongs {resource : Resource} (member : resource ∈ versions.resources) :
      resource.apiGroup rootGroup = group :=
    ResourceTable.apiGroup_of_mem_resources
      (ResourceTable.wellPlaced_ofResources resources _ inTable) member
  have keyed {other resource : Resource} (member : other ∈ versions.resources)
      (present : resource ∈ versions.resources) : other.nodeKey = resource.nodeKey ↔
        other.shortGroup = resource.shortGroup ∧ other.kind = resource.kind :=
    Resource.nodeKey_eq_iff ((belongs member).trans (belongs present).symm)
  have byKey : accepted ↔ _ := hubFault?_eq_none_iff
  constructor
  · rw [byKey]
    refine forall₂_congr fun resource present => existsUnique_congr fun version => ?_
    exact GroupVersions.isHub_congr fun other member => keyed member present
  · intro spelled
    rw [byKey]
    refine forall₂_congr fun resource present => existsUnique_congr fun version => ?_
    refine GroupVersions.isHub_congr fun other member => ?_
    rw [keyed member present]
    exact ⟨And.right, fun kinds => ⟨spelled other member resource present kinds, kinds⟩⟩

theorem hub_or_spoke_iff {key version : String} :
    version ∈ (ofVersions group versions).hubs.versionsOf key ∨
        version ∈ (ofVersions group versions).spokes.versionsOf key ↔
      versions.Occurs key version := by
  refine (or_congr GroupVersions.mem_versionsOf_classify
    GroupVersions.mem_versionsOf_classify).trans ?_
  constructor
  · rintro (⟨bucket, inGroup, resource, present, _, keyed⟩ |
      ⟨bucket, inGroup, resource, present, _, keyed⟩)
    · exact ⟨bucket, inGroup, resource, present, keyed⟩
    · exact ⟨bucket, inGroup, resource, present, keyed⟩
  · rintro ⟨bucket, inGroup, resource, present, keyed⟩
    by_cases named : resource.hubVersion = version
    · exact .inl ⟨bucket, inGroup, resource, present, beq_iff_eq.mpr named, keyed⟩
    · exact .inr ⟨bucket, inGroup, resource, present, bne_iff_ne.mpr named, keyed⟩

/-- In an accepted group, every node key has one hub, and its versions are that hub and its spokes.
That all its resources name this hub, and that every spoke converts to a version which is there as
a hub, both hold exactly if the resources of the key name the same hub; then the hub is no spoke as
well. -/
theorem hub_and_spokes_of_accepted (accepted : (ofVersions group versions).hubFault? = none)
    {key : String} (observed : key ∈ (ofVersions group versions).observed.keys) :
    let hubs := (ofVersions group versions).hubs.versionsOf key
    let spokes := (ofVersions group versions).spokes.versionsOf key
    ∃ hub, hubs = [hub] ∧
      (∀ version, version ∈ hubs ∨ version ∈ spokes ↔ versions.Occurs key version) ∧
      (versions.NamesOneHub key ↔
        ∀ resource ∈ versions.resources, resource.nodeKey = key → resource.hubVersion = hub) ∧
      (versions.NamesOneHub key ↔
        ∀ version bucket, (version, bucket) ∈ versions.entries → ∀ resource ∈ bucket.values,
          resource.nodeKey = key → NodeKind.spoke.covers resource version →
            resource.hubVersion ∈ hubs) ∧
      (versions.NamesOneHub key → ∀ version ∈ hubs, version ∉ spokes) := by
  intro hubs spokes
  obtain ⟨hub, single⟩ : ∃ hub, hubs = [hub] :=
    List.length_eq_one_iff.mp (hubFault?_eq_none_iff_length.mp accepted key observed)
  have memHubs {version : String} : version ∈ hubs ↔ version = hub := by
    rw [single, List.mem_singleton]
  have named : versions.NamesOneHub key ↔
      ∀ resource ∈ versions.resources, resource.nodeKey = key → resource.hubVersion = hub := by
    constructor
    · intro same resource member keyed
      obtain ⟨bucket, inGroup, chosen, present, chosenKeyed, names⟩ :=
        mem_hubsOf.mp (memHubs.mpr rfl)
      have chosenMember := GroupVersions.mem_resources.mpr ⟨hub, bucket, inGroup, present⟩
      exact (same resource member chosen chosenMember keyed chosenKeyed).trans names
    · intro all first firstMember second secondMember firstKeyed secondKeyed
      rw [all first firstMember firstKeyed, all second secondMember secondKeyed]
  refine ⟨hub, single, fun version => hub_or_spoke_iff, named, ?converts, ?disjoint⟩
  case converts =>
    rw [named]
    constructor
    · intro all version bucket inGroup resource present keyed _
      have member := GroupVersions.mem_resources.mpr ⟨version, bucket, inGroup, present⟩
      exact memHubs.mpr (all resource member keyed)
    · intro converts resource member keyed
      obtain ⟨version, bucket, inGroup, present⟩ := GroupVersions.mem_resources.mp member
      by_cases own : resource.hubVersion = version
      · -- the version of a resource that names it is itself recorded as the hub
        have recorded : version ∈ hubs :=
          mem_hubsOf.mpr ⟨bucket, inGroup, resource, present, keyed, own⟩
        exact own.trans (memHubs.mp recorded)
      · have spoke : NodeKind.spoke.covers resource version := bne_iff_ne.mpr own
        exact memHubs.mp (converts version bucket inGroup resource present keyed spoke)
  case disjoint =>
    intro same version isHub isSpoke
    obtain ⟨bucket, inGroup, resource, present, spoke, keyed⟩ :=
      GroupVersions.mem_versionsOf_classify.mp isSpoke
    have member := GroupVersions.mem_resources.mpr ⟨version, bucket, inGroup, present⟩
    have hubNamed := named.mp same resource member keyed
    exact bne_iff_ne.mp spoke (hubNamed.trans (memHubs.mp isHub).symm)

end GroupConversions

def converted : List Resource := [
  { name := "network", shortGroup := "ec2", version := "v1", kind := "Network" },
  { name := "network_v2", shortGroup := "ec2", version := "v2", kind := "Network",
    hubVersion? := some "v1" }]

def respelled : List Resource := [
  { name := "network", shortGroup := "EC2", version := "v1", kind := "Network" },
  { name := "network_v2", shortGroup := "ec2", version := "v2", kind := "Network" }]

def straying : List Resource := [
  { name := "network", shortGroup := "ec2", version := "v1", kind := "Network" },
  { name := "network_default", shortGroup := "ec2", version := "v1", kind := "Network",
    hubVersion? := some "v3" }]

namespace GroupConversions

theorem converted_accepted : ∃ versions,
    (ResourceTable.ofResources converted "aws.example").group? "ec2.aws.example" = some versions ∧
    (ofVersions "ec2.aws.example" versions).hubFault? = none ∧
    ∀ resource ∈ versions.resources,
      ∃! version, versions.IsHub (·.kind = resource.kind) version := by
  have found : (ResourceTable.ofResources converted "aws.example").group? "ec2.aws.example" =
      some _ := rfl
  refine ⟨_, found, ?accepted, ?unique⟩
  case accepted => decide
  case unique => exact ((accepted_iff_spelled found).2 (by decide)).mp (by decide)

/-- Spelled in two ways, a kind with two hub versions is accepted. -/
theorem respelled_accepted : ∃ versions,
    (ResourceTable.ofResources respelled "aws.example").group? "ec2.aws.example" = some versions ∧
    (ofVersions "ec2.aws.example" versions).hubFault? = none ∧
    (∃ resource ∈ versions.resources, resource.kind = "Network") ∧
    ¬ ∃! version, versions.IsHub (·.kind = "Network") version := by
  refine ⟨_, rfl, ?accepted, ?declared, ?ambiguous⟩
  case accepted => decide
  case declared => decide
  case ambiguous =>
    rintro ⟨hub, _, only⟩
    have earlier : "v1" = hub := only _ ⟨_, .head _, _, .head _, rfl, rfl⟩
    have later : "v2" = hub := only _ ⟨_, .tail _ (.head _), _, .head _, rfl, rfl⟩
    exact absurd (earlier.trans later.symm) (by decide)

theorem converted_hub_and_spokes : ∃ versions,
    (ResourceTable.ofResources converted "aws.example").group? "ec2.aws.example" = some versions ∧
    (ofVersions "ec2.aws.example" versions).hubFault? = none ∧
    "ec2.Network" ∈ (ofVersions "ec2.aws.example" versions).observed.keys ∧
    ∃ hub, (ofVersions "ec2.aws.example" versions).hubs.versionsOf "ec2.Network" = [hub] ∧
      ∀ resource ∈ versions.resources, resource.nodeKey = "ec2.Network" →
        resource.hubVersion = hub := by
  refine ⟨_, rfl, ?accepted, ?observed, ?named⟩
  case accepted => decide
  case observed => decide
  case named =>
    refine (hub_and_spokes_of_accepted ?_ ?_).imp fun hub split => ⟨split.1, split.2.2.1.mp ?_⟩
    · decide
    · decide
    · unfold GroupVersions.NamesOneHub
      decide

/-- An accepted node key whose one version is its hub and its spoke, and converts to a version that
is not there. -/
theorem straying_accepted : ∃ versions,
    (ResourceTable.ofResources straying "aws.example").group? "ec2.aws.example" = some versions ∧
    (ofVersions "ec2.aws.example" versions).hubFault? = none ∧
    (ofVersions "ec2.aws.example" versions).hubs.versionsOf "ec2.Network" = ["v1"] ∧
    (ofVersions "ec2.aws.example" versions).spokes.versionsOf "ec2.Network" = ["v1"] ∧
    "v3" ∉ versions.keys ∧
    ∃ resource ∈ versions.resources, resource.nodeKey = "ec2.Network" ∧
      resource.hubVersion = "v3" := by
  refine ⟨_, rfl, ?accepted, rfl, rfl, ?missing, ?strays⟩
  case accepted => decide
  case missing => decide
  case strays => decide

end GroupConversions

end ProviderGen
