import Mathlib.Data.List.Sort
import ProviderGen.Proofs.ByteOrder
import ProviderGen.Proofs.Classification
import ProviderGen.Proofs.HubRule

/-!
What the report of a refused group says. It is made for the least node key, byte by byte, that does
not have exactly one hub, and lists the hubs of this key in ascending order. The kind is told as
what follows the first dot of the key: that is a kind of the group where short groups have no dots,
and in other groups the end of a short group stands before it.
-/

namespace ProviderGen

theorem find?_eq_some_iff_least {keys : List String} (ascending : keys.Pairwise (· < ·))
    {p : String → Bool} {key : String} :
    keys.find? p = some key ↔
      (key ∈ keys ∧ p key = true) ∧
        ∀ other, other ∈ keys ∧ p other = true → other ≠ key → key < other := by
  have least {found : String} (first : keys.find? p = some found) (other : String)
      (meets : other ∈ keys ∧ p other = true) (apart : other ≠ found) : found < other := by
    obtain ⟨_, before, later, cut, refused⟩ := List.find?_eq_some_iff_append.mp first
    obtain ⟨listed, met⟩ := meets
    rw [cut] at ascending listed
    rcases List.mem_append.mp listed with early | rest
    · have unmet := refused other early
      rw [met] at unmet
      cases unmet
    · have after := (List.mem_cons.mp rest).resolve_left apart
      exact (List.pairwise_cons.mp (List.pairwise_append.mp ascending).2.1).1 other after
  constructor
  · intro first
    exact ⟨⟨List.mem_of_find?_eq_some first, List.find?_some first⟩, least first⟩
  · rintro ⟨meets, only⟩
    cases first : keys.find? p with
    | none => exact absurd meets.2 (List.find?_eq_none.mp first key meets.1)
    | some found =>
      have member := List.mem_of_find?_eq_some first
      have met := List.find?_some first
      by_contra apart
      have differs : key ≠ found := fun same => apart (congrArg some same.symm)
      have below := least first key meets differs
      exact String.lt_asymm below (only found ⟨member, met⟩ (Ne.symm differs))

theorem exists_label_of_dot {text : String} (dotted : '.' ∈ text.toList) :
    ∃ label rest, text = label ++ "." ++ rest ∧ '.' ∉ label.toList := by
  obtain ⟨label, rest, cut, plain⟩ := List.eq_append_cons_of_mem dotted
  refine ⟨String.ofList label, String.ofList rest, ?_, by rwa [String.toList_ofList]⟩
  apply String.toList_injective
  simp [cut]

theorem append_dot_ne (label text : String) : label ++ "." ++ text ≠ text := by
  intro same
  have lengths := congrArg String.length same
  have dot : ".".length = 1 := rfl
  simp only [String.length_append] at lengths
  omega

theorem dot_mem_of_groupName_eq {rootGroup short other : String}
    (together : groupName short rootGroup = groupName other rootGroup) :
    '.' ∈ short.toList ↔ '.' ∈ other.toList := by
  unfold groupName at together
  split at together <;> split at together
  case isTrue.isTrue first second => rw [first, second]
  case isTrue.isFalse => exact absurd together.symm (append_dot_ne _ rootGroup)
  case isFalse.isTrue => exact absurd together (append_dot_ne _ rootGroup)
  case isFalse.isFalse =>
    have labels : Text.lowercase short = Text.lowercase other := by
      simpa [String.append_assoc] using together
    rw [← Text.dot_mem_lowercase_iff, labels, Text.dot_mem_lowercase_iff]

namespace GroupVersions

/-- A node key of the group that does not have exactly one hub. -/
def Offends (versions : GroupVersions) (key : String) : Prop :=
  (∃ resource ∈ versions.resources, resource.nodeKey = key) ∧
    ¬∃! version, versions.IsHub (·.nodeKey = key) version

end GroupVersions

namespace GroupConversions

theorem kindOfKey_eq {key label kind : String} (cut : key = label ++ "." ++ kind)
    (plain : '.' ∉ label.toList) : kindOfKey key = kind := by
  have letters : key.toList = label.toList ++ '.' :: kind.toList := by simp [cut]
  have skipped : ∀ c ∈ label.toList, (c != '.') = true := fun c member =>
    bne_iff_ne.mpr fun dot => plain (dot ▸ member)
  unfold kindOfKey
  rw [letters, List.dropWhile_append_of_pos skipped, List.dropWhile_cons_of_neg (by decide)]
  exact String.ofList_toList

variable {group : String} {versions : GroupVersions}

theorem offends_iff {key : String} :
    versions.Offends key ↔ key ∈ (ofVersions group versions).observed.keys ∧
      (((ofVersions group versions).hubsOf key).length != 1) = true := by
  unfold GroupVersions.Offends
  rw [mem_observed, bne_iff_ne, ne_eq, length_hubsOf_eq_one_iff]

theorem hubsOf_ascending (key : String) :
    ((ofVersions group versions).hubsOf key).Pairwise (· < ·) := by
  unfold hubsOf
  cases found : (ofVersions group versions).hubs.find? key with
  | none => exact .nil
  | some recorded => exact (GroupVersions.ascending_of_find?_classify found).1

theorem hubFault?_eq_some_iff {fault : HubFault} :
    (ofVersions group versions).hubFault? = some fault ↔
      ∃ key, (versions.Offends key ∧ ∀ other, versions.Offends other → other ≠ key → key < other) ∧
        ⟨group, kindOfKey key, (ofVersions group versions).hubsOf key⟩ = fault := by
  unfold hubFault?
  rw [Option.map_eq_some_iff]
  simp only [find?_eq_some_iff_least (OrderedMap.keys_lt _), ← offends_iff]
  exact Iff.rfl

theorem exists_label_of_observed {key : String}
    (observed : ∃ resource ∈ versions.resources, resource.nodeKey = key) :
    ∃ label kind, key = label ++ "." ++ kind ∧ '.' ∉ label.toList := by
  obtain ⟨resource, _, rfl⟩ := observed
  apply exists_label_of_dot
  simp [Resource.nodeKey]

/-- Whether and how a group is refused. It is accepted exactly if each of its node keys has one hub.
Otherwise the report is made for the least offending key in the order of bytes, and has the name of
the group, what follows the first dot of the key, and the hubs of the key in strictly ascending
order, which may be none. -/
theorem hubFault?_reports_least (group : String) (versions : GroupVersions) :
    let outcome := (ofVersions group versions).hubFault?
    (outcome = none ↔ ∀ resource ∈ versions.resources,
      ∃! version, versions.IsHub (·.nodeKey = resource.nodeKey) version) ∧
    ∀ fault, outcome = some fault ↔
      ∃ key, versions.Offends key ∧
        (∀ other, versions.Offends other → other ≠ key → Text.bytes key < Text.bytes other) ∧
        fault.group = group ∧
        (∃ label, key = label ++ "." ++ fault.kind ∧ '.' ∉ label.toList) ∧
        fault.hubs.Pairwise (· < ·) ∧
        ∀ version, version ∈ fault.hubs ↔ versions.IsHub (·.nodeKey = key) version := by
  intro outcome
  refine ⟨hubFault?_eq_none_iff, fun fault => ?_⟩
  change (ofVersions group versions).hubFault? = some fault ↔ _
  rw [hubFault?_eq_some_iff]
  simp only [Text.bytes_lt_iff]
  constructor
  · rintro ⟨key, ⟨offends, least⟩, rfl⟩
    obtain ⟨label, kind, cut, plain⟩ := exists_label_of_observed offends.1
    refine ⟨key, offends, least, rfl, ⟨label, ?_, plain⟩, hubsOf_ascending key,
      fun version => mem_hubsOf⟩
    rw [kindOfKey_eq cut plain]
    exact cut
  · rintro ⟨key, offends, least, named, ⟨label, cut, plain⟩, ascending, hubs⟩
    have listed : (ofVersions group versions).hubsOf key = fault.hubs :=
      (hubsOf_ascending key).eq_of_mem_iff ascending fun version =>
        mem_hubsOf.trans (hubs version).symm
    refine ⟨key, ⟨offends, least⟩, ?_⟩
    rw [kindOfKey_eq cut plain, listed, ← named]

/-! ### The kind that is told -/

variable {resource : Resource}

theorem kindOfKey_nodeKey_of_dot {label rest : String}
    (spelled : resource.shortGroup = label ++ "." ++ rest) (plain : '.' ∉ label.toList) :
    kindOfKey resource.nodeKey = rest ++ "." ++ resource.kind := by
  have cut : resource.nodeKey = label ++ "." ++ (rest ++ "." ++ resource.kind) := by
    unfold Resource.nodeKey
    rw [spelled]
    simp only [String.append_assoc]
  exact kindOfKey_eq cut plain

theorem kindOfKey_nodeKey_eq_iff :
    kindOfKey resource.nodeKey = resource.kind ↔ '.' ∉ resource.shortGroup.toList := by
  refine ⟨fun told dotted => ?_, kindOfKey_eq rfl⟩
  obtain ⟨label, rest, spelled, plain⟩ := exists_label_of_dot dotted
  rw [kindOfKey_nodeKey_of_dot spelled plain] at told
  exact append_dot_ne rest resource.kind told

/-- What kind the report of a refused group tells. There is a resource of the group whose kind,
under its spelling of the short group, does not have exactly one hub; its kind is told exactly if
its short group has no dot, and otherwise the short group after its first dot stands before the
kind. The short groups of a group have dots together. -/
theorem hubFault?_tells_kind {resources : List Resource} {rootGroup group : String}
    {versions : GroupVersions}
    (found : (ResourceTable.ofResources resources rootGroup).group? group = some versions)
    {fault : HubFault} (refused : (ofVersions group versions).hubFault? = some fault) :
    ∃ resource ∈ versions.resources,
      (¬∃! version, versions.IsHub (fun other => other.shortGroup = resource.shortGroup ∧
        other.kind = resource.kind) version) ∧
      (fault.kind = resource.kind ↔ '.' ∉ resource.shortGroup.toList) ∧
      (∀ label rest, resource.shortGroup = label ++ "." ++ rest → '.' ∉ label.toList →
        fault.kind = rest ++ "." ++ resource.kind) ∧
      ∀ other ∈ versions.resources,
        '.' ∈ other.shortGroup.toList ↔ '.' ∈ resource.shortGroup.toList := by
  obtain ⟨_, ⟨⟨⟨resource, member, rfl⟩, rule⟩, _⟩, rfl⟩ := hubFault?_eq_some_iff.mp refused
  have together {other : Resource} (present : other ∈ versions.resources) :
      other.apiGroup rootGroup = resource.apiGroup rootGroup :=
    (ResourceTable.apiGroup_of_group? found present).trans
      (ResourceTable.apiGroup_of_group? found member).symm
  have keyed (version : String) : versions.IsHub (·.nodeKey = resource.nodeKey) version ↔
      versions.IsHub (fun other => other.shortGroup = resource.shortGroup ∧
        other.kind = resource.kind) version :=
    GroupVersions.isHub_congr fun other present => Resource.nodeKey_eq_iff (together present)
  refine ⟨resource, member, ?violates, kindOfKey_nodeKey_eq_iff, ?dotted, ?alike⟩
  case violates => rwa [existsUnique_congr keyed] at rule
  case dotted => exact fun label rest => kindOfKey_nodeKey_of_dot
  case alike => exact fun other present => dot_mem_of_groupName_eq (together present)

end GroupConversions

def rivals : List Resource := [
  { name := "network", shortGroup := "ec2", version := "v1", kind := "Network" },
  { name := "network_v2", shortGroup := "ec2", version := "v2", kind := "Network" }]

def dotted : List Resource := [
  { name := "network", shortGroup := "ec2.classic", version := "v2", kind := "Network",
    hubVersion? := some "v1" }]

namespace GroupConversions

theorem rivals_tell_kind : ∃ versions,
    (ResourceTable.ofResources rivals "aws.example").group? "ec2.aws.example" = some versions ∧
    (ofVersions "ec2.aws.example" versions).hubFault? =
      some ⟨"ec2.aws.example", "Network", ["v1", "v2"]⟩ ∧
    ∃ resource ∈ versions.resources, resource.kind = "Network" ∧
      ¬∃! version, versions.IsHub (fun other => other.shortGroup = resource.shortGroup ∧
        other.kind = resource.kind) version := by
  obtain ⟨versions, found, refused, plain⟩ : ∃ versions,
      (ResourceTable.ofResources rivals "aws.example").group? "ec2.aws.example" = some versions ∧
      (ofVersions "ec2.aws.example" versions).hubFault? =
        some ⟨"ec2.aws.example", "Network", ["v1", "v2"]⟩ ∧
      ∀ resource ∈ versions.resources, '.' ∉ resource.shortGroup.toList :=
    ⟨_, rfl, by decide, by decide⟩
  obtain ⟨resource, member, violates, told, _⟩ := hubFault?_tells_kind found refused
  have named : "Network" = resource.kind := told.mpr (plain resource member)
  exact ⟨versions, found, refused, resource, member, named.symm, violates⟩

/-- The kind that is told is not the kind of any resource of the group. -/
theorem dotted_tells_no_kind : ∃ versions fault,
    (ResourceTable.ofResources dotted "aws.example").group? "ec2.classic.aws.example" =
      some versions ∧
    (ofVersions "ec2.classic.aws.example" versions).hubFault? = some fault ∧
    fault.kind = "classic.Network" ∧
    ∀ resource ∈ versions.resources, resource.kind ≠ fault.kind :=
  ⟨_, _, rfl, rfl, by decide, by decide⟩

end GroupConversions

end ProviderGen
