import ProviderGen.Proofs.FailFast
import ProviderGen.Proofs.HubSpoke

/-!
The packages that a run registers. They are those of the base, those of all versions, and those that
conversions imply; every recorded version is a version of its group, so conversions repeat packages
that are there already and add none.
-/

namespace ProviderGen

namespace ApiPackages

theorem firstOccurrences_eq (seen packages : List String) :
    firstOccurrences seen packages = (packages.filter (· ∉ seen)).eraseDups := by
  induction packages generalizing seen with
  | nil => rfl
  | cons package rest ih =>
    rw [firstOccurrences]
    by_cases known : package ∈ seen
    · rw [if_pos known, ih, List.filter_cons_of_neg (by simpa using known)]
    · rw [if_neg known, ih, List.filter_cons_of_pos (by simpa using known), List.eraseDups_cons,
        List.filter_filter]
      congr 3
      funext other
      by_cases same : other = package <;> simp [same]

theorem unique_eq_eraseDups (packages : ApiPackages) : unique packages = packages.eraseDups := by
  have kept : packages.filter (· ∉ []) = packages := by simp
  unfold unique
  rw [firstOccurrences_eq, kept]

theorem unique_append_of_subset {packages repeated : ApiPackages} (known : repeated ⊆ packages) :
    unique (packages ++ repeated) = packages.eraseDups := by
  have nothing : repeated.removeAll packages = [] := by
    apply List.filter_eq_nil_iff.mpr
    intro package member
    simpa using known member
  rw [unique_eq_eraseDups, List.eraseDups_append, nothing, List.eraseDups_nil, List.append_nil]

end ApiPackages

/-- Collaborators that return the packages in which the layout places types and controllers. -/
def Process.placing (layout : Layout) : Call → Unit → Answer × Unit
  | .types group version _, state => (.ok (layout.apiPackage group version), state)
  | .controller group resource _ _, state =>
    (.ok (layout.controllerPackage group resource.kind), state)
  | _, state => (.ok "", state)

namespace Config

variable (config : Config)

def versionPackages : List String :=
  config.table.groups.entries.flatMap fun group =>
    group.2.keys.map (config.layout.apiPackage group.1)

/-- The packages of the versions that a group's conversions record for the node keys of all
resources: for each resource those of the spokes, then those of the hubs. -/
def impliedBy (group : String × GroupVersions) : List String :=
  let conversions := GroupConversions.ofVersions group.1 group.2
  config.table.resources.flatMap fun resource =>
    (conversions.spokes.versionsOf resource.nodeKey ++
      conversions.hubs.versionsOf resource.nodeKey).map (config.layout.apiPackage group.1)

def impliedPackages : List String := config.table.groups.entries.flatMap config.impliedBy

variable {config}

theorem ofConversions_eq_impliedBy (group : String × GroupVersions) :
    ApiPackages.ofConversions config.layout (.ofVersions group.1 group.2) config.table =
      config.impliedBy group := by
  unfold ApiPackages.ofConversions impliedBy
  simp only [List.flatMap_cons, List.flatMap_nil, List.append_nil, List.map_append]
  rfl

theorem impliedPackages_subset : config.impliedPackages ⊆ config.versionPackages := by
  intro package member
  obtain ⟨group, inTable, member⟩ := List.mem_flatMap.mp member
  obtain ⟨resource, _, member⟩ := List.mem_flatMap.mp member
  obtain ⟨version, recorded, rfl⟩ := List.mem_map.mp member
  have known : version ∈ group.2.keys := by
    rcases List.mem_append.mp recorded with spoke | hub
    · obtain ⟨bucket, inGroup, _⟩ := GroupVersions.mem_versionsOf_classify.mp spoke
      exact List.mem_map_of_mem inGroup
    · obtain ⟨bucket, inGroup, _⟩ := GroupVersions.mem_versionsOf_classify.mp hub
      exact List.mem_map_of_mem inGroup
  exact List.mem_flatMap.mpr ⟨group, inTable, List.mem_map_of_mem known⟩

variable {returned : Call → String}

theorem typesCall_mem_runCalls (sound : CallOrder.firstFault? config = none) {output : HostPath}
    {group : String × GroupVersions} {entry : String × Bucket}
    (inTable : group ∈ config.table.groups.entries) (inGroup : entry ∈ group.2.entries) :
    CallOrder.typesCall group.1 entry ∈ CallOrder.runCalls config returned output := by
  rw [CallOrder.runCalls_of_sound sound]
  apply List.mem_append_left
  apply List.mem_flatMap.mpr
  refine ⟨group, inTable, List.mem_append_left _ ?_⟩
  exact List.mem_flatMap.mpr ⟨entry, inGroup, List.mem_cons_self⟩

theorem register_mem_runCalls (sound : CallOrder.firstFault? config = none) {output : HostPath}
    {packages : ApiPackages} :
    .register packages ∈ CallOrder.runCalls config returned output ↔
      packages = CallOrder.apiPackages config returned := by
  unfold CallOrder.runCalls
  rw [sound, List.mem_append]
  constructor
  · rintro (inGroups | closing)
    · obtain ⟨entry, _, label⟩ :=
        CallOrder.exists_group_of_mem_groupCalls config.table_wellPlaced inGroups
      cases label
    · simpa [CallOrder.closingCalls] using closing
  · rintro rfl
    exact .inr (.tail _ (.head _))

theorem apiPackages_eq (placed : ∀ group ∈ config.table.groups.entries, ∀ entry ∈ group.2.entries,
      returned (CallOrder.typesCall group.1 entry) = config.layout.apiPackage group.1 entry.1) :
    CallOrder.apiPackages config returned =
      config.base.apiVersions.map config.layout.package ++ config.versionPackages ++
        config.impliedPackages := by
  have generated : CallOrder.generatedPackages config returned = config.versionPackages := by
    apply List.flatMap_congr
    intro group inTable
    unfold OrderedMap.keys
    rw [List.map_map]
    exact List.map_congr_left (placed group inTable)
  have implied : (config.table.groups.entries.flatMap fun group => ApiPackages.ofConversions
      config.layout (.ofVersions group.1 group.2) config.table) = config.impliedPackages :=
    List.flatMap_congr fun group _ => ofConversions_eq_impliedBy group
  unfold CallOrder.apiPackages
  rw [generated, implied]

/-- A successful run whose types are returned as the packages of their versions registers the base
packages, the packages of all versions, and those that the conversions of each group imply. The last
are among the second, so without repeats they make no difference. -/
theorem generation_registers {σ : Type} (config : Config) (output : HostPath)
    (answer : Call → σ → Answer × σ)
    (types : ∀ group version resources reached package,
      (answer (.types group version resources) reached).1 = .ok package →
        package = config.layout.apiPackage group version)
    (state : σ) (summary : Summary)
    (success : ((config.generation output).run answer state).1 = .ok summary) :
    let base := config.base.apiVersions.map config.layout.package
    let expected := base ++ config.versionPackages ++ config.impliedPackages
    (∀ packages, .register packages ∈ (config.generation output).calls answer state ↔
      packages = expected) ∧
    summary.apiPackages = expected ∧ config.table.Ascending ∧
    config.impliedPackages ⊆ config.versionPackages ∧
    ApiPackages.unique expected = (base ++ config.versionPackages).eraseDups := by
  intro base expected
  have succeeded := (config.generation_failFast output).succeeded_of_run success
  have valid : config.validate = .ok () := by
    cases checked : config.validate with
    | error cause =>
      rw [generation_of_invalid checked] at success
      cases success
    | ok => rfl
  obtain ⟨returned, agree, calls, result⟩ := exists_listed valid output succeeded
  rw [success] at result
  unfold CallOrder.outcome at result
  cases sound : CallOrder.firstFault? config with
  | some fault =>
    rw [sound] at result
    cases result
  | none =>
    rw [sound] at result
    have reported : summary = CallOrder.summary config returned := Except.ok.inj result
    have placed : ∀ group ∈ config.table.groups.entries, ∀ entry ∈ group.2.entries,
        returned (CallOrder.typesCall group.1 entry) =
          config.layout.apiPackage group.1 entry.1 := by
      intro group inTable entry inGroup
      have called : CallOrder.typesCall group.1 entry ∈ CallOrder.runCalls config returned output :=
        typesCall_mem_runCalls sound inTable inGroup
      rw [← calls, Process.calls_eq_exchanges] at called
      obtain ⟨exchange, member, same⟩ := List.mem_map.mp called
      obtain ⟨reached, reply⟩ := Process.answered_of_mem_exchanges member
      rw [agree exchange member, same] at reply
      exact types _ _ _ _ _ reply
    have listed := apiPackages_eq placed
    refine ⟨?_, ?_, config.table_wellPlaced.ascending, impliedPackages_subset, ?_⟩
    · intro packages
      rw [calls, register_mem_runCalls sound, listed]
    · rw [reported]
      exact listed
    · apply ApiPackages.unique_append_of_subset
      exact List.Subset.trans impliedPackages_subset (List.subset_append_right _ _)

theorem networks_registers :
    let base := networks.base.apiVersions.map networks.layout.package
    let expected := base ++ networks.versionPackages ++ networks.impliedPackages
    (∀ group version resources reached package,
      (Process.placing networks.layout (.types group version resources) reached).1 = .ok package →
        package = networks.layout.apiPackage group version) ∧
    ∃ summary,
      ((networks.generation ⟨"/out"⟩).run (Process.placing networks.layout) ()).1 = .ok summary ∧
      (∀ packages, .register packages ∈
          (networks.generation ⟨"/out"⟩).calls (Process.placing networks.layout) () ↔
        packages = expected) ∧
      summary.apiPackages = expected ∧ networks.table.Ascending ∧
      networks.impliedPackages ⊆ networks.versionPackages ∧
      ApiPackages.unique expected = (base ++ networks.versionPackages).eraseDups :=
  have types : ∀ group version resources reached package,
      (Process.placing networks.layout (.types group version resources) reached).1 = .ok package →
        package = networks.layout.apiPackage group version :=
    fun _ _ _ _ _ reply => (Except.ok.inj reply).symm
  ⟨types, _, rfl, generation_registers networks ⟨"/out"⟩ _ types () _ rfl⟩

example : networks.impliedPackages = [
    "example.org/provider/apis/aws/v1", "example.org/provider/apis/ec2/v2",
    "example.org/provider/apis/ec2/v1", "example.org/provider/apis/ec2/v2",
    "example.org/provider/apis/ec2/v1"] := by
  rfl

end Config

end ProviderGen
