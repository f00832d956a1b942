import ProviderGen.Generation.Run
import ProviderGen.Proofs.Process

/-!
The calls of a run in which nothing fails, and what it reports. They are listed from the table of
the configuration and the packages that are returned, without following the run step by step; a
run makes exactly these calls.
-/

namespace ProviderGen

namespace CallOrder

variable (config : Config) (returned : Call → String)

def typesCall (group : String) (entry : String × Bucket) : Call :=
  .types group entry.1 entry.2.values

/-- A controller watches the package just returned if it is of the watched version, and else the
place where the watched version belongs. -/
def controllerCall (group : String) (entry : String × Bucket) (resource : Resource) : Call :=
  .controller group resource
    (if resource.watchVersion = entry.1 then returned (typesCall group entry)
      else config.layout.apiPackage group resource.watchVersion)
    config.featuresPackagePath?

def versionCalls (group : String) (entry : String × Bucket) : List Call :=
  typesCall group entry :: entry.2.values.flatMap fun resource =>
    [controllerCall config returned group entry resource, .manifest group entry.1 resource]

def conversionCall? (kind : NodeKind) (group : String) (entry : String × Bucket) : Option Call :=
  match entry.2.values.filter (kind.covers · entry.1) with
  | [] => none
  | nodes => some (.conversion group entry.1 kind nodes)

def conversionCalls (kind : NodeKind) (entry : String × GroupVersions) : List Call :=
  entry.2.entries.filterMap (conversionCall? kind entry.1)

def hubFault? (entry : String × GroupVersions) : Option HubFault :=
  (GroupConversions.ofVersions entry.1 entry.2).hubFault?

/-- The calls for groups one after the other. A group with a fault still gets the calls of its
versions; nothing comes after them. -/
def groupCalls : List (String × GroupVersions) → List Call
  | [] => []
  | entry :: rest =>
    entry.2.entries.flatMap (versionCalls config returned entry.1) ++
      match hubFault? entry with
      | some _ => []
      | none => conversionCalls .hub entry ++ conversionCalls .spoke entry ++ groupCalls rest

def firstFault? : Option HubFault := config.table.groups.entries.findSome? hubFault?

def generatedPackages : List String :=
  config.table.groups.entries.flatMap fun group =>
    group.2.entries.map fun entry => returned (typesCall group.1 entry)

def apiPackages : ApiPackages :=
  config.base.apiVersions.map config.layout.package ++ generatedPackages config returned ++
    config.table.groups.entries.flatMap fun group =>
      ApiPackages.ofConversions config.layout (.ofVersions group.1 group.2) config.table

def keyedControllers (group : String) (entry : String × Bucket) : List (String × String) :=
  entry.2.values.map fun resource =>
    (groupLabel group, returned (controllerCall config returned group entry resource))

def controllers : ControllerMap :=
  (config.table.groups.entries.flatMap fun group =>
    group.2.entries.flatMap (keyedControllers config returned group.1)).foldl
      (fun map entry => map.insert entry.1 entry.2) (.ofBase config.layout config.base)

def closingCalls (output : HostPath) : List Call :=
  [.store, .register (apiPackages config returned),
    .setup (controllers config returned) config.mainTemplate?,
    .format (output.join "apis"), .format (output.join "internal")]

def runCalls (output : HostPath) : List Call :=
  groupCalls config returned config.table.groups.entries ++
    match firstFault? config with
    | some _ => []
    | none => closingCalls config returned output

def summary : Summary where
  resources := config.table.resourceCount
  groups := config.table.groupCount
  versions := config.table.versionCount
  apiPackages := apiPackages config returned
  controllers := controllers config returned

def outcome : Except RunFailure Summary :=
  match firstFault? config with
  | some fault => .error (.hubs fault)
  | none => .ok (summary config returned)

theorem check_eq (entry : String × GroupVersions) :
    GroupConversions.check entry.1 entry.2 =
      match hubFault? entry with
      | some fault => .error (.hubs fault)
      | none => .ok (.ofVersions entry.1 entry.2) := rfl

theorem conversionCall?_eq_some_iff {kind : NodeKind} {group : String} {entry : String × Bucket}
    {c : Call} : conversionCall? kind group entry = some c ↔
      entry.2.values.filter (kind.covers · entry.1) ≠ [] ∧
        c = .conversion group entry.1 kind (entry.2.values.filter (kind.covers · entry.1)) := by
  unfold conversionCall?
  cases covered : entry.2.values.filter (kind.covers · entry.1) with
  | nil => simp
  | cons node rest => simp [eq_comm]

end CallOrder

/-- What a part of a run adds to its progress. -/
structure Gain where
  count : Nat
  generated : List String
  controllers : List (String × String)
  conversions : List GroupConversions

def Gain.total (gains : List Gain) : Gain where
  count := gains.foldr (fun gain count => gain.count + count) 0
  generated := gains.flatMap Gain.generated
  controllers := gains.flatMap Gain.controllers
  conversions := gains.flatMap Gain.conversions

theorem Gain.total_cons (gain : Gain) (gains : List Gain) :
    total (gain :: gains) = ⟨gain.count + (total gains).count,
      gain.generated ++ (total gains).generated, gain.controllers ++ (total gains).controllers,
      gain.conversions ++ (total gains).conversions⟩ := rfl

namespace Progress

def add (progress : Progress) (gain : Gain) : Progress where
  count := progress.count + gain.count
  generated := progress.generated ++ gain.generated
  controllers := gain.controllers.foldl (fun map entry => map.insert entry.1 entry.2)
    progress.controllers
  conversions := progress.conversions ++ gain.conversions

theorem add_total_nil (progress : Progress) : progress.add (.total []) = progress := by
  simp [add, Gain.total]

theorem add_total_cons (progress : Progress) (gain : Gain) (gains : List Gain) :
    progress.add (.total (gain :: gains)) = (progress.add gain).add (.total gains) := by
  simp [add, Gain.total, Nat.add_assoc]

theorem foldl_add {α : Type} (gain : α → Gain) (items : List α) (progress : Progress) :
    items.foldl (fun progress item => progress.add (gain item)) progress =
      progress.add (.total (items.map gain)) := by
  induction items generalizing progress with
  | nil => exact (add_total_nil progress).symm
  | cons item rest ih => rw [List.foldl_cons, ih, List.map_cons, add_total_cons]

end Progress

namespace Generation

open CallOrder Process

variable (config : Config) (returned : Call → String)

def resourceGain (group : String) (entry : String × Bucket) (resource : Resource) : Gain where
  count := 0
  generated := []
  controllers :=
    [(groupLabel group, returned (controllerCall config returned group entry resource))]
  conversions := []

def versionGain (group : String) (entry : String × Bucket) : Gain where
  count := entry.2.values.length
  generated := [returned (typesCall group entry)]
  controllers := keyedControllers config returned group entry
  conversions := []

def groupGain (entry : String × GroupVersions) : Gain where
  count := entry.2.resources.length
  generated := entry.2.entries.map fun version => returned (typesCall entry.1 version)
  controllers := entry.2.entries.flatMap (keyedControllers config returned entry.1)
  conversions := [.ofVersions entry.1 entry.2]

theorem total_resourceGain (group : String) (entry : String × Bucket) :
    Gain.total (entry.2.values.map (resourceGain config returned group entry)) =
      ⟨0, [], keyedControllers config returned group entry, []⟩ := by
  unfold keyedControllers
  induction entry.2.values with
  | nil => rfl
  | cons resource rest ih =>
    rw [List.map_cons, Gain.total_cons, ih]
    rfl

theorem total_versionGain (group : String) (versions : GroupVersions) :
    Gain.total (versions.entries.map (versionGain config returned group)) =
      ⟨versions.resources.length,
        versions.entries.map fun version => returned (typesCall group version),
        versions.entries.flatMap (keyedControllers config returned group), []⟩ := by
  unfold GroupVersions.resources OrderedMap.values
  induction versions.entries with
  | nil => rfl
  | cons entry rest ih =>
    rw [List.map_cons, Gain.total_cons, ih, List.map_cons, List.flatMap_cons, List.length_append]
    rfl

theorem follow_resourceStep (group : String) (entry : String × Bucket) (progress : Progress)
    (resource : Resource) :
    (resourceStep config group entry.1 (returned (typesCall group entry)) progress
      resource).follow returned =
      ([controllerCall config returned group entry resource, .manifest group entry.1 resource],
        .ok (progress.add (resourceGain config returned group entry resource))) := by
  refine follow_ask_bind ?_
  refine follow_ask_bind ?_
  simp only [follow_pure, Progress.add, resourceGain, Nat.add_zero, List.append_nil,
    List.foldl_cons, List.foldl_nil]
  rfl

theorem follow_versionStep (group : String) (progress : Progress) (entry : String × Bucket) :
    (versionStep config group progress entry).follow returned =
      (versionCalls config returned group entry,
        .ok (progress.add (versionGain config returned group entry))) := by
  have resources := follow_foldlM (follow_resourceStep config returned group entry)
    entry.2.values progress
  rw [Progress.foldl_add, total_resourceGain] at resources
  refine follow_ask_bind ?_
  refine follow_bind_silent resources ?_
  simp only [follow_pure, Progress.add, versionGain, Nat.add_zero, List.append_nil]
  rfl

theorem follow_conversions (group : String) (versions : GroupVersions) (kind : NodeKind) :
    ((versions.nodes kind).forM (conversionStep group kind)).follow returned =
      (conversionCalls kind (group, versions), .ok ()) := by
  have each (nodes : String × List Resource) :
      (conversionStep group kind nodes).follow returned =
        ([.conversion group nodes.1 kind nodes.2], .ok ()) := rfl
  rw [follow_forM each, ← List.map_eq_flatMap]
  unfold GroupVersions.nodes conversionCalls
  rw [List.map_filterMap]
  congr 2
  funext entry
  unfold conversionCall?
  cases covered : entry.2.values.filter (kind.covers · entry.1) <;> simp [covered]

theorem follow_groupStep (progress : Progress) (entry : String × GroupVersions) :
    (groupStep config progress entry).follow returned =
      match hubFault? entry with
      | some fault => (entry.2.entries.flatMap (versionCalls config returned entry.1),
          .error (.hubs fault))
      | none => (entry.2.entries.flatMap (versionCalls config returned entry.1) ++
          (conversionCalls .hub entry ++ conversionCalls .spoke entry),
          .ok (progress.add (groupGain config returned entry))) := by
  have versions := follow_foldlM (follow_versionStep config returned entry.1)
    entry.2.entries progress
  rw [Progress.foldl_add, total_versionGain] at versions
  cases found : hubFault? entry with
  | some fault =>
    refine follow_bind_silent versions ?_
    rw [check_eq, found]
    rfl
  | none =>
    refine follow_bind versions ?_
    rw [check_eq, found]
    refine follow_bind (follow_conversions returned entry.1 entry.2 .hub) ?_
    refine follow_bind_silent (follow_conversions returned entry.1 entry.2 .spoke) ?_
    simp only [follow_pure, Progress.add, groupGain, List.append_nil]

theorem follow_groups (entries : List (String × GroupVersions)) (progress : Progress) :
    (entries.foldlM (groupStep config) progress).follow returned =
      (groupCalls config returned entries,
        match entries.findSome? hubFault? with
        | some fault => .error (.hubs fault)
        | none => .ok (progress.add (.total (entries.map (groupGain config returned))))) := by
  induction entries generalizing progress with
  | nil =>
    rw [List.map_nil, Progress.add_total_nil]
    rfl
  | cons entry rest ih =>
    have first := follow_groupStep config returned progress entry
    rw [List.foldlM_cons]
    unfold groupCalls
    cases found : hubFault? entry with
    | some fault =>
      rw [found] at first
      rw [follow_bind_failed first, List.findSome?_cons, found, List.append_nil]
    | none =>
      rw [found] at first
      rw [follow_bind first (ih _), List.findSome?_cons, found, List.map_cons,
        Progress.add_total_cons, List.append_assoc]

theorem follow_finish (output : HostPath) (progress : Progress) :
    (finish config output progress).follow returned =
      ([.store, .register (registered config progress),
        .setup progress.controllers config.mainTemplate?,
        .format (output.join "apis"), .format (output.join "internal")],
        .ok {
          resources := progress.count
          groups := config.table.groupCount
          versions := config.table.versionCount
          apiPackages := registered config progress
          controllers := progress.controllers }) := rfl

def completed : Progress :=
  (start config).add (.total (config.table.groups.entries.map (groupGain config returned)))

theorem completed_count : (completed config returned).count = config.table.resourceCount := by
  change 0 + _ = (config.table.groups.values.flatMap GroupVersions.resources).length
  unfold OrderedMap.values
  induction config.table.groups.entries with
  | nil => rfl
  | cons entry rest ih =>
    rw [Nat.zero_add] at ih ⊢
    rw [List.map_cons, Gain.total_cons, List.map_cons, List.flatMap_cons, List.length_append, ih]
    rfl

theorem completed_registered :
    registered config (completed config returned) = apiPackages config returned := by
  have generated : (completed config returned).generated =
      config.base.apiVersions.map config.layout.package ++ generatedPackages config returned := by
    change _ ++ List.flatMap _ (List.map _ _) = _
    rw [List.flatMap_map]
    rfl
  have conversions : (completed config returned).conversions =
      config.table.groups.entries.map fun group => .ofVersions group.1 group.2 := by
    change [] ++ List.flatMap _ (List.map _ _) = _
    rw [List.flatMap_map, List.nil_append, List.map_eq_flatMap]
    rfl
  unfold registered apiPackages
  rw [generated, conversions, List.flatMap_map]

theorem completed_controllers :
    (completed config returned).controllers = controllers config returned := by
  change List.foldl _ _ (List.flatMap _ (List.map _ _)) = _
  rw [List.flatMap_map]
  rfl

end Generation

open CallOrder in
/-- A valid configuration whose calls all succeed makes the listed calls, with the listed
outcome. -/
theorem Config.follow_generation {config : Config} (valid : config.validate = .ok ())
    (returned : Call → String) (output : HostPath) :
    (config.generation output).follow returned =
      (runCalls config returned output, outcome config returned) := by
  have groups := Generation.follow_groups config returned config.table.groups.entries
    (Generation.start config)
  unfold Config.generation runCalls outcome firstFault?
  rw [valid]
  cases found : config.table.groups.entries.findSome? hubFault? with
  | some fault =>
    rw [found] at groups
    rw [List.append_nil]
    exact Process.follow_bind_failed groups
  | none =>
    rw [found] at groups
    have closing := Generation.follow_finish config returned output
      (Generation.completed config returned)
    rw [Generation.completed_count, Generation.completed_registered,
      Generation.completed_controllers] at closing
    exact Process.follow_bind groups closing

end ProviderGen
