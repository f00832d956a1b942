import ProviderGen.Proofs.HubSpoke
import ProviderGen.Proofs.RunTrace

/-!
A plan tells what a run will do. Both refuse the same configurations for the same reason, and a
plan that is made shows the conversions for which the run makes its calls.
-/

namespace ProviderGen

namespace CallOrder

def nodesOf (kind : NodeKind) (versions : GroupVersions) : List (String × List Resource) :=
  (versions.entries.map fun entry =>
    (entry.1, entry.2.values.filter (kind.covers · entry.1))).filter (·.2 ≠ [])

def conversionsMade (group : String) (kind : NodeKind) (calls : List Call) :
    List (String × List Resource) :=
  calls.filterMap fun
    | .conversion inGroup version ofKind nodes =>
      if inGroup = group ∧ ofKind = kind then some (version, nodes) else none
    | _ => none

variable {config : Config} {returned : Call → String}

theorem mem_nodesOf {kind : NodeKind} {versions : GroupVersions} {version : String}
    {nodes : List Resource} :
    (version, nodes) ∈ nodesOf kind versions ↔ ∃ bucket, (version, bucket) ∈ versions.entries ∧
      nodes = bucket.values.filter (kind.covers · version) ∧ nodes ≠ [] := by
  unfold nodesOf
  rw [List.mem_filter, List.mem_map]
  constructor
  · rintro ⟨⟨entry, inGroup, same⟩, nonempty⟩
    obtain ⟨rfl, rfl⟩ := Prod.mk.inj same
    exact ⟨entry.2, inGroup, rfl, of_decide_eq_true nonempty⟩
  · rintro ⟨bucket, inGroup, rfl, nonempty⟩
    exact ⟨⟨(version, bucket), inGroup, rfl⟩, decide_eq_true nonempty⟩

theorem conversionsMade_append (group : String) (kind : NodeKind) (first second : List Call) :
    conversionsMade group kind (first ++ second) =
      conversionsMade group kind first ++ conversionsMade group kind second :=
  List.filterMap_append

theorem conversionsMade_versions (group : String) (kind : NodeKind)
    (entry : String × GroupVersions) :
    conversionsMade group kind
      (entry.2.entries.flatMap (versionCalls config returned entry.1)) = [] := by
  apply List.filterMap_eq_nil_iff.mpr
  intro c member
  obtain ⟨version, _, member⟩ := List.mem_flatMap.mp member
  rcases mem_versionCalls.mp member with rfl | ⟨resource, _, rfl | rfl⟩
  · rfl
  · rfl
  · rfl

theorem conversionsMade_conversionCalls (group : String) (kind made : NodeKind)
    (entry : String × GroupVersions) :
    conversionsMade group kind (conversionCalls made entry) =
      if entry.1 = group ∧ made = kind then nodesOf kind entry.2 else [] := by
  unfold conversionsMade conversionCalls nodesOf
  rw [List.filterMap_filterMap]
  by_cases wanted : entry.1 = group ∧ made = kind
  · obtain ⟨rfl, rfl⟩ := wanted
    rw [if_pos ⟨rfl, rfl⟩, ← List.filterMap_eq_filter, List.filterMap_map]
    apply List.filterMap_congr
    intro version _
    unfold conversionCall?
    cases covered : version.2.values.filter (made.covers · version.1) <;>
      simp [covered, Option.guard]
  · rw [if_neg wanted]
    apply List.filterMap_eq_nil_iff.mpr
    intro version _
    unfold conversionCall?
    cases covered : version.2.values.filter (made.covers · version.1) with
    | nil => simp
    | cons node rest => simp [wanted]

theorem conversionsMade_ownCalls (group : String) (kind : NodeKind)
    (entry : String × GroupVersions) :
    conversionsMade group kind (ownCalls config returned entry) =
      if entry.1 = group then nodesOf kind entry.2 else [] := by
  unfold ownCalls
  rw [conversionsMade_append, conversionsMade_append, conversionsMade_versions,
    conversionsMade_conversionCalls, conversionsMade_conversionCalls, List.nil_append]
  cases kind <;> by_cases wanted : entry.1 = group <;> simp [wanted]

theorem conversionsMade_runCalls (sound : firstFault? config = none) (output : HostPath)
    (group : String) (kind : NodeKind) :
    conversionsMade group kind (runCalls config returned output) =
      ((config.table.group? group).map (nodesOf kind)).getD [] := by
  have closing : conversionsMade group kind (closingCalls config returned output) = [] := rfl
  calc
    conversionsMade group kind (runCalls config returned output)
    _ = conversionsMade group kind
          (config.table.groups.entries.flatMap (ownCalls config returned)) := by
        rw [runCalls_of_sound sound, conversionsMade_append, closing, List.append_nil]
    _ = config.table.groups.entries.flatMap fun entry =>
          conversionsMade group kind (ownCalls config returned entry) := List.filterMap_flatMap
    _ = config.table.groups.entries.flatMap fun entry =>
          if entry.1 = group then nodesOf kind entry.2 else [] := by
        simp only [conversionsMade_ownCalls]
    _ = ((config.table.group? group).map (nodesOf kind)).getD [] :=
        config.table.groups.flatMap_at group (nodesOf kind)

theorem conversion_mem_runCalls (sound : firstFault? config = none) {output : HostPath}
    {group version : String} {kind : NodeKind} {nodes : List Resource} :
    .conversion group version kind nodes ∈ runCalls config returned output ↔
      ∃ versions bucket, (group, versions) ∈ config.table.groups.entries ∧
        (version, bucket) ∈ versions.entries ∧
        nodes = bucket.values.filter (kind.covers · version) ∧ nodes ≠ [] := by
  have listed : .conversion group version kind nodes ∈ runCalls config returned output ↔
      (version, nodes) ∈ conversionsMade group kind (runCalls config returned output) := by
    unfold conversionsMade
    rw [List.mem_filterMap]
    constructor
    · intro member
      exact ⟨_, member, if_pos ⟨rfl, rfl⟩⟩
    · rintro ⟨c, member, made⟩
      cases c with
      | conversion inGroup inVersion ofKind covered =>
        simp only [Option.ite_none_right_eq_some, Option.some.injEq, Prod.mk.injEq] at made
        obtain ⟨⟨rfl, rfl⟩, rfl, rfl⟩ := made
        exact member
      | _ => cases made
  rw [listed, conversionsMade_runCalls sound]
  unfold ResourceTable.group?
  constructor
  · intro member
    cases found : config.table.groups.find? group with
    | none =>
      rw [found] at member
      cases member
    | some versions =>
      rw [found] at member
      obtain ⟨bucket, inGroup, covered, nonempty⟩ := mem_nodesOf.mp member
      exact ⟨versions, bucket, OrderedMap.find?_eq_some_iff.mp found, inGroup, covered, nonempty⟩
  · rintro ⟨versions, bucket, inTable, inGroup, covered, nonempty⟩
    rw [OrderedMap.find?_eq_some_iff.mpr inTable]
    exact mem_nodesOf.mpr ⟨bucket, inGroup, covered, nonempty⟩

theorem mapM_check (entries : List (String × GroupVersions)) :
    (entries.mapM fun entry => GroupConversions.check entry.1 entry.2) =
      match entries.findSome? hubFault? with
      | some fault => .error (.hubs fault)
      | none => .ok (entries.map fun entry => .ofVersions entry.1 entry.2) := by
  induction entries with
  | nil => rfl
  | cons entry rest ih =>
    rw [List.mapM_cons, ih, check_eq, List.findSome?_cons]
    cases hubFault? entry with
    | some fault => rfl
    | none =>
      cases rest.findSome? hubFault? with
      | some fault => rfl
      | none => rfl

def conversions (config : Config) : List GroupConversions :=
  config.table.groups.entries.map fun entry => .ofVersions entry.1 entry.2

end CallOrder

namespace Config

open CallOrder

theorem plan_of_valid {config : Config} (valid : config.validate = .ok ()) :
    config.plan =
      match firstFault? config with
      | some fault => .error (.hubs fault)
      | none => .ok ⟨config.table.resourceCount, config.table, conversions config⟩ := by
  have checks := mapM_check config.table.groups.entries
  unfold plan firstFault?
  rw [valid]
  cases found : config.table.groups.entries.findSome? hubFault? with
  | some fault =>
    rw [found] at checks
    simp only [checks]
  | none =>
    rw [found] at checks
    simp only [checks]
    rfl

/-- A version is in the plan under a node key of a kind exactly if the nodes that the run converts
there have one with this key. -/
theorem planned_iff_converted {config : Config} {returned : Call → String}
    (sound : firstFault? config = none) {output : HostPath} {group key version : String}
    {kind : NodeKind} :
    (∃ planned ∈ conversions config, planned.group = group ∧
        version ∈ (planned.ofKind kind).versionsOf key) ↔
      ∃ nodes, .conversion group version kind nodes ∈ runCalls config returned output ∧
        ∃ resource ∈ nodes, resource.nodeKey = key := by
  constructor
  · rintro ⟨planned, member, rfl, recorded⟩
    obtain ⟨entry, inTable, rfl⟩ := List.mem_map.mp member
    rw [GroupConversions.ofKind_ofVersions, GroupVersions.mem_versionsOf_classify] at recorded
    obtain ⟨bucket, inGroup, resource, present, covered, keyed⟩ := recorded
    have node : resource ∈ bucket.values.filter (kind.covers · version) :=
      List.mem_filter.mpr ⟨present, covered⟩
    have made : .conversion entry.1 version kind _ ∈ runCalls config returned output :=
      (conversion_mem_runCalls sound).mpr
        ⟨entry.2, bucket, inTable, inGroup, rfl, List.ne_nil_of_mem node⟩
    exact ⟨_, made, resource, node, keyed⟩
  · rintro ⟨nodes, made, resource, node, keyed⟩
    obtain ⟨versions, bucket, inTable, inGroup, rfl, _⟩ := (conversion_mem_runCalls sound).mp made
    obtain ⟨present, covered⟩ := List.mem_filter.mp node
    refine ⟨.ofVersions group versions, List.mem_map.mpr ⟨_, inTable, rfl⟩, rfl, ?_⟩
    rw [GroupConversions.ofKind_ofVersions, GroupVersions.mem_versionsOf_classify]
    exact ⟨bucket, inGroup, resource, present, covered, keyed⟩

/-- A plan and a run against collaborators that never fail agree. Both succeed or both fail for one
reason; and a plan that is made tells the numbers of resources and groups, the conversion calls of
each group with their resources, and the versions that are converted under each node key. -/
theorem plan_agrees {σ : Type} (config : Config) (output : HostPath)
    (answer : Call → σ → Answer × σ)
    (obliging : ∀ call state, ∃ package, (answer call state).1 = .ok package) (state : σ) :
    let made := (config.generation output).calls answer state
    let result := ((config.generation output).run answer state).1
    ((∃ plan, config.plan = .ok plan) ↔ ∃ summary, result = .ok summary) ∧
    (∀ failure, config.plan = .error failure ↔ result = .error failure) ∧
    ∀ plan summary, config.plan = .ok plan → result = .ok summary →
      plan.resources = summary.resources ∧ plan.conversions.length = summary.groups ∧
      (∀ group kind, conversionsMade group kind made =
        ((plan.table.group? group).map (nodesOf kind)).getD []) ∧
      ∀ group kind key version,
        (∃ planned ∈ plan.conversions, planned.group = group ∧
            version ∈ (planned.ofKind kind).versionsOf key) ↔
          ∃ nodes, .conversion group version kind nodes ∈ made ∧
            ∃ resource ∈ nodes, resource.nodeKey = key := by
  intro made result
  cases valid : config.validate with
  | error cause =>
    have planned : config.plan = .error (.config cause) := by
      unfold plan
      rw [valid]
    have refused : result = .error (.config cause) := by
      unfold result
      rw [generation_of_invalid valid]
      rfl
    rw [planned, refused]
    refine ⟨⟨nofun, nofun⟩, fun failure => ?_, nofun⟩
    rw [Except.error.injEq, Except.error.injEq]
  | ok =>
    have succeeded := Process.succeeded_of_obliging obliging (config.generation output) state
    obtain ⟨returned, _, calls, reported⟩ := exists_listed valid output succeeded
    change made = runCalls config returned output at calls
    change result = outcome config returned at reported
    unfold outcome at reported
    cases sound : firstFault? config with
    | some fault =>
      have planned : config.plan = .error (.hubs fault) := by rw [plan_of_valid valid, sound]
      have failed : result = .error (.hubs fault) := by rw [reported, sound]
      rw [planned, failed]
      refine ⟨⟨nofun, nofun⟩, fun failure => ?_, nofun⟩
      rw [Except.error.injEq, Except.error.injEq]
    | none =>
      have planned : config.plan =
          .ok ⟨config.table.resourceCount, config.table, conversions config⟩ := by
        rw [plan_of_valid valid, sound]
      have completed : result = .ok (summary config returned) := by rw [reported, sound]
      rw [planned, completed, calls]
      refine ⟨⟨fun _ => ⟨_, rfl⟩, fun _ => ⟨_, rfl⟩⟩, fun _ => ⟨nofun, nofun⟩, ?_⟩
      rintro plan summary same reached
      obtain rfl := Except.ok.inj same
      obtain rfl := Except.ok.inj reached
      refine ⟨rfl, List.length_map _, conversionsMade_runCalls sound output, ?_⟩
      intro group kind key version
      exact planned_iff_converted sound

theorem networks_plan_agrees :
    let made := (networks.generation ⟨"/out"⟩).calls Process.counting 0
    let result := ((networks.generation ⟨"/out"⟩).run Process.counting 0).1
    (∀ call state, ∃ package, (Process.counting call state).1 = .ok package) ∧
    ∃ plan summary, networks.plan = .ok plan ∧ result = .ok summary ∧
      plan.resources = summary.resources ∧ plan.conversions.length = summary.groups ∧
      (∀ group kind, conversionsMade group kind made =
        ((plan.table.group? group).map (nodesOf kind)).getD []) ∧
      ∀ group kind key version,
        (∃ planned ∈ plan.conversions, planned.group = group ∧
            version ∈ (planned.ofKind kind).versionsOf key) ↔
          ∃ nodes, .conversion group version kind nodes ∈ made ∧
            ∃ resource ∈ nodes, resource.nodeKey = key :=
  have obliging : ∀ call state, ∃ package, (Process.counting call state).1 = .ok package :=
    fun _ _ => ⟨_, rfl⟩
  have agreement := plan_agrees networks ⟨"/out"⟩ Process.counting obliging 0
  ⟨obliging, _, _, rfl, rfl, agreement.2.2 _ _ rfl rfl⟩

end Config

end ProviderGen
