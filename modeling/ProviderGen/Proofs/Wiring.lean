import ProviderGen.Proofs.BaseControllers
import ProviderGen.Proofs.RegisteredPackages
import ProviderGen.Proofs.TableContents

/-!
What a run wires in, and that a further resource takes nothing away. Where types and controllers are
returned as their places in the layout, the registered packages and the controllers under each key
are told by the resources of the table, and a resource under a key of its own only adds to these.
-/

namespace ProviderGen

namespace ResourceTable

variable {rootGroup : String} {before after : List Resource} {added : Resource}

theorem lastWithKey?_insert {key : ResourceKey} (other : added.key rootGroup ≠ key) :
    lastWithKey? rootGroup (before ++ added :: after) key =
      lastWithKey? rootGroup (before ++ after) key := by
  unfold lastWithKey?
  rw [List.reverse_append, List.reverse_append, List.reverse_cons, List.append_assoc,
    List.find?_append, List.find?_append, List.find?_append, List.find?_singleton,
    if_neg (by simpa using other), Option.none_or]

theorem resources_subset_of_fresh
    (fresh : (ofResources (before ++ after) rootGroup).find? (added.apiGroup rootGroup)
      added.version added.name = none) :
    (ofResources (before ++ after) rootGroup).resources ⊆
      (ofResources (before ++ added :: after) rootGroup).resources := by
  intro resource member
  rw [mem_resources_ofResources_iff] at member ⊢
  have free : lastWithKey? rootGroup (before ++ after) (added.key rootGroup) = none :=
    (find?_ofResources (before ++ after) (added.key rootGroup)).symm.trans fresh
  have other : added.key rootGroup ≠ resource.key rootGroup := by
    intro same
    rw [same, member] at free
    cases free
  rw [lastWithKey?_insert other, member]

theorem versionKeys_subset :
    (ofResources (before ++ after) rootGroup).versionKeys ⊆
      (ofResources (before ++ added :: after) rootGroup).versionKeys := by
  intro place member
  rw [mem_versionKeys_iff] at member ⊢
  refine List.map_subset _ ?_ member
  exact ((List.Sublist.refl before).append (List.sublist_cons_self added after)).subset

end ResourceTable

namespace ControllerMap

theorem find?_insertAll_of_subset {insertions more : List (String × String)}
    (subset : insertions ⊆ more) {key : String} {packages : List String}
    (present : (empty.insertAll insertions).find? key = some packages) :
    ∃ kept, (empty.insertAll more).find? key = some kept ∧ packages ⊆ kept ∧
      packages ⊆ (empty.insertAll more).monolith := by
  rw [find?_insertAll_empty, listed_eq_some_iff] at present
  obtain ⟨nonempty, rfl⟩ := present
  have grown : packagesFor key insertions ⊆ packagesFor key more := by
    unfold packagesFor packagesUnder
    split
    · exact List.map_subset _ subset
    · exact List.map_subset _ (List.filter_subset _ subset)
  obtain ⟨package, member⟩ := List.exists_mem_of_ne_nil _ nonempty
  have found : (empty.insertAll more).find? key = some (packagesFor key more).eraseDups := by
    rw [find?_insertAll_empty, listed_eq_some_iff]
    exact ⟨List.ne_nil_of_mem (grown member), rfl⟩
  have kept : (packagesFor key insertions).eraseDups ⊆ (packagesFor key more).eraseDups := by
    intro package member
    rw [List.mem_eraseDups] at member ⊢
    exact grown member
  exact ⟨_, found, kept, List.Subset.trans kept (insertAll_empty_covered found).2⟩

end ControllerMap

/-- Types and controllers are returned as the packages in which a layout places them. -/
structure Process.Places {σ : Type} (layout : Layout) (answer : Call → σ → Answer × σ) : Prop where
  types : ∀ group version resources reached package,
    (answer (.types group version resources) reached).1 = .ok package →
      package = layout.apiPackage group version
  controllers : ∀ group resource watched features? reached package,
    (answer (.controller group resource watched features?) reached).1 = .ok package →
      package = layout.controllerPackage group resource.kind

theorem Process.placing_places (layout : Layout) : Places layout (placing layout) where
  types := fun _ _ _ _ _ reply => (Except.ok.inj reply).symm
  controllers := fun _ _ _ _ _ _ reply => (Except.ok.inj reply).symm

/-- Among the calls of a run, those that register and set up are about what it reports. -/
structure Summary.Wired (summary : Summary) (calls : List Call) : Prop where
  registration : ∀ packages, .register packages ∈ calls ↔ packages = summary.apiPackages
  setup : ∀ controllers, (∃ template?, .setup controllers template? ∈ calls) ↔
    controllers = summary.controllers

namespace Config

variable (config : Config)

def placedPackages : ApiPackages :=
  config.base.apiVersions.map config.layout.package ++ config.versionPackages ++
    config.impliedPackages

def placedController (resource : Resource) : String × String :=
  let group := resource.apiGroup config.rootGroup
  (groupLabel group, config.layout.controllerPackage group resource.kind)

def placedControllers : List (String × String) :=
  config.base.keyed config.layout ++
    (config.base.keyless config.layout).map (fun package => (configKey, package)) ++
      config.table.resources.map config.placedController

variable {config} {returned : Call → String} {output : HostPath}

theorem versionPackages_eq : config.versionPackages =
    config.table.versionKeys.map fun place => config.layout.apiPackage place.1 place.2 := by
  unfold versionPackages ResourceTable.versionKeys
  rw [List.map_flatMap]
  refine List.flatMap_congr fun group _ => ?_
  rw [List.map_map]
  rfl

theorem controllerCall_mem_runCalls (sound : CallOrder.firstFault? config = none)
    {group : String × GroupVersions} {entry : String × Bucket} {resource : Resource}
    (inTable : group ∈ config.table.groups.entries) (inGroup : entry ∈ group.2.entries)
    (inBucket : resource ∈ entry.2.values) :
    CallOrder.controllerCall config returned group.1 entry resource ∈
      CallOrder.runCalls config returned output := by
  rw [CallOrder.runCalls_of_sound sound]
  apply List.mem_append_left
  apply List.mem_flatMap.mpr
  refine ⟨group, inTable, List.mem_append_left _ (List.mem_flatMap.mpr ⟨entry, inGroup, ?_⟩)⟩
  exact List.mem_cons_of_mem _ (List.mem_flatMap.mpr ⟨resource, inBucket, List.mem_cons_self⟩)

theorem setup_mem_runCalls (sound : CallOrder.firstFault? config = none)
    {controllers : ControllerMap} :
    (∃ template?, .setup controllers template? ∈ CallOrder.runCalls config returned output) ↔
      controllers = CallOrder.controllers config returned := by
  unfold CallOrder.runCalls
  simp only [sound, List.mem_append]
  constructor
  · rintro ⟨template?, inGroups | closing⟩
    · obtain ⟨entry, _, label⟩ :=
        CallOrder.exists_group_of_mem_groupCalls config.table_wellPlaced inGroups
      cases label
    · simp only [CallOrder.closingCalls, List.mem_cons, reduceCtorEq, Call.setup.injEq,
        List.not_mem_nil, or_false, false_or] at closing
      exact closing.1
  · rintro rfl
    exact ⟨config.mainTemplate?, .inr (.tail _ (.tail _ (.head _)))⟩

theorem controllers_eq (placed : ∀ group ∈ config.table.groups.entries,
      ∀ entry ∈ group.2.entries, ∀ resource ∈ entry.2.values,
        returned (CallOrder.controllerCall config returned group.1 entry resource) =
          config.layout.controllerPackage group.1 resource.kind) :
    CallOrder.controllers config returned =
      ControllerMap.empty.insertAll config.placedControllers := by
  have generated : (config.table.groups.entries.flatMap fun group => group.2.entries.flatMap
      (CallOrder.keyedControllers config returned group.1)) =
        config.table.resources.map config.placedController := by
    -- Both sides walk groups, versions and names alike and are compared one resource at a time.
    unfold ResourceTable.resources GroupVersions.resources OrderedMap.values
    simp only [List.map_flatMap, List.flatMap_map]
    refine List.flatMap_congr fun group inTable => List.flatMap_congr fun entry inGroup => ?_
    refine List.map_congr_left fun resource inBucket => ?_
    have member : resource ∈ group.2.resources :=
      List.mem_flatMap.mpr ⟨entry.2, List.mem_map_of_mem inGroup, inBucket⟩
    have owner := ResourceTable.apiGroup_of_mem_resources (config.table_wellPlaced group inTable)
      member
    rw [placed group inTable entry inGroup resource inBucket, placedController, owner]
  unfold CallOrder.controllers placedControllers
  rw [generated, ControllerMap.ofBase_eq_insertAll]
  exact List.foldl_append.symm

variable {σ : Type} {answer : Call → σ → Answer × σ} {state : σ} {summary : Summary}

theorem listed_of_success
    (success : ((config.generation output).run answer state).1 = .ok summary) :
    CallOrder.firstFault? config = none ∧ ∃ returned : Call → String,
      (config.generation output).calls answer state = CallOrder.runCalls config returned output ∧
      summary = CallOrder.summary config returned ∧
      ∀ call ∈ CallOrder.runCalls config returned output,
        ∃ reached, (answer call reached).1 = .ok (returned call) := by
  have valid : config.validate = .ok () := by
    cases checked : config.validate with
    | error cause =>
      rw [generation_of_invalid checked] at success
      cases success
    | ok => rfl
  have succeeded := (config.generation_failFast output).succeeded_of_run success
  obtain ⟨returned, agree, calls, result⟩ := exists_listed valid output succeeded
  rw [success] at result
  unfold CallOrder.outcome at result
  cases sound : CallOrder.firstFault? config with
  | some fault =>
    rw [sound] at result
    cases result
  | none =>
    rw [sound] at result
    refine ⟨rfl, returned, calls, Except.ok.inj result, fun call called => ?_⟩
    rw [← calls, Process.calls_eq_exchanges] at called
    obtain ⟨exchange, member, rfl⟩ := List.mem_map.mp called
    obtain ⟨reached, reply⟩ := Process.answered_of_mem_exchanges member
    exact ⟨reached, reply.trans (agree exchange member)⟩

/-- A successful run with placed answers wires in the placed packages and controllers. -/
theorem wired_of_success (places : Process.Places config.layout answer)
    (success : ((config.generation output).run answer state).1 = .ok summary) :
    summary.Wired ((config.generation output).calls answer state) ∧
      summary.apiPackages = config.placedPackages ∧
      summary.controllers = ControllerMap.empty.insertAll config.placedControllers := by
  obtain ⟨sound, returned, calls, rfl, answered⟩ := listed_of_success success
  refine ⟨⟨fun packages => ?registration, fun controllers => ?setup⟩, ?packages, ?controllers⟩
  case registration =>
    rw [calls]
    exact register_mem_runCalls sound
  case setup =>
    rw [calls]
    exact setup_mem_runCalls sound
  case packages =>
    refine apiPackages_eq fun group inTable entry inGroup => ?_
    obtain ⟨reached, reply⟩ := answered _ (typesCall_mem_runCalls sound inTable inGroup)
    exact places.types _ _ _ _ _ reply
  case controllers =>
    refine controllers_eq fun group inTable entry inGroup resource inBucket => ?_
    obtain ⟨reached, reply⟩ :=
      answered _ (controllerCall_mem_runCalls sound inTable inGroup inBucket)
    exact places.controllers _ _ _ _ _ _ reply

/-! ### A further resource -/

section Growth

variable {before after : List Resource} {added : Resource}

theorem placedPackages_subset (listed : config.resources = before ++ after) :
    config.placedPackages ⊆
      ApiPackages.unique { config with resources := before ++ added :: after }.placedPackages := by
  have versions : config.versionPackages ⊆
      { config with resources := before ++ added :: after }.versionPackages := by
    rw [versionPackages_eq, versionPackages_eq]
    apply List.map_subset
    unfold Config.table
    rw [listed]
    exact ResourceTable.versionKeys_subset
  rw [ApiPackages.unique_eq_eraseDups]
  intro package member
  rw [List.mem_eraseDups]
  -- Nothing implied is new, so all that was registered is found before what is implied now.
  apply List.mem_append_left
  rcases List.mem_append.mp member with known | implied
  · rcases List.mem_append.mp known with base | generated
    · exact List.mem_append_left _ base
    · exact List.mem_append_right _ (versions generated)
  · exact List.mem_append_right _ (versions (impliedPackages_subset implied))

theorem placedControllers_subset (listed : config.resources = before ++ after)
    (fresh : config.table.find? (added.apiGroup config.rootGroup) added.version added.name = none) :
    config.placedControllers ⊆
      { config with resources := before ++ added :: after }.placedControllers := by
  unfold Config.table at fresh
  rw [listed] at fresh
  have resources : config.table.resources ⊆
      { config with resources := before ++ added :: after }.table.resources := by
    unfold Config.table
    rw [listed]
    exact ResourceTable.resources_subset_of_fresh fresh
  exact List.append_subset.mpr ⟨List.subset_append_left _ _,
    List.Subset.trans (List.map_subset _ resources) (List.subset_append_right _ _)⟩

end Growth

/-- Adding a resource under a key that is still free, at any place, unwires nothing: if the runs
before and after succeed, then what was registered is still among the packages without repeats, and
the controllers under each key are still under that key and under the monolith key. -/
theorem generation_keeps_wired {τ : Type} (config : Config) (before after : List Resource)
    (added : Resource) (listed : config.resources = before ++ after)
    (fresh : config.table.find? (added.apiGroup config.rootGroup) added.version added.name = none)
    (output later : HostPath) (answer : Call → σ → Answer × σ) (state : σ)
    (answerLater : Call → τ → Answer × τ) (stateLater : τ)
    (places : Process.Places config.layout answer)
    (placesLater : Process.Places config.layout answerLater) (summary grown : Summary) :
    let run := config.generation output
    let runLater := { config with resources := before ++ added :: after }.generation later
    (run.run answer state).1 = .ok summary →
    (runLater.run answerLater stateLater).1 = .ok grown →
      summary.Wired (run.calls answer state) ∧
      grown.Wired (runLater.calls answerLater stateLater) ∧
      summary.apiPackages ⊆ ApiPackages.unique grown.apiPackages ∧
      ∀ key packages, summary.controllers.find? key = some packages →
        ∃ kept, grown.controllers.find? key = some kept ∧ packages ⊆ kept ∧
          packages ⊆ grown.controllers.monolith := by
  intro run runLater success successLater
  obtain ⟨wired, packages, controllers⟩ := wired_of_success places success
  have placesGrown : Process.Places
      { config with resources := before ++ added :: after }.layout answerLater := placesLater
  obtain ⟨wiredLater, packagesLater, controllersLater⟩ :=
    wired_of_success placesGrown successLater
  refine ⟨wired, wiredLater, ?_, fun key present found => ?_⟩
  · rw [packages, packagesLater]
    exact placedPackages_subset listed
  · rw [controllers] at found
    rw [controllersLater]
    exact ControllerMap.find?_insertAll_of_subset (placedControllers_subset listed fresh) found

def certificate : Resource where
  name := "certificate"
  shortGroup := "ACM"
  version := "v1"
  kind := "Certificate"

theorem networks_keep_wired :
    let before := networks.resources.take 1
    let after := networks.resources.drop 1
    let more := { networks with resources := before ++ certificate :: after }
    let run := networks.generation ⟨"/out"⟩
    let runLater := more.generation ⟨"/out"⟩
    let answer := Process.placing networks.layout
    networks.resources = before ++ after ∧
    networks.table.find? (certificate.apiGroup networks.rootGroup) certificate.version
      certificate.name = none ∧
    Process.Places networks.layout answer ∧
    ∃ summary grown, (run.run answer ()).1 = .ok summary ∧ (runLater.run answer ()).1 = .ok grown ∧
      summary.Wired (run.calls answer ()) ∧ grown.Wired (runLater.calls answer ()) ∧
      summary.apiPackages ⊆ ApiPackages.unique grown.apiPackages ∧
      ∀ key packages, summary.controllers.find? key = some packages →
        ∃ kept, grown.controllers.find? key = some kept ∧ packages ⊆ kept ∧
          packages ⊆ grown.controllers.monolith :=
  have places := Process.placing_places networks.layout
  ⟨rfl, by decide, places, _, _, rfl, rfl,
    generation_keeps_wired networks _ _ certificate rfl (by decide) ⟨"/out"⟩ ⟨"/out"⟩ _ () _ ()
      places places _ _ rfl rfl⟩

end Config

end ProviderGen
