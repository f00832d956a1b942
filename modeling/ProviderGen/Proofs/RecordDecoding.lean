import ProviderGen.Proofs.DocumentShape

/-!
The decoders of the records of a configuration. Each succeeds exactly on the tables and arrays whose
fields are of their types, with the record that those describe.
-/

namespace ProviderGen

open Toml (Value)
open Meaning Decoder

namespace ControllerEntry

def assemble (field : String → Except ShapeFault String) : Except ShapeFault ControllerEntry := do
  let package ← field "package"
  let key ← field "key"
  return { package, key }

theorem assemble_eq_ok_iff {field : String → Except ShapeFault String}
    {given : String → List Value} {entry : ControllerEntry}
    (fields : ∀ name held, field name = .ok held ↔ text.Taken none (given name) held) :
    assemble field = .ok entry ↔ Holds given entry := by
  unfold assemble
  simp only [bind_eq_ok_iff, fields]
  constructor
  · rintro ⟨package, first, key, second, same⟩
    cases same
    exact ⟨first, second⟩
  · intro holds
    exact ⟨_, holds.package, _, holds.key, rfl⟩

theorem checked_iff {entries : List (String × Value)} :
    checkEntries (fun key value =>
      if key = "package" || key = "key" then accepts string value else .ok ()) entries = .ok () ↔
        Typed (valuesUnder entries) := by
  rw [checkEntries_known_iff string_decodes]
  simp [Typed, fieldNames]

theorem ofTable_eq (entries : List (String × Value)) : ofTable entries = (do
    checkEntries (fun key value =>
      if key = "package" || key = "key" then accepts string value else .ok ()) entries
    assemble (required entries · string)) := rfl

theorem ofArray_eq (items : List Value) : ofArray items = assemble fun name =>
    requiredItem "struct ControllerMapEntry with 2 elements" items (fieldNames.idxOf name) string :=
  rfl

theorem decode_decodes : Decodes decode means := by
  refine record_decodes (fun entries held => ?table) (fun items held => ?array)
    (fun items held holds => ?alone)
  case table =>
    rw [ofTable_eq, checked_bind_eq_ok_iff, checked_iff, assemble_eq_ok_iff]
    exact fun name held => required_eq_ok_iff string_decodes
  case array =>
    rw [ofArray_eq]
    exact assemble_eq_ok_iff fun name held => requiredItem_eq_ok_iff string_decodes
  case alone =>
    simp only [Typed, fieldNames, List.forall_mem_cons]
    exact ⟨typed_of_taken holds.package, typed_of_taken holds.key, nofun⟩

end ControllerEntry

namespace BasePackages

def assemble (packages : String → Except ShapeFault (Option (List String)))
    (entries : String → Except ShapeFault (Option (List ControllerEntry))) :
    Except ShapeFault BasePackages := do
  let apiVersions ← packages "api_version"
  let controllers ← packages "controller"
  let controllerMap ← entries "controller_map"
  return {
    apiVersions := apiVersions.getD []
    controllers := controllers.getD []
    controllerMap := controllerMap.getD [] }

theorem assemble_eq_ok_iff {packages : String → Except ShapeFault (Option (List String))}
    {entries : String → Except ShapeFault (Option (List ControllerEntry))}
    {given : String → List Value} {base : BasePackages}
    (packageFields : ∀ name found, packages name = .ok found ↔
      text.list.optional.Taken (some none) (given name) found)
    (entryFields : ∀ name found, entries name = .ok found ↔
      ControllerEntry.means.list.optional.Taken (some none) (given name) found) :
    assemble packages entries = .ok base ↔ Holds given base := by
  unfold assemble
  simp only [bind_eq_ok_iff, packageFields, entryFields]
  constructor
  · rintro ⟨apiVersions, first, controllers, second, controllerMap, third, same⟩
    cases same
    exact ⟨taken_some_iff.mpr ⟨_, first, rfl⟩, taken_some_iff.mpr ⟨_, second, rfl⟩,
      taken_some_iff.mpr ⟨_, third, rfl⟩⟩
  · intro holds
    obtain ⟨apiVersions, first, versions⟩ := taken_some_iff.mp holds.apiVersions
    obtain ⟨controllers, second, keyless⟩ := taken_some_iff.mp holds.controllers
    obtain ⟨controllerMap, third, keyed⟩ := taken_some_iff.mp holds.controllerMap
    refine ⟨apiVersions, first, controllers, second, controllerMap, third, ?_⟩
    rw [versions, keyless, keyed]
    rfl

def check (key : String) (value : Value) : Except ShapeFault Unit :=
  if key = "api_version" || key = "controller" then accepts (list string) value
  else if key = "controller_map" then accepts (list ControllerEntry.decode) value
  else .ok ()

theorem checked_iff {entries : List (String × Value)} :
    checkEntries check entries = .ok () ↔ Typed (valuesUnder entries) := by
  have texts := list_decodes string_decodes
  have keyed := list_decodes ControllerEntry.decode_decodes
  rw [checkEntries_eq_ok_iff]
  constructor
  · intro checked
    refine ⟨fun name known value member => ?_, fun value member => ?_⟩
    · have accepted := checked name value member
      rw [check, if_pos (by simpa using known)] at accepted
      exact (accepts_eq_ok_iff texts).mp accepted
    · exact (accepts_eq_ok_iff keyed).mp (checked "controller_map" value member)
  · intro typed key value member
    unfold check
    split
    case isTrue known =>
      exact (accepts_eq_ok_iff texts).mpr (typed.packages key (by simpa using known) value member)
    case isFalse =>
      rw [if_accepts_iff keyed]
      rintro rfl
      exact typed.entries value member

theorem ofTable_eq (entries : List (String × Value)) : ofTable entries = (do
    checkEntries check entries
    assemble (field? entries · (list string)) (field? entries · (list ControllerEntry.decode))) :=
  rfl

theorem ofArray_eq (items : List Value) : ofArray items =
    assemble (fun name => item? items (fieldNames.idxOf name) (list string))
      (fun name => item? items (fieldNames.idxOf name) (list ControllerEntry.decode)) := rfl

theorem decode_decodes : Decodes decode means := by
  have texts := list_decodes string_decodes
  have keyed := list_decodes ControllerEntry.decode_decodes
  refine record_decodes (fun entries held => ?table) (fun items held => ?array)
    (fun items held holds => ?alone)
  case table =>
    rw [ofTable_eq, checked_bind_eq_ok_iff, checked_iff, assemble_eq_ok_iff]
    · exact fun name found => by rw [field?_eq_first?, first?_eq_ok_iff texts]
    · exact fun name found => by rw [field?_eq_first?, first?_eq_ok_iff keyed]
  case array =>
    rw [ofArray_eq]
    apply assemble_eq_ok_iff
    · exact fun name found => by rw [item?_eq_first?, first?_eq_ok_iff texts]
    · exact fun name found => by rw [item?_eq_first?, first?_eq_ok_iff keyed]
  case alone =>
    refine ⟨?_, typed_of_taken holds.controllerMap⟩
    rw [List.forall_mem_cons, List.forall_mem_singleton]
    exact ⟨typed_of_taken holds.apiVersions, typed_of_taken holds.controllers⟩

end BasePackages

namespace Resource

def assemble (required : String → Except ShapeFault String)
    (optional : String → Except ShapeFault (Option String)) : Except ShapeFault Resource := do
  let name ← required "name"
  let group ← optional "group"
  let shortGroup ← optional "short_group"
  let version ← required "version"
  let kind ← required "kind"
  let reconcileVersion? ← optional "controller_reconcile_version"
  let hubVersion? ← optional "hub_version"
  let resourceType? ← optional "terraform_resource_type"
  return {
    name, group := group.getD "", shortGroup := shortGroup.getD "", version, kind,
    reconcileVersion?, hubVersion?, resourceType? }

theorem assemble_eq_ok_iff {required : String → Except ShapeFault String}
    {optional : String → Except ShapeFault (Option String)} {given : String → List Value}
    {resource : Resource}
    (requiredFields : ∀ name held, required name = .ok held ↔ text.Taken none (given name) held)
    (optionalFields : ∀ name found, optional name = .ok found ↔
      text.optional.Taken (some none) (given name) found) :
    assemble required optional = .ok resource ↔ Holds given resource := by
  unfold assemble
  simp only [bind_eq_ok_iff, requiredFields, optionalFields]
  constructor
  · rintro ⟨name, named, group, grouped, shortGroup, labelled, version, versioned, kind, kinded,
      reconcileVersion?, watched, hubVersion?, hub, resourceType?, reported, same⟩
    cases same
    exact ⟨named, taken_some_iff.mpr ⟨_, grouped, rfl⟩, taken_some_iff.mpr ⟨_, labelled, rfl⟩,
      versioned, kinded, watched, hub, reported⟩
  · intro holds
    obtain ⟨group, grouped, sameGroup⟩ := taken_some_iff.mp holds.group
    obtain ⟨shortGroup, labelled, sameLabel⟩ := taken_some_iff.mp holds.shortGroup
    refine ⟨_, holds.name, group, grouped, shortGroup, labelled, _, holds.version, _, holds.kind,
      _, holds.reconcileVersion, _, holds.hubVersion, _, holds.resourceType, ?_⟩
    rw [sameGroup, sameLabel]
    rfl

theorem checked_iff {entries : List (String × Value)} :
    checkEntries (fun key value =>
      if key ∈ fieldNames then accepts string value else .ok ()) entries = .ok () ↔
        Typed (valuesUnder entries) := by
  exact checkEntries_known_iff string_decodes

theorem ofTable_eq (entries : List (String × Value)) : ofTable entries = (do
    checkEntries (fun key value =>
      if key ∈ fieldNames then accepts string value else .ok ()) entries
    assemble (required entries · string) (field? entries · string)) := rfl

theorem ofArray_eq (items : List Value) : ofArray items =
    assemble (fun name => requiredItem "struct ResourceDefinition with 8 elements" items
        (fieldNames.idxOf name) string)
      (fun name => item? items (fieldNames.idxOf name) string) := rfl

theorem decode_decodes : Decodes decode means := by
  refine record_decodes (fun entries held => ?table) (fun items held => ?array)
    (fun items held holds => ?alone)
  case table =>
    rw [ofTable_eq, checked_bind_eq_ok_iff, checked_iff, assemble_eq_ok_iff]
    · exact fun name held => required_eq_ok_iff string_decodes
    · exact fun name found => by rw [field?_eq_first?, first?_eq_ok_iff string_decodes]
  case array =>
    rw [ofArray_eq]
    apply assemble_eq_ok_iff
    · exact fun name held => requiredItem_eq_ok_iff string_decodes
    · exact fun name found => by rw [item?_eq_first?, first?_eq_ok_iff string_decodes]
  case alone =>
    simp only [Typed, fieldNames, List.forall_mem_cons]
    exact ⟨typed_of_taken holds.name, typed_of_taken holds.group, typed_of_taken holds.shortGroup,
      typed_of_taken holds.version, typed_of_taken holds.kind,
      typed_of_optional (typed_of_taken holds.reconcileVersion),
      typed_of_optional (typed_of_taken holds.hubVersion),
      typed_of_optional (typed_of_taken holds.resourceType), nofun⟩

end Resource

namespace Config

theorem checked_iff {entries : List (String × Value)} :
    checkEntries checkEntry entries = .ok () ↔ Typed (valuesUnder entries) := by
  have listed := list_decodes Resource.decode_decodes
  rw [checkEntries_eq_ok_iff]
  constructor
  · intro checked
    refine ⟨fun name known value member => ?texts, fun value member => ?template,
      fun value member => ?base, fun value member => ?resources⟩
    case texts =>
      have accepted := checked name value member
      rw [checkEntry, if_pos (by simpa [textFields, or_assoc] using known)] at accepted
      exact (accepts_eq_ok_iff string_decodes).mp accepted
    case template =>
      exact (accepts_eq_ok_iff path_decodes).mp (checked "main_template" value member)
    case base =>
      exact (accepts_eq_ok_iff BasePackages.decode_decodes).mp
        (checked "base_packages" value member)
    case resources => exact (accepts_eq_ok_iff listed).mp (checked "resources" value member)
  · intro typed key value member
    unfold checkEntry
    split
    case isTrue known =>
      exact (accepts_eq_ok_iff string_decodes).mpr
        (typed.texts key (by simpa [textFields, or_assoc] using known) value member)
    split
    case isTrue known =>
      subst known
      exact (accepts_eq_ok_iff path_decodes).mpr (typed.template value member)
    split
    case isTrue known =>
      subst known
      exact (accepts_eq_ok_iff BasePackages.decode_decodes).mpr (typed.base value member)
    rw [if_accepts_iff listed]
    rintro rfl
    exact typed.resources value member

/-- A document is decoded exactly to the configuration that it describes. -/
theorem ofDocument_eq_ok_iff {entries : List (String × Value)} {config : Config} :
    ofDocument entries = .ok config ↔ Described entries config := by
  unfold ofDocument Described
  rw [checked_bind_eq_ok_iff, checked_iff]
  simp only [bind_eq_ok_iff, required_eq_ok_iff string_decodes, field?_eq_first?,
    first?_eq_ok_iff string_decodes, first?_eq_ok_iff path_decodes,
    first?_eq_ok_iff BasePackages.decode_decodes,
    first?_eq_ok_iff (list_decodes Resource.decode_decodes)]
  refine and_congr_right fun _ => ?_
  constructor
  · rintro ⟨rootGroup, root, shortName, short, modulePath, module, featuresPackage?, features,
      mainTemplate?, template, base, packages, resources, listed, same⟩
    cases same
    exact ⟨root, short, module, features, template, taken_some_iff.mpr ⟨_, packages, rfl⟩,
      taken_some_iff.mpr ⟨_, listed, rfl⟩⟩
  · intro holds
    obtain ⟨base, packages, sameBase⟩ := taken_some_iff.mp holds.base
    obtain ⟨resources, listed, sameResources⟩ := taken_some_iff.mp holds.resources
    refine ⟨_, holds.rootGroup, _, holds.shortName, _, holds.modulePath, _,
      holds.featuresPackage, _, holds.mainTemplate, base, packages, resources, listed, ?_⟩
    rw [sameBase, sameResources]
    rfl

end Config

end ProviderGen
