import ProviderGen.Proofs.BucketPlace
import ProviderGen.Proofs.RunEffect

/-!
Where the calls of a run write. All paths of a call are parts joined to the output. A run writes
nothing at other paths, and up to repeated slashes and dots something at each of these: manifests
wait until they are stored, at the latest spelling of their path or an earlier one.
-/

namespace ProviderGen

open HostPath (Component)

namespace Emit

/-- What a call joins to the output for each of its files. A manifest is written later. -/
def partsOf : Call → List (List String)
  | .types group version resources =>
    ((resources.map fun resource => typeFileName resource.kind) ++
      ["zz_generated_resources.go", "zz_groupversion_info.go"]).map
        fun name => ["apis", placeLabel group, version, name]
  | .controller group resource _ _ =>
    [["internal", "controller", placeLabel group, Text.lowercase resource.kind,
      "zz_controller.go"]]
  | .manifest group version resource =>
    [["examples-generated", placeLabel group, version, Manifest.fileName resource.name]]
  | .conversion group version kind _ =>
    [["apis", placeLabel group, version, conversionFileName kind]]
  | .store => []
  | .register _ => [["apis", "zz_register.go"]]
  | .setup controllers mainTemplate? =>
    (controllers.keys.map fun key =>
      ["internal", "controller", "zz_" ++ packageName key ++ "_setup.go"]) ++
    match mainTemplate? with
    | none => []
    | some _ => controllers.keys.map fun key => ["cmd", "provider", packageName key, "zz_main.go"]
  | .format _ => []

namespace Target

variable (target : Target)

def paths (call : Call) : List HostPath := (partsOf call).map (·.foldl HostPath.join target.root)

variable {target} {template : String} {pending : PendingManifests}

theorem paths_manifest (group version : String) (resource : Resource) :
    target.paths (.manifest group version resource) =
      [Manifest.path target.root group version resource.name] := by
  simp only [paths, partsOf, Manifest.path, placeLabel, List.map_cons, List.map_nil,
    List.foldl_cons, List.foldl_nil]

theorem map_files (template : String) (pending : PendingManifests) {call : Call}
    (own : call ≠ .store)
    (other : ∀ group version resource, call ≠ .manifest group version resource) :
    (target.files template pending call).map (·.1) = target.paths call := by
  unfold paths
  cases call with
  | types group version resources =>
    simp only [files, typeFiles, partsOf, apiDirectory, placeLabel, List.map_append, List.map_map,
      List.map_cons, List.map_nil, Function.comp_def, List.foldl_cons, List.foldl_nil]
  | controller =>
    simp only [files, controllerFile, controllerDirectory, partsOf, placeLabel, List.map_cons,
      List.map_nil, List.foldl_cons, List.foldl_nil]
  | manifest => exact absurd rfl (other _ _ _)
  | conversion =>
    simp only [files, conversionFile, apiDirectory, partsOf, placeLabel, List.map_cons,
      List.map_nil, List.foldl_cons, List.foldl_nil]
  | store => exact absurd rfl own
  | register => rfl
  | setup controllers mainTemplate? =>
    cases mainTemplate? <;>
      simp only [files, setupFiles, mainFiles, partsOf, ControllerMap.keys, OrderedMap.keys,
        List.map_append, List.map_map, List.append_nil, Function.comp_def,
        List.foldl_cons, List.foldl_nil]
  | format => rfl

theorem waiting_own (pending : PendingManifests) {call : Call} (own : call ≠ .store)
    (other : ∀ group version resource, call ≠ .manifest group version resource) :
    target.waiting pending call = pending := by
  cases call with
  | controller group resource watchPackage featuresPackage? =>
    unfold waiting work
    dsimp only
    split <;> rfl
  | manifest => exact absurd rfl (other _ _ _)
  | store => exact absurd rfl own
  | _ => rfl

/-- What a call writes and what waits after it: a manifest is put aside, storing writes all that
waits, and every other call writes at its own paths. -/
theorem call_cases (target : Target) (template : String) (pending : PendingManifests)
    (call : Call) :
    (∃ group version resource, call = .manifest group version resource ∧
      target.files template pending call = [] ∧ target.waiting pending call = pending.add
        (Manifest.path target.root group version resource.name)
          (.ofResource group version resource)) ∨
    (call = .store ∧ target.files template pending call = pending.files ∧
      target.waiting pending call = .empty) ∨
    call ≠ .store ∧ (∀ group version resource, call ≠ .manifest group version resource) ∧
      (target.files template pending call).map (·.1) = target.paths call ∧
        target.waiting pending call = pending := by
  by_cases stored : call = .store
  · subst stored
    exact .inr (.inl ⟨rfl, rfl, rfl⟩)
  by_cases aside : ∃ group version resource, call = .manifest group version resource
  · obtain ⟨group, version, resource, rfl⟩ := aside
    exact .inl ⟨group, version, resource, rfl, rfl, rfl⟩
  · have other : ∀ group version resource, call ≠ .manifest group version resource :=
      fun group version resource same => aside ⟨group, version, resource, same⟩
    exact .inr (.inr ⟨stored, other, map_files template pending stored other,
      waiting_own pending stored other⟩)

/-! ### What is written lies at paths of calls -/

theorem forall_components_add {Q : List Component → Prop} {path : HostPath}
    (added : Q path.components) (waiting : ∀ entry ∈ pending.entries, Q entry.2.1.components)
    (manifest : Manifest) :
    ∀ entry ∈ (pending.add path manifest).entries, Q entry.2.1.components := by
  refine OrderedMap.forall_mem_alter ?_ waiting
  cases found : pending.find? path.components with
  | none => exact added
  | some earlier => exact waiting (_, earlier) (OrderedMap.find?_eq_some_iff.mp found)

theorem forall_filesOf {Q : List Component → Prop} {calls : List Call}
    (each : ∀ call ∈ calls, ∀ path ∈ target.paths call, Q path.components)
    (waiting : ∀ entry ∈ pending.entries, Q entry.2.1.components) :
    ∀ file ∈ target.filesOf template pending calls, Q file.1.components := by
  induction calls generalizing pending with
  | nil =>
    intro file member
    cases member
  | cons call rest ih =>
    obtain ⟨first, later⟩ := List.forall_mem_cons.mp each
    rw [filesOf]
    rcases target.call_cases template pending call with
      ⟨group, version, resource, rfl, files, after⟩ | ⟨rfl, files, after⟩ |
      ⟨_, _, files, after⟩
    · rw [paths_manifest] at first
      rw [files, after, List.nil_append]
      exact ih later (forall_components_add (first _ List.mem_cons_self) waiting _)
    · rw [files, after]
      refine List.forall_mem_append.mpr
        ⟨fun file member => ?_, ih later fun _ none => absurd none List.not_mem_nil⟩
      obtain ⟨value, listed, rfl⟩ := List.mem_map.mp member
      obtain ⟨entry, present, rfl⟩ := List.mem_map.mp listed
      exact waiting entry present
    · rw [after]
      refine List.forall_mem_append.mpr ⟨fun file member => first _ ?_, ih later waiting⟩
      rw [← files]
      exact List.mem_map_of_mem member

/-! ### At all paths of calls something is written -/

theorem exists_file_of_path {calls : List Call} {call : Call} (made : call ∈ calls)
    (own : call ≠ .store)
    (other : ∀ group version resource, call ≠ .manifest group version resource)
    {path : HostPath} (listed : path ∈ target.paths call) :
    ∃ file ∈ target.filesOf template pending calls, file.1 = path := by
  induction calls generalizing pending with
  | nil => cases made
  | cons first rest ih =>
    rw [filesOf]
    rcases List.mem_cons.mp made with rfl | later
    · rw [← map_files template pending own other] at listed
      obtain ⟨file, member, rfl⟩ := List.mem_map.mp listed
      exact ⟨file, List.mem_append_left _ member, rfl⟩
    · obtain ⟨file, member, same⟩ : ∃ file ∈ target.filesOf template
          (target.waiting pending first) rest, file.1 = path := ih later
      exact ⟨file, List.mem_append_right _ member, same⟩

def Spelled (pending : PendingManifests) : Prop :=
  ∀ entry ∈ pending.entries, entry.2.1.components = entry.1

theorem spelled_add (spelled : Spelled pending) (path : HostPath) (manifest : Manifest) :
    Spelled (pending.add path manifest) := by
  refine OrderedMap.forall_mem_alter ?_ spelled
  cases found : pending.find? path.components with
  | none => exact rfl
  | some earlier => exact spelled (_, earlier) (OrderedMap.find?_eq_some_iff.mp found)

theorem isSome_find?_add (pending : PendingManifests) (path : HostPath) (manifest : Manifest)
    (key : List Component) : ((pending.add path manifest).find? key).isSome =
      (decide (key = path.components) || (pending.find? key).isSome) := by
  unfold PendingManifests.add
  rw [OrderedMap.find?_alter]
  by_cases same : key = path.components
  · rw [if_pos same, decide_eq_true same]
    rfl
  · rw [if_neg same, decide_eq_false same, Bool.false_or]

theorem spelled_waiting (spelled : Spelled pending) {call : Call} (kept : call ≠ .store) :
    Spelled (target.waiting pending call) := by
  rcases target.call_cases "" pending call with
    ⟨group, version, resource, _, _, after⟩ | ⟨stored, _⟩ | ⟨_, _, _, after⟩
  · rw [after]
    exact spelled_add spelled _ _
  · exact absurd stored kept
  · rwa [after]

/-- A manifest under these components waits, or is put aside by one of the calls. -/
def Awaited (target : Target) (pending : PendingManifests) (calls : List Call)
    (key : List Component) : Prop :=
  (pending.find? key).isSome ∨ ∃ group version resource,
    .manifest group version resource ∈ calls ∧
      (Manifest.path target.root group version resource.name).components = key

theorem awaited_waiting {key : List Component} {call : Call} {rest : List Call}
    (awaited : Awaited target pending (call :: rest) key) (kept : call ≠ .store) :
    Awaited target (target.waiting pending call) rest key := by
  rcases target.call_cases "" pending call with
    ⟨group, version, resource, aside, _, after⟩ | ⟨stored, _⟩ | ⟨_, other, _, after⟩
  · unfold Awaited
    rw [after, isSome_find?_add, Bool.or_eq_true, decide_eq_true_eq]
    rcases awaited with waits | ⟨_, _, _, made, same⟩
    · exact .inl (.inr waits)
    · rw [aside] at made
      rcases List.mem_cons.mp made with own | later
      · cases own
        exact .inl (.inl same.symm)
      · exact .inr ⟨_, _, _, later, same⟩
  · exact absurd stored kept
  · rw [after]
    refine awaited.imp_right ?_
    rintro ⟨group, version, resource, made, same⟩
    rcases List.mem_cons.mp made with own | later
    · exact absurd own.symm (other group version resource)
    · exact ⟨group, version, resource, later, same⟩

theorem exists_file_of_awaited {key : List Component} {calls later : List Call}
    (kept : ∀ call ∈ calls, call ≠ .store) (spelled : Spelled pending)
    (awaited : Awaited target pending calls key) :
    ∃ file ∈ target.filesOf template pending (calls ++ .store :: later),
      file.1.components = key := by
  induction calls generalizing pending with
  | nil =>
    rcases awaited with waits | ⟨_, _, _, made, _⟩
    · obtain ⟨entry, found⟩ := Option.isSome_iff_exists.mp waits
      have member := OrderedMap.find?_eq_some_iff.mp found
      have listed : (entry.1, entry.2.text) ∈ pending.files :=
        List.mem_map.mpr ⟨entry, List.mem_map_of_mem member, rfl⟩
      have same : entry.1.components = key := spelled (key, entry) member
      rw [List.nil_append, filesOf]
      exact ⟨_, List.mem_append_left _ listed, same⟩
    · cases made
  | cons call rest ih =>
    obtain ⟨first, others⟩ := List.forall_mem_cons.mp kept
    obtain ⟨file, member, same⟩ :=
      ih others (spelled_waiting spelled first) (awaited_waiting awaited first)
    exact ⟨file, List.mem_append_right _ member, same⟩

/-- Calls that store their manifests at the end write at all their paths. -/
theorem exists_file_of_stored {calls later : List Call} (kept : ∀ call ∈ calls, call ≠ .store)
    {call : Call} (made : call ∈ calls) {path : HostPath} (listed : path ∈ target.paths call) :
    ∃ file ∈ target.filesOf template .empty (calls ++ .store :: later),
      file.1.components = path.components := by
  have own (other : ∀ group version resource, call ≠ .manifest group version resource) :
      ∃ file ∈ target.filesOf template .empty (calls ++ .store :: later),
        file.1.components = path.components := by
    obtain ⟨file, member, same⟩ :=
      exists_file_of_path (List.mem_append_left _ made) (kept call made) other listed
    exact ⟨file, member, congrArg HostPath.components same⟩
  cases call with
  | manifest group version resource =>
    rw [paths_manifest] at listed
    rw [List.mem_singleton.mp listed]
    exact exists_file_of_awaited kept nofun (.inr ⟨group, version, resource, made, rfl⟩)
  | _ =>
    refine own fun group version resource same => ?_
    cases same

end Target

end Emit

end ProviderGen
