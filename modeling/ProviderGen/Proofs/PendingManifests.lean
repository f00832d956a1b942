import Mathlib.Data.Finset.Card
import Mathlib.Data.List.DropRight
import ProviderGen.Proofs.FileContents
import ProviderGen.Proofs.ManifestText
import ProviderGen.Proofs.WrittenPaths

/-!
Example manifests between two stores. What waits is told by the manifests put aside since manifests
were last stored: one for each list of components, the last one put aside, under the spelling of the
first. Storing writes these in the order of their components, and afterwards none waits, also where
writing one of them fails.
-/

namespace ProviderGen

open HostPath (Component)

def FirstWith {α β : Type} (f : α → β) (items : List α) (value : β) (first : α) : Prop :=
  ∃ before later, items = before ++ first :: later ∧ f first = value ∧
    ∀ other ∈ before, f other ≠ value

theorem FirstWith.find?_eq_some_iff {α β : Type} [DecidableEq β] {f : α → β} {items : List α}
    {value : β} {first : α} :
    (items.find? fun item => f item = value) = some first ↔ FirstWith f items value first := by
  rw [List.find?_eq_some_iff_append]
  simp only [decide_eq_true_eq, Bool.not_eq_true', decide_eq_false_iff_not]
  constructor
  · rintro ⟨has, before, later, cut, others⟩
    exact ⟨before, later, cut, has, others⟩
  · rintro ⟨before, later, cut, has, others⟩
    exact ⟨has, before, later, cut, others⟩

theorem FirstWith.value_eq {α β : Type} {f : α → β} {items : List α} {value : β} {first : α}
    (firstWith : FirstWith f items value first) : f first = value := by
  obtain ⟨_, _, _, has, _⟩ := firstWith
  exact has

namespace PendingManifests

variable {items : List (HostPath × Manifest)}

def key (item : HostPath × Manifest) : List Component := item.1.components

def ofItems (items : List (HostPath × Manifest)) : PendingManifests :=
  items.foldl (fun pending item => pending.add item.1 item.2) .empty

theorem ofItems_concat (items : List (HostPath × Manifest)) (item : HostPath × Manifest) :
    ofItems (items ++ [item]) = (ofItems items).add item.1 item.2 := by
  unfold ofItems
  rw [List.foldl_append, List.foldl_cons, List.foldl_nil]

theorem find?_ofItems (items : List (HostPath × Manifest)) (place : List Component) :
    (ofItems items).find? place =
      (items.find? fun item => key item = place).bind fun first =>
        (items.reverse.find? fun item => key item = place).map fun last => (first.1, last.2) := by
  induction items using List.reverseRecOn with
  | nil => rfl
  | append_singleton items item ih =>
    rw [ofItems_concat, add, OrderedMap.find?_alter, List.find?_append, List.find?_singleton,
      List.reverse_append, List.reverse_singleton, List.singleton_append, List.find?_cons]
    by_cases same : place = item.1.components
    · have own : key item = place := same.symm
      rw [if_pos same, if_pos (decide_eq_true own), decide_eq_true own, ← same, ih]
      cases first : items.find? fun item => key item = place with
      | none => rfl
      | some earlier =>
        have member := List.mem_of_find?_eq_some first
        have has : key earlier = place := (FirstWith.find?_eq_some_iff.mp first).value_eq
        obtain ⟨last, found⟩ := LastWith.exists_of_mem (f := key) member
        rw [has] at found
        rw [LastWith.find?_reverse_eq_some_iff.mpr found]
        rfl
    · have other : ¬key item = place := fun own => same own.symm
      rw [if_neg same, if_neg (by simpa using other), decide_eq_false other, Option.or_none]
      exact ih

theorem find?_ofItems_eq_some_iff {place : List Component} {waiting : HostPath × Manifest} :
    (ofItems items).find? place = some waiting ↔
      ∃ first last, FirstWith key items place first ∧ LastWith key items place last ∧
        waiting = (first.1, last.2) := by
  rw [find?_ofItems, Option.bind_eq_some_iff]
  simp only [Option.map_eq_some_iff, LastWith.find?_reverse_eq_some_iff]
  simp only [FirstWith.find?_eq_some_iff]
  constructor
  · rintro ⟨first, firstWith, last, lastWith, rfl⟩
    exact ⟨first, last, firstWith, lastWith, rfl⟩
  · rintro ⟨first, last, firstWith, lastWith, rfl⟩
    exact ⟨first, firstWith, last, lastWith, rfl⟩

theorem mem_keys_ofItems_iff {place : List Component} :
    place ∈ (ofItems items).keys ↔ place ∈ items.map key := by
  rw [OrderedMap.mem_keys_iff]
  constructor
  · rintro ⟨waiting, found⟩
    obtain ⟨first, last, _, lastWith, _⟩ := find?_ofItems_eq_some_iff.mp found
    exact List.mem_map.mpr ⟨last, lastWith.mem, lastWith.value_eq⟩
  · intro listed
    obtain ⟨item, member, rfl⟩ := List.mem_map.mp listed
    have some : (items.find? fun other => key other = key item).isSome :=
      List.find?_isSome.mpr ⟨item, member, decide_eq_true rfl⟩
    obtain ⟨first, found⟩ := Option.isSome_iff_exists.mp some
    obtain ⟨last, lastWith⟩ := LastWith.exists_of_mem (f := key) member
    exact ⟨_, find?_ofItems_eq_some_iff.mpr
      ⟨first, last, FirstWith.find?_eq_some_iff.mp found, lastWith, rfl⟩⟩

theorem size_ofItems (items : List (HostPath × Manifest)) :
    (ofItems items).size = (items.map key).toFinset.card := by
  have distinct : (ofItems items).keys.Nodup := (ofItems items).keys_distinct
  have same : (items.map key).toFinset = (ofItems items).keys.toFinset := by
    ext place
    rw [List.mem_toFinset, List.mem_toFinset, mem_keys_ofItems_iff]
  rw [same, List.toFinset_card_of_nodup distinct]
  exact (List.length_map _).symm

/-- The files for manifests that were put aside: one for each list of components, in ascending
order, with the spelling of the first path and the text of the last manifest, from which that
manifest can be read. -/
structure Chosen (items : List (HostPath × Manifest)) (files : List (HostPath × String)) :
    Prop where
  ascending : files.Pairwise fun file later =>
    compare file.1.components later.1.components = .lt
  covered : ∀ item ∈ items, ∃ file ∈ files, file.1.components = item.1.components
  chosen : ∀ file ∈ files, ∃ first last, FirstWith key items file.1.components first ∧
    LastWith key items file.1.components last ∧ file = (first.1, last.2.text) ∧
      Manifest.read? file.2 = some last.2

theorem chosen_files (items : List (HostPath × Manifest)) :
    Chosen items (ofItems items).files := by
  have spelled : ∀ entry ∈ (ofItems items).entries, ∃ first last,
      FirstWith key items entry.1 first ∧ LastWith key items entry.1 last ∧
        entry.2 = (first.1, last.2) ∧ entry.2.1.components = entry.1 := by
    intro entry present
    obtain ⟨first, last, firstWith, lastWith, waiting⟩ :=
      find?_ofItems_eq_some_iff.mp (OrderedMap.find?_eq_some_iff.mpr present)
    have own : first.1.components = entry.1 := firstWith.value_eq
    exact ⟨first, last, firstWith, lastWith, waiting, by rw [waiting]; exact own⟩
  have files : (ofItems items).files =
      (ofItems items).entries.map fun entry => (entry.2.1, entry.2.2.text) := by
    unfold PendingManifests.files OrderedMap.values
    rw [List.map_map]
    rfl
  rw [files]
  constructor
  case ascending =>
    apply List.pairwise_map.mpr
    apply (ofItems items).ascending.imp_of_mem
    intro entry later present laterPresent less
    obtain ⟨_, _, _, _, _, own⟩ := spelled entry present
    obtain ⟨_, _, _, _, _, laterOwn⟩ := spelled later laterPresent
    change compare entry.2.1.components later.2.1.components = .lt
    rwa [own, laterOwn]
  case covered =>
    intro item member
    have listed := mem_keys_ofItems_iff.mpr (List.mem_map_of_mem (f := key) member)
    obtain ⟨entry, present, same⟩ := List.mem_map.mp listed
    obtain ⟨_, _, _, _, _, own⟩ := spelled entry present
    exact ⟨_, List.mem_map_of_mem present, own.trans same⟩
  case chosen =>
    intro file listed
    obtain ⟨entry, present, rfl⟩ := List.mem_map.mp listed
    obtain ⟨first, last, firstWith, lastWith, waiting, own⟩ := spelled entry present
    refine ⟨first, last, ?_, ?_, by rw [waiting], ?_⟩
    · rwa [own]
    · rwa [own]
    · rw [waiting]
      exact last.2.read?_text

end PendingManifests

/-! ### Writing one after the other -/

inductive FileTree.Written : FileTree → List (HostPath × String) → FileTree → Prop where
  | none (tree : FileTree) : Written tree [] tree
  | next {tree reached after : FileTree} {file : HostPath × String}
      {rest : List (HostPath × String)} (wrote : tree.writeText file.1 file.2 = (.ok (), reached))
      (later : Written reached rest after) : Written tree (file :: rest) after

/-- Texts are written one after the other up to one that the host fails. -/
def FileTree.Interrupted (tree : FileTree) (files before : List (HostPath × String))
    (broken : HostPath × String) (cause : IoFailure) (after : FileTree) : Prop :=
  ∃ later reached, files = before ++ broken :: later ∧ tree.Written before reached ∧
    reached.writeText broken.1 broken.2 = (.error cause, after)

theorem FileTree.Written.updated {tree after : FileTree} {files : List (HostPath × String)}
    (written : tree.Written files after) : tree.Updated files after := by
  induction written with
  | none tree => exact .refl tree
  | next wrote later ih => exact (FileTree.updated_of_writeText wrote).trans ih

theorem FileTree.Written.faults {tree after : FileTree} {files : List (HostPath × String)}
    (written : tree.Written files after) : after.faults <:+ tree.faults := by
  induction written with
  | none tree => exact List.suffix_refl _
  | @next tree reached after file rest wrote later ih =>
    have spent := tree.faults_writeText file.1 file.2
    rw [wrote] at spent
    exact ih.trans spent

theorem FileTree.Interrupted.disturbed {tree after : FileTree}
    {files before : List (HostPath × String)} {broken : HostPath × String} {cause : IoFailure}
    (interrupted : tree.Interrupted files before broken cause after) :
    tree.Disturbed before (some broken) after := by
  obtain ⟨later, reached, _, written, failure⟩ := interrupted
  exact ⟨reached, written.updated, (FileTree.broken_of_writeText failure).1⟩

theorem FileTree.Interrupted.updated {tree after : FileTree}
    {files before : List (HostPath × String)} {broken : HostPath × String} {cause : IoFailure}
    (interrupted : tree.Interrupted files before broken cause after)
    (whole : ∀ count, some (.torn count cause) ∉ tree.faults) : tree.Updated before after := by
  obtain ⟨later, reached, _, written, failure⟩ := interrupted
  have untouched := (FileTree.broken_of_writeText failure).2 fun count torn =>
    whole count (written.faults.subset (List.mem_of_head? torn))
  have updated := written.updated.trans untouched
  rwa [List.append_nil] at updated

theorem FileWork.run_writeAll (files : List (HostPath × String)) (answer : String)
    (tree : FileTree) :
    (∃ after, (writeAll files (.done (.ok answer))).run tree = (.ok answer, after) ∧
      tree.Written files after) ∨
    ∃ before broken cause after,
      (writeAll files (.done (.ok answer))).run tree = (.error (.io cause), after) ∧
        tree.Interrupted files before broken cause after := by
  induction files generalizing tree with
  | nil => exact .inl ⟨tree, rfl, .none tree⟩
  | cons file rest ih =>
    have unfolded : writeAll (file :: rest) (.done (.ok answer)) =
        .write file.1 file.2 (writeAll rest (.done (.ok answer))) := rfl
    rw [unfolded, run]
    rcases wrote : tree.writeText file.1 file.2 with ⟨cause | _, reached⟩
    · exact .inr ⟨[], file, cause, reached, rfl, ⟨rest, tree, rfl, .none tree, wrote⟩⟩
    rcases ih reached with ⟨after, outcome, written⟩ |
      ⟨before, broken, cause, after, outcome, failed⟩
    · exact .inl ⟨after, outcome, .next wrote written⟩
    · obtain ⟨later, middle, cut, written, failure⟩ := failed
      exact .inr ⟨file :: before, broken, cause, after, outcome,
        ⟨later, middle, congrArg (file :: ·) cut, .next wrote written, failure⟩⟩

/-! ### Histories of calls -/

namespace Emit.Target

variable (target : Target) (formatter : Formatter)

def putAside? : Call → Option (HostPath × Manifest)
  | .manifest group version resource =>
    some (Manifest.path target.root group version resource.name,
      .ofResource group version resource)
  | _ => none

/-- The manifests put aside since manifests were last stored. -/
def sinceStore (calls : List Call) : List (HostPath × Manifest) :=
  (calls.rtakeWhile (· ≠ .store)).filterMap target.putAside?

def reached (calls : List Call) (workspace : Workspace) : Workspace :=
  calls.foldl (fun reached call => (target.answer formatter call reached).2) workspace

variable {target formatter}

theorem reached_concat (calls : List Call) (call : Call) (workspace : Workspace) :
    target.reached formatter (calls ++ [call]) workspace =
      (target.answer formatter call (target.reached formatter calls workspace)).2 := by
  unfold reached
  rw [List.foldl_append, List.foldl_cons, List.foldl_nil]

theorem sinceStore_store (calls : List Call) : target.sinceStore (calls ++ [.store]) = [] := by
  unfold sinceStore
  rw [List.rtakeWhile_concat, if_neg (by simp)]
  rfl

theorem sinceStore_concat (calls : List Call) {call : Call} (own : call ≠ .store) :
    target.sinceStore (calls ++ [call]) =
      target.sinceStore calls ++ (target.putAside? call).toList := by
  unfold sinceStore
  rw [List.rtakeWhile_concat, if_pos (decide_eq_true own), List.filterMap_append]
  congr 1

theorem pending_reached (target : Target) (formatter : Formatter) (calls : List Call)
    (tree : FileTree) :
    (target.reached formatter calls ⟨tree, .empty⟩).pending =
      .ofItems (target.sinceStore calls) := by
  induction calls using List.reverseRecOn with
  | nil => rfl
  | append_singleton calls call ih =>
    rw [reached_concat, pending_answer, ih]
    rcases target.call_cases "" (.ofItems (target.sinceStore calls)) call with
      ⟨group, version, resource, rfl, _, after⟩ | ⟨rfl, _, after⟩ | ⟨own, other, _, after⟩
    · have aside : target.putAside? (.manifest group version resource) =
          some (Manifest.path target.root group version resource.name,
            .ofResource group version resource) := rfl
      have own : Call.manifest group version resource ≠ .store := Call.noConfusion
      rw [after, sinceStore_concat calls own, aside, Option.toList_some,
        PendingManifests.ofItems_concat]
    · rw [after, sinceStore_store]
      rfl
    · have nothing : target.putAside? call = none := by
        cases call with
        | manifest group version resource => exact absurd rfl (other group version resource)
        | _ => rfl
      rw [after, sinceStore_concat calls own, nothing, Option.toList_none, List.append_nil]

theorem answer_manifest (group version : String) (resource : Resource) (workspace : Workspace) :
    target.answer formatter (.manifest group version resource) workspace =
      (.ok "", ⟨workspace.tree, workspace.pending.add
        (Manifest.path target.root group version resource.name)
          (.ofResource group version resource)⟩) := rfl

theorem answer_store (target : Target) (formatter : Formatter) (workspace : Workspace) :
    (∃ after, target.answer formatter .store workspace = (.ok "", ⟨after, .empty⟩) ∧
      workspace.tree.Written workspace.pending.files after) ∨
    ∃ before broken cause after,
      target.answer formatter .store workspace =
          (.error (.generate (.io cause)), ⟨after, .empty⟩) ∧
        workspace.tree.Interrupted workspace.pending.files before broken cause after := by
  have answered : target.answer formatter .store workspace =
      (((FileWork.writeAll workspace.pending.files (.done (.ok ""))).run workspace.tree).1.mapError
        .generate,
      ⟨((FileWork.writeAll workspace.pending.files (.done (.ok ""))).run workspace.tree).2,
        .empty⟩) := by
    rcases answer_formatter .store workspace with ⟨_, formatting⟩ | same
    · cases formatting
    · rw [same, answer_unformatted]
      rfl
  rcases FileWork.run_writeAll workspace.pending.files "" workspace.tree with
    ⟨after, outcome, written⟩ | ⟨before, broken, cause, after, outcome, interrupted⟩
  · rw [outcome] at answered
    exact .inl ⟨after, answered, written⟩
  · rw [outcome] at answered
    exact .inr ⟨before, broken, cause, after, answered, interrupted⟩

/-- After any calls, putting a manifest aside writes nothing, and as many manifests wait as paths
with different components were put aside since the last store. Storing writes one file for each of
them, in the order of the components, with the last manifest for the path; if the host fails one,
exactly those before it are written, and its own file may hold the first bytes of its text, but only
if the host tears the write. In either case nothing waits afterwards. -/
theorem manifests_between_stores (target : Target) (formatter : Formatter) (calls : List Call)
    (tree : FileTree) :
    let workspace := target.reached formatter calls ⟨tree, .empty⟩
    let items := target.sinceStore calls
    (∀ group version resource,
      (target.answer formatter (.manifest group version resource) workspace).1 = .ok "" ∧
      (target.answer formatter (.manifest group version resource) workspace).2.tree =
        workspace.tree) ∧
    workspace.pending.size = (items.map fun item => item.1.components).toFinset.card ∧
    (target.answer formatter .store workspace).2.pending.size = 0 ∧
    ∃ files, PendingManifests.Chosen items files ∧ files.length = workspace.pending.size ∧
      ((∃ after, target.answer formatter .store workspace = (.ok "", ⟨after, .empty⟩) ∧
          workspace.tree.Written files after ∧ workspace.tree.Updated files after) ∨
        ∃ before broken cause after,
          target.answer formatter .store workspace =
              (.error (.generate (.io cause)), ⟨after, .empty⟩) ∧
            workspace.tree.Interrupted files before broken cause after ∧
            workspace.tree.Disturbed before (some broken) after ∧
            ((∀ count, some (.torn count cause) ∉ workspace.tree.faults) →
              workspace.tree.Updated before after)) := by
  intro workspace items
  have waiting : workspace.pending = .ofItems items := target.pending_reached formatter calls tree
  have stored := target.answer_store formatter workspace
  refine ⟨?aside, ?count, ?emptied, workspace.pending.files, ?chosen, ?length, ?outcome⟩
  case aside =>
    intro group version resource
    rw [answer_manifest]
    exact ⟨rfl, rfl⟩
  case count =>
    rw [waiting]
    exact PendingManifests.size_ofItems items
  case emptied =>
    rcases stored with ⟨after, answered, _⟩ | ⟨_, _, _, after, answered, _⟩
    · rw [answered]
      rfl
    · rw [answered]
      rfl
  case chosen =>
    rw [waiting]
    exact PendingManifests.chosen_files items
  case length =>
    unfold PendingManifests.files OrderedMap.values
    rw [List.length_map, List.length_map]
    rfl
  case outcome =>
    rcases stored with ⟨after, answered, written⟩ | ⟨before, broken, cause, after, answered, failed⟩
    · exact .inl ⟨after, answered, written, written.updated⟩
    · exact .inr ⟨before, broken, cause, after, answered, failed, failed.disturbed,
        failed.updated⟩

end Emit.Target

end ProviderGen
