import Mathlib.Data.List.Basic
import Mathlib.Data.List.Induction
import Mathlib.Data.List.Nodup
import ProviderGen.ControllerMap
import ProviderGen.OrderedMap.Lemmas

/-!
What a controller map holds after any operations on it. Every operation amounts to insertions of a
package under a key, and the map is settled by them: under each key stand the packages inserted
there, and under the monolith key all packages, in the order of their first insertion.
-/

namespace ProviderGen

inductive ControllerOperation where
  | insert (key package : String)
  | insertEntries (layout : Layout) (entries : List ControllerEntry)
  | insertKeyless (layout : Layout) (packages : List String)
  /-- The generated controller of a resource goes under the label of its group. -/
  | addGenerated (label package : String)
deriving DecidableEq, Repr

namespace ControllerOperation

def apply (controllers : ControllerMap) : ControllerOperation → ControllerMap
  | insert key package => controllers.insert key package
  | insertEntries layout entries => controllers.insertEntries layout entries
  | insertKeyless layout packages => controllers.insertKeyless layout packages
  | addGenerated label package => controllers.insert label package

def insertions : ControllerOperation → List (String × String)
  | insert key package => [(key, package)]
  | insertEntries layout entries =>
    entries.map fun entry => (entry.key, layout.package entry.package)
  | insertKeyless layout packages => packages.map fun package => (configKey, layout.package package)
  | addGenerated label package => [(label, package)]

end ControllerOperation

namespace ControllerMap

def insertAll (controllers : ControllerMap) (insertions : List (String × String)) : ControllerMap :=
  insertions.foldl (fun map insertion => map.insert insertion.1 insertion.2) controllers

def ofOperations (operations : List ControllerOperation) : ControllerMap :=
  operations.foldl ControllerOperation.apply empty

theorem apply_eq_insertAll (controllers : ControllerMap) (operation : ControllerOperation) :
    operation.apply controllers = controllers.insertAll operation.insertions := by
  unfold insertAll
  cases operation with
  | insert key package => rfl
  | insertEntries layout entries =>
    rw [ControllerOperation.insertions, List.foldl_map]
    rfl
  | insertKeyless layout packages =>
    rw [ControllerOperation.insertions, List.foldl_map]
    rfl
  | addGenerated label package => rfl

theorem ofOperations_eq_insertAll (operations : List ControllerOperation) :
    ofOperations operations = empty.insertAll (operations.flatMap (·.insertions)) := by
  unfold ofOperations insertAll
  rw [List.foldl_flatMap]
  congr 1
  funext controllers operation
  exact apply_eq_insertAll controllers operation

/-! ### One insertion -/

theorem find?_insertUnder (controllers : ControllerMap) (key package other : String) :
    (controllers.insertUnder key package).find? other =
      if other = key then some (addNew package ((controllers.find? other).getD []))
      else controllers.find? other := by
  by_cases same : other = key
  · subst same
    rw [if_pos rfl]
    exact OrderedMap.find?_alter_self _ _ _
  · rw [if_neg same]
    have apart : compare other key ≠ .eq :=
      fun equal => same (Std.LawfulEqCmp.eq_of_compare equal)
    exact OrderedMap.find?_alter_of_ne _ apart _

theorem find?_insert (controllers : ControllerMap) (key package other : String) :
    (controllers.insert key package).find? other =
      if other = key ∨ other = monolithKey then
        some (addNew package ((controllers.find? other).getD []))
      else controllers.find? other := by
  unfold insert
  by_cases reserved : key = monolithKey
  · simp only [reserved, if_true, find?_insertUnder, or_self]
  · simp only [if_neg reserved, find?_insertUnder]
    by_cases monolith : other = monolithKey
    · have apart : other ≠ key := fun same => reserved (same ▸ monolith)
      simp only [monolith, if_true, or_true]
      rw [if_neg (monolith ▸ apart)]
    · simp only [monolith, or_false, if_false]

theorem append_of_addNew (package : String) (packages : List String) :
    ∃ later, addNew package packages = packages ++ later := by
  unfold addNew
  by_cases known : package ∈ packages
  · exact ⟨[], by rw [if_pos known, List.append_nil]⟩
  · exact ⟨[package], if_neg known⟩

theorem find?_insertAll_extends (insertions : List (String × String)) {controllers : ControllerMap}
    {key : String} {packages : List String} (present : controllers.find? key = some packages) :
    ∃ later, (controllers.insertAll insertions).find? key = some (packages ++ later) := by
  induction insertions generalizing controllers packages with
  | nil => exact ⟨[], by rw [List.append_nil]; exact present⟩
  | cons insertion rest ih =>
    have step : ∃ later, (controllers.insert insertion.1 insertion.2).find? key =
        some (packages ++ later) := by
      rw [find?_insert, present, Option.getD_some]
      split
      · obtain ⟨later, added⟩ := append_of_addNew insertion.2 packages
        exact ⟨later, congrArg some added⟩
      · exact ⟨[], by rw [List.append_nil]⟩
    obtain ⟨first, inserted⟩ := step
    obtain ⟨later, reached⟩ := ih inserted
    exact ⟨first ++ later, by rw [← List.append_assoc]; exact reached⟩

/-! ### All insertions -/

/-- A list of packages without repeats, unless there are none. -/
def listed (packages : List String) : Option (List String) :=
  if packages = [] then none else some packages.eraseDups

def packagesUnder (key : String) (insertions : List (String × String)) : List String :=
  (insertions.filter (·.1 = key)).map (·.2)

def packagesFor (key : String) (insertions : List (String × String)) : List String :=
  if key = monolithKey then insertions.map (·.2) else packagesUnder key insertions

theorem packagesFor_concat (key : String) (insertions : List (String × String))
    (insertion : String × String) :
    packagesFor key (insertions ++ [insertion]) =
      packagesFor key insertions ++
        if key = insertion.1 ∨ key = monolithKey then [insertion.2] else [] := by
  unfold packagesFor packagesUnder
  rw [List.filter_append, List.map_append, List.map_append]
  by_cases monolith : key = monolithKey
  · simp only [monolith, or_true, if_true, List.map_cons, List.map_nil]
  · simp only [monolith, or_false, if_false]
    by_cases same : key = insertion.1
    · simp [same]
    · simp [same, eq_comm]

theorem getD_listed (packages : List String) : (listed packages).getD [] = packages.eraseDups := by
  unfold listed
  split
  case isTrue none => rw [none]; rfl
  case isFalse => rfl

theorem listed_eq_some_iff {packages found : List String} :
    listed packages = some found ↔ packages ≠ [] ∧ packages.eraseDups = found := by
  unfold listed
  split
  case isTrue none => simp [none]
  case isFalse some => simp [some]

theorem eraseDups_append_singleton {α : Type} [BEq α] [LawfulBEq α] (items : List α) (item : α) :
    (items ++ [item]).eraseDups = items.eraseDups ++ if item ∈ items then [] else [item] := by
  rw [List.eraseDups_append]
  by_cases known : item ∈ items
  · simp [List.removeAll, known]
  · simp [List.removeAll, known, List.eraseDups_cons]

theorem eraseDups_concat (packages : List String) (package : String) :
    (packages ++ [package]).eraseDups = addNew package packages.eraseDups := by
  unfold addNew
  rw [eraseDups_append_singleton]
  by_cases known : package ∈ packages
  · rw [if_pos known, if_pos (List.mem_eraseDups.mpr known), List.append_nil]
  · rw [if_neg known, if_neg (List.mem_eraseDups.not.mpr known)]

theorem listed_concat (packages : List String) (package : String) :
    listed (packages ++ [package]) = some (addNew package ((listed packages).getD [])) := by
  have nonempty : packages ++ [package] ≠ [] := List.concat_ne_nil package packages
  rw [getD_listed, ← eraseDups_concat]
  exact if_neg nonempty

theorem find?_insertAll_empty (insertions : List (String × String)) (key : String) :
    (empty.insertAll insertions).find? key = listed (packagesFor key insertions) := by
  induction insertions using List.reverseRecOn with
  | nil =>
    unfold packagesFor
    split <;> rfl
  | append_singleton insertions insertion ih =>
    have step : empty.insertAll (insertions ++ [insertion]) =
        (empty.insertAll insertions).insert insertion.1 insertion.2 := List.foldl_append
    rw [step, find?_insert, ih, packagesFor_concat]
    split
    · rw [listed_concat]
    · rw [List.append_nil]

theorem nodup_eraseDups (packages : List String) : packages.eraseDups.Nodup := by
  induction packages using List.reverseRecOn with
  | nil => exact .nil
  | append_singleton packages package ih =>
    rw [eraseDups_concat]
    unfold addNew
    by_cases known : package ∈ packages.eraseDups
    · rwa [if_pos known]
    · rw [if_neg known]
      exact List.nodup_append.mpr ⟨ih, List.nodup_singleton _, by grind⟩

theorem sublist_eraseDups (packages : List String) : packages.eraseDups.Sublist packages := by
  induction packages using List.reverseRecOn with
  | nil => exact .slnil
  | append_singleton packages package ih =>
    rw [eraseDups_concat]
    unfold addNew
    by_cases known : package ∈ packages.eraseDups
    · rw [if_pos known]
      exact ih.trans (List.sublist_append_left _ _)
    · rw [if_neg known]
      exact ih.append (.refl _)

theorem packagesFor_subset (key : String) (insertions : List (String × String)) :
    packagesFor key insertions ⊆ insertions.map (·.2) := by
  unfold packagesFor packagesUnder
  split
  · exact List.Subset.refl _
  · exact List.map_subset _ (List.filter_subset_self _)

/-- What stands under a key is there once, and under the monolith key as well. -/
theorem insertAll_empty_covered {insertions : List (String × String)} {key : String}
    {packages : List String}
    (present : (empty.insertAll insertions).find? key = some packages) :
    packages.Nodup ∧ packages ⊆ (empty.insertAll insertions).monolith := by
  have under : packages = (packagesFor key insertions).eraseDups := by
    rw [← getD_listed, ← find?_insertAll_empty, present, Option.getD_some]
  have all : (empty.insertAll insertions).monolith = (insertions.map (·.2)).eraseDups := by
    unfold monolith
    rw [find?_insertAll_empty, getD_listed, packagesFor, if_pos rfl]
  rw [under, all]
  refine ⟨nodup_eraseDups _, fun package member => ?_⟩
  rw [List.mem_eraseDups] at member ⊢
  exact packagesFor_subset key insertions member

/-- After any operations, a key other than the monolith key is present if something was inserted
under it, and the monolith key if anything was inserted at all; both then hold their packages in the
order of first insertion. So no package stands twice under a key, the monolith key covers every
key, and one more operation only adds packages behind those that are there. -/
theorem ofOperations_lists (operations : List ControllerOperation) :
    let built := ofOperations operations
    let inserted := operations.flatMap (·.insertions)
    (∀ key, key ≠ monolithKey → built.find? key = listed (packagesUnder key inserted)) ∧
    built.find? monolithKey = listed (inserted.map (·.2)) ∧
    (∀ key packages, built.find? key = some packages →
      packages.Nodup ∧ packages ⊆ built.monolith) ∧
    ∀ operation key packages, built.find? key = some packages →
      ∃ later, (ControllerOperation.apply built operation).find? key =
        some (packages ++ later) := by
  intro built inserted
  have amounts : built = empty.insertAll inserted := ofOperations_eq_insertAll operations
  rw [amounts]
  refine ⟨fun key other => ?_, ?_, fun key packages => insertAll_empty_covered, ?_⟩
  · rw [find?_insertAll_empty, packagesFor, if_neg other]
  · rw [find?_insertAll_empty, packagesFor, if_pos rfl]
  · intro operation key packages present
    rw [apply_eq_insertAll]
    exact find?_insertAll_extends operation.insertions present

end ControllerMap

end ProviderGen
