import Mathlib.Data.List.Induction
import ProviderGen.Proofs.BucketPlace
import ProviderGen.Proofs.PathWithin

/-!
How import paths and directories correspond. A package of the module and its directory below an
output are named by the same parts, which are joined as segments of an import path and as parts of a
host path. Both lead the same way unless a part starts with a slash: in an import path that is one
more slash to drop, while in a host path the part replaces everything before it.
-/

namespace ProviderGen

open Location (IsName)

namespace HostPath

/-! ### Parts that start over -/

theorem join_absolute (path : HostPath) {part : String}
    (absolute : Text.startsWith '/' part = true) : path.join part = ⟨part⟩ := by
  unfold join
  rw [if_pos absolute]

theorem components_absolute {part : String} (absolute : Text.startsWith '/' part = true) :
    (⟨part⟩ : HostPath).components =
      .root :: (PackagePath.segments part).map Component.ofName := by
  have start : (⟨part⟩ : HostPath).leading = [.root] := if_pos absolute
  rw [components_eq, start, List.singleton_append]

theorem text_foldl_join_ne_empty {parts : List String} {path : HostPath} (some : path.text ≠ "") :
    (parts.foldl join path).text ≠ "" := by
  induction parts generalizing path with
  | nil => exact some
  | cons part rest ih =>
    rw [List.foldl_cons]
    apply ih
    cases start : Text.startsWith '/' part with
    | false => exact text_join_ne_empty start (.inl some)
    | true =>
      rw [join_absolute path start]
      rintro rfl
      cases start

/-- After a name, parts add the components of their segments to a path exactly if none of them
starts over. The last part decides first: if it is absolute, only the root stands before its
segments, where the name would have to be. -/
theorem components_join_parts_iff (root : HostPath) {name : String} {parts : List String}
    (proper : IsName name) :
    ((name :: parts).foldl join root).components =
        root.components ++ ((name :: parts).flatMap PackagePath.segments).map Component.ofName ↔
      ∀ part ∈ parts, Text.startsWith '/' part = false := by
  refine ⟨fun same => ?_, components_join_parts root proper⟩
  induction parts using List.reverseRecOn with
  | nil => exact nofun
  | append_singleton parts last ih =>
    have named : (root.join name).text ≠ "" :=
      text_join_ne_empty proper.relative (.inr proper.segment.nonempty)
    have before : ((name :: parts).foldl join root).text ≠ "" := by
      rw [List.foldl_cons]
      exact text_foldl_join_ne_empty named
    rw [← List.cons_append, List.foldl_append, List.flatMap_append, List.map_append,
      List.flatMap_singleton, ← List.append_assoc] at same
    change (((name :: parts).foldl join root).join last).components = _ at same
    cases start : Text.startsWith '/' last with
    | true =>
      rw [join_absolute _ start, components_absolute start, ← List.singleton_append] at same
      have alone := List.append_cancel_right same
      have listed : name ∈ (name :: parts).flatMap PackagePath.segments :=
        proper.mem_flatMap_segments List.mem_cons_self
      have member : Component.ofName name ∈ [Component.root] :=
        alone ▸ List.mem_append_right _ (List.mem_map_of_mem listed)
      exact absurd (List.mem_singleton.mp member) (Component.ofName_ne_root name)
    | false =>
      rw [components_join before start] at same
      exact List.forall_mem_append.mpr ⟨ih (List.append_cancel_right same),
        List.forall_mem_singleton.mpr start⟩

end HostPath

/-! ### Packages of a module -/

namespace Layout

variable (layout : Layout)

theorem segments_apiPackage (group version : String) :
    PackagePath.segments (layout.apiPackage group version) =
      PackagePath.segments layout.modulePath ++
        ["apis", Text.lowercase (groupLabel group), version].flatMap PackagePath.segments := by
  unfold apiPackage apiGroupBase
  simp only [PackagePath.segments_join, List.flatMap_cons, List.flatMap_nil, List.append_nil,
    List.append_assoc]

theorem segments_controllerPackage (group kind : String) :
    PackagePath.segments (layout.controllerPackage group kind) =
      PackagePath.segments layout.modulePath ++
        ["internal", "controller", Text.lowercase (groupLabel group), Text.lowercase kind].flatMap
          PackagePath.segments :=
  PackagePath.segments_join layout.modulePath _

/-- Below the segments of the module, the package of a version has those that its directory has
below the output, exactly if neither the label of the group nor the version starts with a slash; and
so the package and the directory of a controller, with the kind in lowercase for the version. -/
theorem directories_follow_packages (root : HostPath) (group version kind : String) :
    (∃ below, PackagePath.segments (layout.apiPackage group version) =
        PackagePath.segments layout.modulePath ++ below ∧
      ((apiDirectory root group version).components =
          root.components ++ below.map HostPath.Component.ofName ↔
        Text.startsWith '/' (Text.lowercase (groupLabel group)) = false ∧
          Text.startsWith '/' version = false)) ∧
    ∃ below, PackagePath.segments (layout.controllerPackage group kind) =
        PackagePath.segments layout.modulePath ++ below ∧
      ((controllerDirectory root group kind).components =
          root.components ++ below.map HostPath.Component.ofName ↔
        Text.startsWith '/' (Text.lowercase (groupLabel group)) = false ∧
          Text.startsWith '/' (Text.lowercase kind) = false) := by
  have apis : IsName "apis" := by decide
  have internal : IsName "internal" := by decide
  have controller : Text.startsWith '/' "controller" = false := by decide
  have types : apiDirectory root group version =
      ["apis", Text.lowercase (groupLabel group), version].foldl HostPath.join root := rfl
  have controllers : controllerDirectory root group kind =
      ["internal", "controller", Text.lowercase (groupLabel group), Text.lowercase kind].foldl
        HostPath.join root := rfl
  refine ⟨⟨_, layout.segments_apiPackage group version, ?_⟩,
    ⟨_, layout.segments_controllerPackage group kind, ?_⟩⟩
  · rw [types, HostPath.components_join_parts_iff root apis]
    simp only [List.forall_mem_cons, List.not_mem_nil, false_implies, implies_true, and_true]
  · rw [controllers, HostPath.components_join_parts_iff root internal]
    simp only [List.forall_mem_cons, List.not_mem_nil, false_implies, implies_true, and_true,
      controller, true_and]

end Layout

end ProviderGen
