import ProviderGen.Proofs.ControllerMap
import ProviderGen.Proofs.PackagePath

/-!
Which base controllers win. Those with a key of their own come first and keep their places; a
controller without a key that one of them names again is dropped where that one stands under the
config key, and under the monolith key, but not where it stands under another key.
-/

namespace ProviderGen

theorem Layout.package_eq_iff (layout : Layout) {relative other : String} :
    layout.package relative = layout.package other ↔
      PackagePath.segments relative = PackagePath.segments other := by
  unfold package
  rw [PackagePath.join_eq_join_iff, and_iff_right rfl]
  simp only [List.flatMap_cons, List.flatMap_nil, List.append_nil, List.append_cancel_left_eq]

namespace BasePackages

variable (base : BasePackages) (layout : Layout)

def keyed : List (String × String) :=
  base.controllerMap.map fun entry => (entry.key, layout.package entry.package)

def keyless : List String := base.controllers.map layout.package

end BasePackages

namespace ControllerMap

def under (controllers : ControllerMap) (key : String) : List String :=
  (controllers.find? key).getD []

theorem under_insertAll_empty (insertions : List (String × String)) (key : String) :
    (empty.insertAll insertions).under key = (packagesFor key insertions).eraseDups := by
  unfold under
  rw [find?_insertAll_empty, getD_listed]

theorem packagesFor_append (key : String) (insertions later : List (String × String)) :
    packagesFor key (insertions ++ later) =
      packagesFor key insertions ++ packagesFor key later := by
  unfold packagesFor packagesUnder
  split
  · exact List.map_append
  · rw [List.filter_append, List.map_append]

theorem packagesFor_pairs (key own : String) (packages : List String) :
    packagesFor key (packages.map fun package => (own, package)) =
      if key = own ∨ key = monolithKey then packages else [] := by
  unfold packagesFor packagesUnder
  by_cases monolith : key = monolithKey
  · rw [if_pos monolith, if_pos (.inr monolith), List.map_map]
    exact List.map_id packages
  · rw [if_neg monolith, List.filter_map, List.map_map]
    by_cases same : own = key
    · subst same
      rw [if_pos (.inl rfl)]
      simp [Function.comp_def]
    · rw [if_neg (not_or.mpr ⟨Ne.symm same, monolith⟩)]
      simp [Function.comp_def, same]

theorem ofBase_eq_insertAll (layout : Layout) (base : BasePackages) :
    ofBase layout base = empty.insertAll
      (base.keyed layout ++ (base.keyless layout).map fun package => (configKey, package)) := by
  have amounts := ofOperations_eq_insertAll
    [.insertEntries layout base.controllerMap, .insertKeyless layout base.controllers]
  unfold BasePackages.keyless
  rw [List.map_map]
  exact amounts.trans (congrArg (fun later => empty.insertAll (_ ++ later)) (List.append_nil _))

theorem under_ofBase (layout : Layout) (base : BasePackages) (key : String) :
    (ofBase layout base).under key =
      (packagesFor key (base.keyed layout)).eraseDups ++
        if key = configKey ∨ key = monolithKey then
          ((base.keyless layout).removeAll (packagesFor key (base.keyed layout))).eraseDups
        else [] := by
  rw [ofBase_eq_insertAll, under_insertAll_empty, packagesFor_append, packagesFor_pairs,
    List.eraseDups_append]
  split
  · rfl
  · rw [List.nil_removeAll]
    rfl

/-- How the base controllers with a key take precedence over those without one. Under the config key
they come first, and of the others only the locations follow that no controller with the config key
names; so under the monolith key, where any controller with a key is enough. All other keys hold
what names them. A location named by both is under the config key in any case, and dropped from the
later ones only where a controller with the config key names it; so it is there for such a
controller alone exactly if every location named by both has one. -/
theorem ofBase_precedence (layout : Layout) (base : BasePackages) :
    let seeded := ofBase layout base
    let keyed (key : String) := packagesUnder key (base.keyed layout)
    let named := (base.keyed layout).map (·.2)
    let keyless := base.keyless layout
    (∀ relative other, layout.package relative = layout.package other ↔
      PackagePath.segments relative = PackagePath.segments other) ∧
    seeded.under configKey =
      (keyed configKey).eraseDups ++ (keyless.removeAll (keyed configKey)).eraseDups ∧
    seeded.under monolithKey = named.eraseDups ++ (keyless.removeAll named).eraseDups ∧
    (∀ key, key ≠ configKey → key ≠ monolithKey → seeded.under key = (keyed key).eraseDups) ∧
    (∀ location ∈ named, location ∈ keyless → location ∈ seeded.under configKey ∧
      (location ∈ keyless.removeAll (keyed configKey) ↔ location ∉ keyed configKey)) ∧
    ((∀ location ∈ named, location ∈ keyless →
        (location ∈ seeded.under configKey ↔ location ∈ keyed configKey)) ↔
      ∀ location ∈ named, location ∈ keyless → location ∈ keyed configKey) := by
  intro seeded keyed named keyless
  have config : seeded.under configKey =
      (keyed configKey).eraseDups ++ (keyless.removeAll (keyed configKey)).eraseDups :=
    (under_ofBase layout base configKey).trans (by rw [if_pos (.inl rfl)]; rfl)
  have later {location : String} : location ∈ keyless.removeAll (keyed configKey) ↔
      location ∈ keyless ∧ location ∉ keyed configKey := by simp [List.removeAll]
  have present {location : String} (listed : location ∈ keyless) :
      location ∈ seeded.under configKey := by
    rw [config, List.mem_append, List.mem_eraseDups, List.mem_eraseDups, later]
    by_cases first : location ∈ keyed configKey
    · exact .inl first
    · exact .inr ⟨listed, first⟩
  refine ⟨fun _ _ => layout.package_eq_iff, config, ?monolith, ?others, ?both, ?alone⟩
  case monolith =>
    exact (under_ofBase layout base monolithKey).trans (by rw [if_pos (.inr rfl)]; rfl)
  case others =>
    intro key apart other
    rw [under_ofBase, if_neg (not_or.mpr ⟨apart, other⟩), List.append_nil, packagesFor,
      if_neg other]
  case both =>
    exact fun location _ listed => ⟨present listed, later.trans (and_iff_right listed)⟩
  case alone =>
    refine forall₃_congr fun location _ listed => ?_
    exact iff_true_left (present listed)

def seededTwice : BasePackages where
  controllers := ["internal/controller/eks", "internal/controller/config", "internal/features"]
  controllerMap := [⟨"internal/controller/config", "config"⟩, ⟨"internal/controller/eks", "eks"⟩]

theorem seededTwice_precedence :
    let layout : Layout := ⟨"m"⟩
    "eks" ≠ configKey ∧ "eks" ≠ monolithKey ∧
      (ofBase layout seededTwice).under "eks" = ["m/internal/controller/eks"] ∧
      "m/internal/controller/eks" ∈ (seededTwice.keyed layout).map (·.2) ∧
      "m/internal/controller/eks" ∈ seededTwice.keyless layout ∧
      "m/internal/controller/eks" ∈ (ofBase layout seededTwice).under configKey := by
  have precedence := ofBase_precedence ⟨"m"⟩ seededTwice
  have named : "m/internal/controller/eks" ∈ (seededTwice.keyed ⟨"m"⟩).map (·.2) := by decide
  have listed : "m/internal/controller/eks" ∈ seededTwice.keyless ⟨"m"⟩ := by decide
  have own := precedence.2.2.2.1 "eks" (by decide) (by decide)
  refine ⟨by decide, by decide, own.trans (by decide), named, listed, ?_⟩
  exact (precedence.2.2.2.2.1 _ named listed).1

def rewired : BasePackages where
  controllers := ["internal/controller/eks//clusterauth"]
  controllerMap := [⟨"internal/controller/eks/clusterauth", "eks"⟩]

/-- A location that stands under the key of its own is wired under the config key as well, although
no controller with the config key names it. -/
theorem rewired_twice :
    let layout : Layout := ⟨"example.org/provider"⟩
    let location := "example.org/provider/internal/controller/eks/clusterauth"
    rewired.keyed layout = [("eks", location)] ∧ rewired.keyless layout = [location] ∧
      (ofBase layout rewired).under "eks" = [location] ∧
      location ∈ (ofBase layout rewired).under configKey ∧
      ¬ ∃ entry ∈ rewired.controllerMap,
        layout.package entry.package = location ∧ entry.key = configKey := by
  decide

end ControllerMap

end ProviderGen
