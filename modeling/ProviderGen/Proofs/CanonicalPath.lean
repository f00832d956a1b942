import ProviderGen.Proofs.BaseControllers
import ProviderGen.Proofs.RegisteredPackages

/-!
Joined paths as canonical forms. A join is told by the segments of its base and parts and by whether
the base is absolute, so it does not matter whether parts are joined at once or in steps, and
packages of one base are the same exactly if their segments are. Lists of packages that drop
repeated texts so drop repeated segments.
-/

namespace ProviderGen

namespace PackagePath

/-- What stands between the slashes of all parts, in order, without what is empty or a lone dot. -/
def properSegments (parts : List String) : List String :=
  (parts.flatMap (Text.split '/')).filter fun segment => segment ≠ "" ∧ segment ≠ "."

theorem flatMap_segments_eq (parts : List String) :
    parts.flatMap segments = properSegments parts := by
  unfold properSegments segments
  rw [List.filter_flatMap]
  congr 2
  funext part
  apply List.filter_congr
  intro segment _
  rw [Bool.eq_iff_iff, Bool.and_eq_true, bne_iff_ne, bne_iff_ne, decide_eq_true_iff]

def form (path : String) : Bool × List String := (isAbsolute path, segments path)

theorem form_join (base : String) (parts : List String) :
    form (join base parts) = (isAbsolute base, properSegments (base :: parts)) := by
  unfold form
  rw [isAbsolute_join, segments_join, flatMap_segments_eq]

theorem join_eq_join_iff_form {base other : String} {parts others : List String} :
    join base parts = join other others ↔
      isAbsolute base = isAbsolute other ∧
        properSegments (base :: parts) = properSegments (other :: others) := by
  rw [join_eq_join_iff, flatMap_segments_eq, flatMap_segments_eq]

theorem join_join (base : String) (parts more : List String) :
    join (join base parts) more = join base (parts ++ more) := by
  rw [join_eq_join_iff, isAbsolute_join]
  refine ⟨rfl, ?_⟩
  rw [List.flatMap_cons, segments_join, ← List.cons_append, List.flatMap_append]

end PackagePath

/-! ### First occurrences -/

theorem map_eraseDups {α β : Type} [BEq α] [LawfulBEq α] [BEq β] [LawfulBEq β] {f : α → β}
    {items : List α}
    (apart : ∀ first ∈ items, ∀ second ∈ items, f first = f second → first = second) :
    items.eraseDups.map f = (items.map f).eraseDups := by
  induction items using List.reverseRecOn with
  | nil => rfl
  | append_singleton items item ih =>
    have earlier : items.eraseDups.map f = (items.map f).eraseDups :=
      ih fun first listed second other =>
        apart first (List.mem_append_left _ listed) second (List.mem_append_left _ other)
    have known : f item ∈ items.map f ↔ item ∈ items := by
      refine ⟨fun member => ?_, List.mem_map_of_mem⟩
      obtain ⟨other, listed, same⟩ := List.mem_map.mp member
      have equal := apart other (List.mem_append_left _ listed) item
        (List.mem_append_right _ (List.mem_singleton_self item)) same
      exact equal ▸ listed
    rw [ControllerMap.eraseDups_append_singleton, List.map_append, List.map_append,
      List.map_singleton, ControllerMap.eraseDups_append_singleton, earlier]
    by_cases repeated : item ∈ items
    · rw [if_pos repeated, if_pos (known.mpr repeated), List.map_nil]
    · rw [if_neg repeated, if_neg (known.not.mpr repeated), List.map_singleton]

namespace PackagePath

theorem map_form_eraseDups (joins : List (String × List String)) :
    (joins.map fun parts => join parts.1 parts.2).eraseDups.map form =
      (joins.map fun parts =>
        (isAbsolute parts.1, properSegments (parts.1 :: parts.2))).eraseDups := by
  rw [map_eraseDups]
  · simp only [List.map_map, Function.comp_def, form_join]
  · intro first listed second other same
    obtain ⟨⟨base, parts⟩, _, rfl⟩ := List.mem_map.mp listed
    obtain ⟨⟨otherBase, otherParts⟩, _, rfl⟩ := List.mem_map.mp other
    rw [form_join, form_join, Prod.mk.injEq] at same
    exact join_eq_join_iff_form.mpr same

theorem map_segments_eraseDups (base : String) (partsOf : List (List String)) :
    (partsOf.map (join base)).eraseDups.map segments =
      (partsOf.map fun parts => properSegments (base :: parts)).eraseDups := by
  rw [map_eraseDups]
  · simp only [List.map_map, Function.comp_def, segments_join, flatMap_segments_eq]
  · intro first listed second other same
    obtain ⟨parts, _, rfl⟩ := List.mem_map.mp listed
    obtain ⟨others, _, rfl⟩ := List.mem_map.mp other
    rw [segments_join, segments_join] at same
    exact join_eq_join_iff.mpr ⟨rfl, same⟩

/-- Joining gives the one path with the segments of base and parts that is absolute if the base is.
Joining in steps is joining at once, and joining nothing more changes nothing. Two joins give one
path exactly if both are absolute or neither is, and their segments are the same; so lists of
packages without repeated texts, as they are registered and as they stand under a key, are lists
without repeated segments, in the order of first occurrence. -/
theorem join_canonical (base : String) (parts : List String) :
    join base parts = (if isAbsolute base then "/" else "") ++
      Text.joined '/' (properSegments (base :: parts)) ∧
    (isAbsolute (join base parts) = isAbsolute base ∧
      segments (join base parts) = properSegments (base :: parts)) ∧
    ((∀ more, join (join base parts) more = join base (parts ++ more)) ∧
      join (join base parts) [] = join base parts) ∧
    (∀ other others, join base parts = join other others ↔
      isAbsolute base = isAbsolute other ∧
        properSegments (base :: parts) = properSegments (other :: others)) ∧
    (∀ joins : List (String × List String),
      (ApiPackages.unique (joins.map fun parts => join parts.1 parts.2)).map form =
        (joins.map fun parts =>
          (isAbsolute parts.1, properSegments (parts.1 :: parts.2))).eraseDups) ∧
    ∀ (key : String) (partsOf : List (List String)),
      (ApiPackages.unique (partsOf.map (join base))).map segments =
        (partsOf.map fun parts => properSegments (base :: parts)).eraseDups ∧
      ((ControllerMap.empty.insertAll (partsOf.map fun parts => (key, join base parts))).under
          key).map segments =
        (partsOf.map fun parts => properSegments (base :: parts)).eraseDups := by
  refine ⟨?text, ⟨isAbsolute_join base parts, ?segments⟩, ⟨join_join base parts, ?again⟩,
    fun _ _ => join_eq_join_iff_form, fun joins => ?forms, fun key partsOf => ⟨?listed, ?keyed⟩⟩
  case text =>
    rw [← flatMap_segments_eq]
    rfl
  case segments => rw [segments_join, flatMap_segments_eq]
  case again => rw [join_join, List.append_nil]
  case forms =>
    rw [ApiPackages.unique_eq_eraseDups]
    exact map_form_eraseDups joins
  case listed =>
    rw [ApiPackages.unique_eq_eraseDups]
    exact map_segments_eraseDups base partsOf
  case keyed =>
    have pairs : (partsOf.map fun parts => (key, join base parts)) =
        (partsOf.map (join base)).map fun package => (key, package) := by
      rw [List.map_map]
      rfl
    rw [pairs, ControllerMap.under_insertAll_empty, ControllerMap.packagesFor_pairs,
      if_pos (.inl rfl)]
    exact map_segments_eraseDups base partsOf

end PackagePath

end ProviderGen
