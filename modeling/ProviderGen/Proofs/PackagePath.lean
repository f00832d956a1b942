import ProviderGen.PackagePath
import ProviderGen.Proofs.Split

/-!
Import paths as lists of segments. Joining keeps the segments of all parts and whether the base is
absolute, and a joined path is settled by these two.
-/

namespace ProviderGen.PackagePath

/-- What a segment of an import path is: not empty, not a lone dot, and without a slash. -/
structure IsSegment (segment : String) : Prop where
  nonempty : segment ≠ ""
  undotted : segment ≠ "."
  unbroken : '/' ∉ segment.toList

theorem isSegment_of_mem_segments {path segment : String} (member : segment ∈ segments path) :
    IsSegment segment := by
  obtain ⟨cut, kept⟩ := List.mem_filter.mp member
  rw [Bool.and_eq_true, bne_iff_ne, bne_iff_ne] at kept
  exact ⟨kept.1, kept.2, Text.not_mem_of_mem_split cut⟩

theorem isSegment_of_mem_flatMap {parts : List String} {segment : String}
    (member : segment ∈ parts.flatMap segments) : IsSegment segment := by
  obtain ⟨part, _, member⟩ := List.mem_flatMap.mp member
  exact isSegment_of_mem_segments member

theorem segments_of_not_mem {name : String} (unbroken : '/' ∉ name.toList) :
    segments name = if name = "" ∨ name = "." then [] else [name] := by
  unfold segments
  rw [Text.split_of_not_mem unbroken]
  split
  case isTrue skipped => rcases skipped with rfl | rfl <;> rfl
  case isFalse counts =>
    obtain ⟨nonempty, undotted⟩ := not_or.mp counts
    exact List.filter_cons_of_pos (by simp [nonempty, undotted])

theorem IsSegment.segments_eq {name : String} (proper : IsSegment name) :
    segments name = [name] := by
  rw [segments_of_not_mem proper.unbroken, if_neg]
  exact not_or.mpr ⟨proper.nonempty, proper.undotted⟩

theorem segments_joined {names : List String} (proper : ∀ name ∈ names, IsSegment name) :
    segments (Text.joined '/' names) = names := by
  unfold segments
  by_cases none : names = []
  · subst none
    rfl
  · rw [Text.split_joined (fun name member => (proper name member).unbroken) none]
    apply List.filter_eq_self.mpr
    intro name member
    rw [Bool.and_eq_true, bne_iff_ne, bne_iff_ne]
    exact ⟨(proper name member).nonempty, (proper name member).undotted⟩

theorem segments_slash_append (path : String) : segments ("/" ++ path) = segments path := by
  have cut : Text.split '/' ("/" ++ path) = Text.split '/' "" ++ Text.split '/' path :=
    Text.split_append '/' "" path
  have nothing : (Text.split '/' "").filter (fun segment => segment != "" && segment != ".") = [] :=
    rfl
  unfold segments
  rw [cut, List.filter_append, nothing, List.nil_append]

theorem segments_join (base : String) (parts : List String) :
    segments (join base parts) = (base :: parts).flatMap segments := by
  have proper : ∀ name ∈ (base :: parts).flatMap segments, IsSegment name :=
    fun _ => isSegment_of_mem_flatMap
  have joined := segments_joined proper
  unfold join
  split
  · rw [segments_slash_append, joined]
  · rw [String.empty_append, joined]

theorem isAbsolute_joined {names : List String} (proper : ∀ name ∈ names, IsSegment name) :
    isAbsolute (Text.joined '/' names) = false := by
  cases names with
  | nil => rfl
  | cons name rest =>
    have name_proper := proper name List.mem_cons_self
    cases letters : name.toList with
    | nil => exact absurd (String.toList_eq_nil_iff.mp letters) name_proper.nonempty
    | cons letter later =>
      have start : letter ≠ '/' := by
        rintro rfl
        exact name_proper.unbroken (letters ▸ List.mem_cons_self)
      have head : (Text.joined '/' (name :: rest)).toList.head? = some letter := by
        unfold Text.joined
        rw [String.toList_ofList, List.map_cons, letters]
        cases rest with
        | nil => rfl
        | cons => rw [List.map_cons, List.intercalate_cons_cons]; rfl
      unfold isAbsolute Text.startsWith
      rw [head]
      exact beq_eq_false_iff_ne.mpr fun same => start (Option.some.inj same)

theorem isAbsolute_join (base : String) (parts : List String) :
    isAbsolute (join base parts) = isAbsolute base := by
  have proper : ∀ name ∈ (base :: parts).flatMap segments, IsSegment name :=
    fun _ => isSegment_of_mem_flatMap
  have relative := isAbsolute_joined proper
  unfold join
  by_cases absolute : isAbsolute base = true
  · rw [if_pos absolute, absolute]
    unfold isAbsolute Text.startsWith
    rw [String.toList_append]
    rfl
  · rw [if_neg absolute, String.empty_append, relative]
    exact (Bool.eq_false_iff.mpr absolute).symm

/-- Two joins give one path exactly if both are absolute or neither is, and their segments are the
same. -/
theorem join_eq_join_iff {base other : String} {parts others : List String} :
    join base parts = join other others ↔
      isAbsolute base = isAbsolute other ∧
        (base :: parts).flatMap segments = (other :: others).flatMap segments := by
  constructor
  · intro same
    rw [← isAbsolute_join base parts, ← segments_join, same, isAbsolute_join, segments_join]
    exact ⟨rfl, rfl⟩
  · rintro ⟨absolute, same⟩
    unfold join
    rw [absolute, same]

end ProviderGen.PackagePath
