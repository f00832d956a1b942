import Mathlib.Data.List.Basic
import ProviderGen.Files.Tree
import ProviderGen.Proofs.PackagePath
import ProviderGen.Proofs.RawPath

/-!
Where joined paths of the host lead. A relative part adds its components to those of a path, and
the location of a path that can be resolved is told by its segments alone: it does not depend on the
directories that are walked through.
-/

namespace ProviderGen

namespace HostPath

/-- Joining a relative part cuts into the segments of both; an empty segment at the end of the path
is lost. -/
theorem segments_join (path : HostPath) {part : String}
    (relative : Text.startsWith '/' part = false) :
    ∃ kept, (path.join part).segments = kept ++ Text.split '/' part ∧
      (path.segments = kept ∨ path.segments = kept ++ [""]) := by
  unfold join
  rw [relative, if_neg Bool.false_ne_true]
  by_cases closed : path.text = "" ∨ path.text.toList.getLast? = some '/'
  · rw [if_pos (by simpa using closed)]
    rcases closed with empty | slash
    · refine ⟨[], ?_, .inr ?_⟩
      · unfold segments
        rw [empty, String.empty_append, List.nil_append]
      · unfold segments
        rw [empty]
        rfl
    · obtain ⟨letters, spelled⟩ := List.getLast?_eq_some_iff.mp slash
      have text : path.text = String.ofList letters ++ "/" := by
        apply String.toList_injective
        rw [spelled, String.toList_append, String.toList_ofList]
        rfl
      refine ⟨Text.split '/' (String.ofList letters), ?_, .inr ?_⟩
      · unfold segments
        rw [text]
        exact Text.split_append '/' _ part
      · have cut := Text.split_append '/' (String.ofList letters) ""
        unfold segments
        rw [text]
        rwa [String.append_empty] at cut
  · rw [if_neg (by simpa using closed)]
    exact ⟨path.segments, Text.split_append '/' path.text part, .inl rfl⟩

theorem text_join_ne_empty {path : HostPath} {part : String}
    (relative : Text.startsWith '/' part = false) (some : path.text ≠ "" ∨ part ≠ "") :
    (path.join part).text ≠ "" := by
  unfold join
  rw [relative, if_neg Bool.false_ne_true]
  split
  · intro empty
    obtain ⟨path_empty, part_empty⟩ := String.append_eq_empty_iff.mp empty
    exact some.elim (· path_empty) (· part_empty)
  · simp

theorem isAbsolute_join {path : HostPath} {part : String}
    (relative : Text.startsWith '/' part = false) :
    (path.join part).isAbsolute = path.isAbsolute := by
  unfold join isAbsolute
  rw [relative, if_neg Bool.false_ne_true]
  unfold Text.startsWith at *
  cases letters : path.text.toList with
  | nil =>
    have empty : path.text = "" := String.toList_eq_nil_iff.mp letters
    simp [empty, relative]
  | cons letter rest =>
    split <;> simp [letters]

/-! ### Components -/

def Component.ofName (segment : String) : Component :=
  if segment = ".." then .up else .name segment

theorem Component.ofName_injective {first second : String} (same : ofName first = ofName second) :
    first = second := by
  unfold ofName at same
  split at same <;> split at same <;> simp_all

theorem filterMap_ofSegment? (part : String) :
    ((Text.split '/' part).map .ofText).filterMap Component.ofSegment? =
      (PackagePath.segments part).map Component.ofName := by
  unfold PackagePath.segments
  rw [List.filterMap_map, ← List.filterMap_eq_map (f := Component.ofName), List.filterMap_filter]
  apply List.filterMap_congr
  intro segment _
  unfold Function.comp Component.ofSegment?
  by_cases skipped : segment = "" ∨ segment = "."
  · rcases skipped with rfl | rfl <;> rfl
  · obtain ⟨nonempty, undotted⟩ := not_or.mp skipped
    have kept : (segment != "" && segment != ".") = true := by simp [nonempty, undotted]
    rw [if_neg (by simp [nonempty, undotted]), if_pos kept]
    unfold Component.ofName
    simp only [EntryName.ofText_inj]
    exact (apply_ite some (segment = "..") _ _).symm

theorem components_join {path : HostPath} {part : String} (some : path.text ≠ "")
    (relative : Text.startsWith '/' part = false) :
    (path.join part).components =
      path.components ++ (PackagePath.segments part).map Component.ofName := by
  obtain ⟨kept, cut, before⟩ := segments_join path relative
  rw [← filterMap_ofSegment?]
  unfold components
  rw [cut, isAbsolute_join relative, List.map_append]
  cases kept with
  | nil =>
    have empty : path.text = "" := by
      rw [← Text.joined_split '/' path.text]
      change Text.joined '/' path.segments = ""
      rcases before with before | before <;> rw [before] <;> rfl
    exact absurd empty some
  | cons first rest =>
    have none : [EntryName.ofText ""].filterMap Component.ofSegment? = [] := rfl
    rcases before with before | before
    · simp only [before, List.map_cons, List.cons_append, Component.ofSegments,
        List.filterMap_append, List.append_assoc]
    · simp only [before, List.map_append, List.map_cons, List.map_nil, List.cons_append,
        Component.ofSegments, List.filterMap_append, none, List.append_nil, List.append_assoc]

end HostPath

/-! ### Locations -/

namespace Location

def step (place : Location) (segment : EntryName) : Location :=
  if segment = "" ∨ segment = "." then place
  else if segment = ".." then place.dropLast
  else place ++ [segment]

def descend (place : Location) (segments : List EntryName) : Location := segments.foldl step place

structure IsName (name : String) : Prop where
  segment : PackagePath.IsSegment name
  notUp : name ≠ ".."

instance (name : String) : Decidable (IsName name) :=
  decidable_of_iff ((name ≠ "" ∧ name ≠ "." ∧ '/' ∉ name.toList) ∧ name ≠ "..")
    ⟨fun ⟨⟨nonempty, undotted, unbroken⟩, notUp⟩ => ⟨⟨nonempty, undotted, unbroken⟩, notUp⟩,
      fun ⟨segment, notUp⟩ => ⟨⟨segment.nonempty, segment.undotted, segment.unbroken⟩, notUp⟩⟩

theorem descend_eq_append {segments : List EntryName} (level : ↑".." ∉ segments)
    (place : Location) :
    place.descend segments =
      place ++ segments.filter fun segment : EntryName => segment != "" && segment != "." := by
  induction segments generalizing place with
  | nil => exact (List.append_nil place).symm
  | cons segment rest ih =>
    obtain ⟨notUp, later⟩ := not_or.mp (List.mem_cons.not.mp level)
    have stepped : place.descend (segment :: rest) = (place.step segment).descend rest := rfl
    rw [stepped, ih later]
    unfold step
    by_cases skipped : segment = "" ∨ segment = "."
    · rw [if_pos skipped,
        List.filter_cons_of_neg (by rcases skipped with rfl | rfl <;> decide)]
    · obtain ⟨nonempty, undotted⟩ := not_or.mp skipped
      rw [if_neg skipped, if_neg (Ne.symm notUp),
        List.filter_cons_of_pos (by simp [nonempty, undotted]), List.append_assoc]
      rfl

theorem descend_split {part : String} (level : ".." ∉ PackagePath.segments part)
    (place : Location) :
    place.descend ((Text.split '/' part).map .ofText) =
      place ++ (PackagePath.segments part).map .ofText := by
  rw [descend_eq_append, List.filter_map]
  · unfold PackagePath.segments
    congr 2
    apply List.filter_congr
    intro segment _
    simp [bne, beq_eq_decide]
  · intro up
    obtain ⟨segment, member, dots⟩ := List.mem_map.mp up
    rw [EntryName.ofText_injective dots] at member
    exact level (List.mem_filter.mpr ⟨member, rfl⟩)

theorem IsName.relative {name : String} (proper : IsName name) :
    Text.startsWith '/' name = false := Text.startsWith_of_not_mem proper.segment.unbroken

theorem step_of_proper {name : EntryName} (proper : name.Proper) (place : Location) :
    place.step name = place ++ [name] := by
  unfold step
  rw [if_neg (not_or.mpr ⟨proper.nonempty, proper.undotted⟩), if_neg proper.notUp]

theorem descend_names {names : List EntryName} (proper : ∀ name ∈ names, name.Proper)
    (place : Location) : place.descend names = place ++ names := by
  induction names generalizing place with
  | nil => exact (List.append_nil place).symm
  | cons name rest ih =>
    obtain ⟨first, later⟩ := List.forall_mem_cons.mp proper
    have stepped : place.descend (name :: rest) = (place.step name).descend rest := rfl
    rw [stepped, step_of_proper first, ih later, List.append_assoc]
    rfl

theorem IsName.step {name : String} (proper : IsName name) (place : Location) :
    place.step name = place ++ [EntryName.ofText name] := by
  unfold Location.step
  simp only [EntryName.ofText_inj]
  rw [if_neg (not_or.mpr ⟨proper.segment.nonempty, proper.segment.undotted⟩), if_neg proper.notUp]

theorem IsName.mem_flatMap_segments {name : String} (proper : IsName name) {parts : List String}
    (member : name ∈ parts) : name ∈ parts.flatMap PackagePath.segments := by
  have piece : name ∈ PackagePath.segments name := by
    rw [proper.segment.segments_eq]
    exact List.mem_singleton_self name
  exact List.mem_flatMap.mpr ⟨name, member, piece⟩

theorem up_not_mem_of_names {names : List String} (proper : ∀ name ∈ names, IsName name) :
    ".." ∉ names.flatMap PackagePath.segments := by
  intro up
  obtain ⟨name, member, piece⟩ := List.mem_flatMap.mp up
  rw [(proper name member).segment.segments_eq] at piece
  exact (proper name member).notUp (List.mem_singleton.mp piece).symm

end Location

namespace FileTree

def destination (tree : FileTree) (path : HostPath) : Location :=
  (tree.start path.isAbsolute).descend (path.segments.map .ofText)

theorem eq_descend_of_walk {tree : FileTree} {segments : List EntryName} {place found : Location}
    (walked : tree.walk place segments = .ok found) : found = place.descend segments := by
  induction segments generalizing place with
  | nil => exact (Except.ok.inj walked).symm
  | cons segment rest ih =>
    rw [walk] at walked
    unfold Location.descend
    rw [List.foldl_cons, Location.step]
    split at walked
    case h_1 => cases walked
    case h_2 => cases walked
    case h_3 =>
      simp only [Bool.or_eq_true, decide_eq_true_eq] at walked
      split at walked
      case isTrue skipped =>
        rw [if_pos skipped]
        exact ih walked
      case isFalse counts =>
        rw [if_neg counts]
        split at walked
        case isTrue up =>
          rw [if_pos up]
          exact ih walked
        case isFalse down =>
          rw [if_neg down]
          split at walked
          case isTrue => cases walked
          case isFalse => exact ih walked

theorem locateRaw_eq_ok_iff {tree : FileTree} {path : RawPath} {place : Location} :
    tree.locateRaw path = .ok place ↔
      checkPath path = .ok () ∧
        tree.walk (tree.start path.isAbsolute) path.segments = .ok place := by
  unfold locateRaw
  cases checkPath path with
  | error failure => simp
  | ok => simp

theorem locate_eq_ok_iff {tree : FileTree} {path : HostPath} {place : Location} :
    tree.locate path = .ok place ↔
      checkPath path.raw = .ok () ∧
        tree.walk (tree.start path.isAbsolute) (path.segments.map .ofText) = .ok place := by
  unfold locate
  rw [locateRaw_eq_ok_iff, HostPath.raw_isAbsolute, HostPath.raw_segments]

theorem eq_destination_of_locate {tree : FileTree} {path : HostPath} {found : Location}
    (located : tree.locate path = .ok found) : found = tree.destination path :=
  eq_descend_of_walk (locate_eq_ok_iff.mp located).2

theorem destination_congr {tree other : FileTree}
    (together : tree.workingDirectory = other.workingDirectory) (path : HostPath) :
    tree.destination path = other.destination path := by
  unfold destination FileTree.start
  rw [together]

theorem destination_join (tree : FileTree) {path : HostPath} {part : String}
    (relative : Text.startsWith '/' part = false) :
    tree.destination (path.join part) =
      (tree.destination path).descend ((Text.split '/' part).map .ofText) := by
  obtain ⟨kept, cut, before⟩ := HostPath.segments_join path relative
  unfold destination Location.descend
  rw [HostPath.isAbsolute_join relative, cut, List.map_append, List.foldl_append]
  rcases before with before | before
  · rw [before]
  · rw [before, List.map_append, List.foldl_append]
    rfl

theorem destination_join_name (tree : FileTree) {path : HostPath} {name : String}
    (proper : Location.IsName name) :
    tree.destination (path.join name) = tree.destination path ++ [EntryName.ofText name] := by
  rw [tree.destination_join proper.relative, Text.split_of_not_mem proper.segment.unbroken]
  exact proper.step _

end FileTree

end ProviderGen
