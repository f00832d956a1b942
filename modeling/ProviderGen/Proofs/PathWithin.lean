import ProviderGen.Proofs.HostPath

/-!
Paths inside a directory. A path lies inside if its components are those of the directory followed
by relative ones that never climb above it; its location then lies at or below that of the
directory. Joining parts to a relative path stays inside exactly if no part is absolute and their
segments never climb.
-/

namespace ProviderGen

open Location (IsName)

namespace HostPath

/-- Whether segments, taken from `depth` directories below a root, never lead above the root. -/
def staysWithin : Nat → List String → Bool
  | _, [] => true
  | depth, segment :: rest =>
    if segment = ".." then depth != 0 && staysWithin (depth - 1) rest
    else staysWithin (depth + 1) rest

/-- A path that is its root followed by relative components that never climb above the root. -/
def Contains (root path : HostPath) : Prop :=
  ∃ segments, path.components = root.components ++ segments.map Component.ofName ∧
    staysWithin 0 segments = true

/-- Parts that lead inward from wherever they are joined to. -/
structure Inward (parts : List String) : Prop where
  relative : ∀ part ∈ parts, Text.startsWith '/' part = false
  within : staysWithin 0 (parts.flatMap PackagePath.segments) = true

theorem inward_iff {parts : List String} :
    Inward parts ↔ (∀ part ∈ parts, Text.startsWith '/' part = false) ∧
      staysWithin 0 (parts.flatMap PackagePath.segments) = true :=
  ⟨fun inward => ⟨inward.relative, inward.within⟩, fun both => ⟨both.1, both.2⟩⟩

instance (parts : List String) : Decidable (Inward parts) := decidable_of_iff _ inward_iff.symm

/-! ### Climbing -/

theorem staysWithin_up (depth : Nat) (rest : List String) :
    staysWithin depth (".." :: rest) = (depth != 0 && staysWithin (depth - 1) rest) := if_pos rfl

theorem staysWithin_down {segment : String} (down : segment ≠ "..") (depth : Nat)
    (rest : List String) :
    staysWithin depth (segment :: rest) = staysWithin (depth + 1) rest := if_neg down

theorem staysWithin_append {segments : List String} (down : ".." ∉ segments) (depth : Nat)
    (later : List String) :
    staysWithin depth (segments ++ later) = staysWithin (depth + segments.length) later := by
  induction segments generalizing depth with
  | nil => rfl
  | cons segment rest ih =>
    obtain ⟨first, others⟩ := not_or.mp (List.mem_cons.not.mp down)
    rw [List.cons_append, staysWithin_down (Ne.symm first), ih others, List.length_cons,
      Nat.add_assoc, Nat.add_comm 1]

theorem staysWithin_of_down {segments : List String} (down : ".." ∉ segments) (depth : Nat) :
    staysWithin depth segments = true := by
  have whole := staysWithin_append down depth []
  rw [List.append_nil] at whole
  rw [whole]
  rfl

theorem staysWithin_of_append {segments later : List String} {depth : Nat}
    (within : staysWithin depth (segments ++ later) = true) :
    staysWithin depth segments = true := by
  induction segments generalizing depth with
  | nil => rfl
  | cons segment rest ih =>
    rw [List.cons_append] at within
    by_cases up : segment = ".."
    · subst up
      rw [staysWithin_up, Bool.and_eq_true] at within ⊢
      exact ⟨within.1, ih within.2⟩
    · rw [staysWithin_down up] at within ⊢
      exact ih within

theorem staysWithin_append_down {segments later : List String} {depth : Nat}
    (within : staysWithin depth segments = true) (down : ".." ∉ later) :
    staysWithin depth (segments ++ later) = true := by
  induction segments generalizing depth with
  | nil => exact staysWithin_of_down down depth
  | cons segment rest ih =>
    rw [List.cons_append]
    by_cases up : segment = ".."
    · subst up
      rw [staysWithin_up, Bool.and_eq_true] at within ⊢
      exact ⟨within.1, ih within.2⟩
    · rw [staysWithin_down up] at within ⊢
      exact ih within

/-! ### Parts that lead inward -/

theorem Inward.of_append {front back : List String} (inward : Inward (front ++ back)) :
    Inward front where
  relative := fun part member => inward.relative part (List.mem_append_left _ member)
  within := by
    have within := inward.within
    rw [List.flatMap_append] at within
    exact staysWithin_of_append within

theorem Inward.append_name {front : List String} (inward : Inward front) {name : String}
    (proper : IsName name) : Inward (front ++ [name]) where
  relative := List.forall_mem_append.mpr
    ⟨inward.relative, List.forall_mem_singleton.mpr proper.relative⟩
  within := by
    rw [List.flatMap_append, List.flatMap_singleton, proper.segment.segments_eq]
    apply staysWithin_append_down inward.within
    exact fun up => proper.notUp (List.mem_singleton.mp up).symm

theorem inward_of_names {names : List String} (proper : ∀ name ∈ names, IsName name) :
    Inward names where
  relative := fun name member => (proper name member).relative
  within := staysWithin_of_down (Location.up_not_mem_of_names proper) 0

/-- Below a name, any one segment can stand before a last name. -/
theorem inward_of_unbroken {front : List String} {middle last : String}
    (down : ".." ∉ front.flatMap PackagePath.segments) (deep : ∃ name ∈ front, IsName name)
    (relative : ∀ part ∈ front, Text.startsWith '/' part = false)
    (unbroken : '/' ∉ middle.toList) (proper : IsName last) : Inward (front ++ [middle, last]) := by
  have level : (front.flatMap PackagePath.segments).length ≠ 0 := by
    obtain ⟨name, member, named⟩ := deep
    exact Nat.ne_zero_of_lt (List.length_pos_of_mem (named.mem_flatMap_segments member))
  have within : staysWithin (front.flatMap PackagePath.segments).length
      (PackagePath.segments middle) = true := by
    rw [PackagePath.segments_of_not_mem unbroken]
    split
    · rfl
    · by_cases up : middle = ".."
      · rw [up, staysWithin_up, Bool.and_eq_true, bne_iff_ne]
        exact ⟨level, rfl⟩
      · exact staysWithin_of_down (by simpa using Ne.symm up) _
  have inner : Inward (front ++ [middle]) := by
    constructor
    · exact List.forall_mem_append.mpr ⟨relative,
        List.forall_mem_singleton.mpr (Text.startsWith_of_not_mem unbroken)⟩
    · rw [List.flatMap_append, List.flatMap_singleton, staysWithin_append down, Nat.zero_add]
      exact within
  rw [List.append_cons]
  exact inner.append_name proper

/-! ### Components of joined paths -/

theorem Component.ofName_ne_root (segment : String) : Component.ofName segment ≠ .root := by
  unfold ofName
  split <;> exact nofun

def leading (path : HostPath) : List Component :=
  if path.isAbsolute then [.root] else if path.segments.head? = some "." then [.here] else []

theorem head?_segments_of_isAbsolute {path : HostPath} (absolute : path.isAbsolute = true) :
    path.segments.head? = some "" := by
  unfold isAbsolute Text.startsWith at absolute
  unfold segments Text.split
  cases letters : path.text.toList with
  | nil =>
    rw [letters] at absolute
    cases absolute
  | cons letter rest =>
    rw [letters] at absolute
    have slash : letter = '/' := Option.some.inj (beq_iff_eq.mp absolute)
    rw [List.splitOn_cons_eq_if_modifyHead, if_pos (beq_iff_eq.mpr slash)]
    rfl

theorem components_eq (path : HostPath) :
    path.components = path.leading ++ (PackagePath.segments path.text).map Component.ofName := by
  have cut := filterMap_ofSegment? path.text
  change (path.segments.map .ofText).filterMap Component.ofSegment? = _ at cut
  rw [← cut]
  unfold components leading
  cases pieces : path.segments with
  | nil =>
    have some : path.segments ≠ [] := by
      unfold segments Text.split
      simp [List.splitOn_ne_nil]
    exact absurd pieces some
  | cons first rest =>
    rw [List.map_cons, Component.ofSegments, List.head?_cons]
    by_cases absolute : path.isAbsolute = true
    · have empty := head?_segments_of_isAbsolute absolute
      rw [pieces] at empty
      cases empty
      rw [if_pos absolute, if_pos absolute]
      rfl
    rw [if_neg absolute, if_neg absolute]
    by_cases dot : first = "."
    · subst dot
      rfl
    rw [if_neg (fun same => dot (EntryName.ofText_injective same)),
      if_neg (fun same => dot (Option.some.inj same)), List.filterMap_cons]
    cases Component.ofSegment? first <;> rfl

theorem root_mem_components_iff {path : HostPath} :
    Component.root ∈ path.components ↔ path.isAbsolute = true := by
  have named : Component.root ∉ (PackagePath.segments path.text).map Component.ofName := by
    intro member
    obtain ⟨segment, _, root⟩ := List.mem_map.mp member
    exact Component.ofName_ne_root segment root
  rw [components_eq, List.mem_append, or_iff_left named]
  unfold leading
  split
  case isTrue absolute => simp [absolute]
  case isFalse relative => split <;> simp [relative]

theorem components_join_name (path : HostPath) {name : String} (proper : IsName name) :
    (path.join name).components = path.components ++ [.name name] := by
  have own : [name].map Component.ofName = [.name name] := by
    unfold Component.ofName
    rw [List.map_singleton, if_neg proper.notUp]
  by_cases some : path.text = ""
  · obtain ⟨text⟩ := path
    change text = "" at some
    subst some
    have joined : (⟨""⟩ : HostPath).join name = ⟨name⟩ := by
      unfold join
      rw [proper.relative, if_neg Bool.false_ne_true, if_pos (by simp), String.empty_append]
    have start : (⟨name⟩ : HostPath).leading = [] := by
      unfold leading
      rw [if_neg (by simpa [isAbsolute] using proper.relative), if_neg]
      unfold segments
      rw [Text.split_of_not_mem proper.segment.unbroken]
      exact fun dot => proper.segment.undotted (Option.some.inj dot)
    rw [joined, components_eq, start, proper.segment.segments_eq, own]
    rfl
  · rw [components_join some proper.relative, proper.segment.segments_eq, own]

theorem components_foldl_join {parts : List String} {path : HostPath} (some : path.text ≠ "")
    (relative : ∀ part ∈ parts, Text.startsWith '/' part = false) :
    (parts.foldl join path).components =
      path.components ++ (parts.flatMap PackagePath.segments).map Component.ofName := by
  induction parts generalizing path with
  | nil => exact (List.append_nil _).symm
  | cons part rest ih =>
    obtain ⟨first, later⟩ := List.forall_mem_cons.mp relative
    rw [List.foldl_cons, ih (text_join_ne_empty first (.inl some)) later,
      components_join some first, List.flatMap_cons, List.map_append, List.append_assoc]

theorem components_join_parts (root : HostPath) {name : String} {parts : List String}
    (proper : IsName name) (relative : ∀ part ∈ parts, Text.startsWith '/' part = false) :
    ((name :: parts).foldl join root).components =
      root.components ++ ((name :: parts).flatMap PackagePath.segments).map Component.ofName := by
  have named : (root.join name).text ≠ "" :=
    text_join_ne_empty proper.relative (.inr proper.segment.nonempty)
  rw [List.foldl_cons, components_foldl_join named relative, components_join_name root proper,
    List.flatMap_cons, proper.segment.segments_eq, List.append_assoc]
  unfold Component.ofName
  rw [List.singleton_append, List.singleton_append, List.map_cons, if_neg proper.notUp]

theorem isAbsolute_foldl_join (parts : List String) (path : HostPath) :
    (parts.foldl join path).isAbsolute =
      (path.isAbsolute || parts.any (Text.startsWith '/')) := by
  induction parts generalizing path with
  | nil => exact (Bool.or_false _).symm
  | cons part rest ih =>
    rw [List.foldl_cons, ih, List.any_cons]
    cases start : Text.startsWith '/' part with
    | false => rw [isAbsolute_join start, Bool.false_or]
    | true =>
      have replaced : path.join part = ⟨part⟩ := by
        unfold join
        rw [if_pos start]
      have absolute : (⟨part⟩ : HostPath).isAbsolute = true := start
      rw [replaced, absolute, Bool.true_or, Bool.or_true]

/-! ### Containment -/

variable {root path : HostPath} {name : String} {parts : List String}

theorem contains_congr {other : HostPath} (same : path.components = other.components) :
    root.Contains path ↔ root.Contains other := by
  unfold Contains
  rw [same]

theorem contains_of_inward (root : HostPath) (proper : IsName name)
    (inward : Inward (name :: parts)) : root.Contains ((name :: parts).foldl join root) := by
  obtain ⟨_, relative⟩ := List.forall_mem_cons.mp inward.relative
  exact ⟨_, components_join_parts root proper relative, inward.within⟩

theorem inward_of_contains (relativeRoot : root.isAbsolute = false) (proper : IsName name)
    (inside : root.Contains ((name :: parts).foldl join root)) : Inward (name :: parts) := by
  obtain ⟨segments, components, within⟩ := inside
  have notAbsolute : ((name :: parts).foldl join root).isAbsolute = false := by
    rw [← Bool.not_eq_true, ← root_mem_components_iff, components, List.mem_append]
    rintro (start | member)
    · rw [root_mem_components_iff, relativeRoot] at start
      cases start
    · obtain ⟨segment, _, same⟩ := List.mem_map.mp member
      exact Component.ofName_ne_root segment same
  rw [isAbsolute_foldl_join, relativeRoot, Bool.false_or] at notAbsolute
  have relative : ∀ part ∈ name :: parts, Text.startsWith '/' part = false := by
    simpa using notAbsolute
  rw [components_join_parts root proper (List.forall_mem_cons.mp relative).2] at components
  have injective : Function.Injective Component.ofName := fun _ _ => Component.ofName_injective
  have same := List.map_injective_iff.mpr injective (List.append_cancel_left components)
  exact ⟨relative, same ▸ within⟩

/-! ### Locations -/

def Component.segment? : Component → Option EntryName
  | .root => none
  | .here => none
  | .up => some ".."
  | .name own => some own

theorem filterMap_segment?_map_ofName (segments : List String) :
    (segments.map Component.ofName).filterMap Component.segment? = segments.map .ofText := by
  have each (segment : String) :
      (Component.ofName segment).segment? = some (.ofText segment) := by
    unfold Component.ofName
    split
    case isTrue up => rw [up]; rfl
    case isFalse => rfl
  have composed : Component.segment? ∘ Component.ofName = some ∘ .ofText := funext each
  rw [List.filterMap_map, composed, List.filterMap_eq_map]

theorem filterMap_segment?_components (path : HostPath) :
    path.components.filterMap Component.segment? =
      (PackagePath.segments path.text).map .ofText := by
  have start : path.leading.filterMap Component.segment? = [] := by
    unfold leading
    split
    · rfl
    · split <;> rfl
  rw [components_eq, List.filterMap_append, start, List.nil_append, filterMap_segment?_map_ofName]

theorem Contains.segments_eq (inside : root.Contains path) :
    path.isAbsolute = root.isAbsolute ∧ ∃ segments, PackagePath.segments path.text =
      PackagePath.segments root.text ++ segments ∧ staysWithin 0 segments = true := by
  obtain ⟨segments, components, within⟩ := inside
  constructor
  · rw [Bool.eq_iff_iff, ← root_mem_components_iff, ← root_mem_components_iff, components,
      List.mem_append, or_iff_left]
    intro member
    obtain ⟨segment, _, same⟩ := List.mem_map.mp member
    exact Component.ofName_ne_root segment same
  · refine ⟨segments, ?_, within⟩
    apply List.map_injective_iff.mpr EntryName.ofText_injective
    rw [← filterMap_segment?_components, components, List.filterMap_append,
      filterMap_segment?_components, filterMap_segment?_map_ofName, List.map_append]

end HostPath

namespace Location

theorem descend_segments (place : Location) (text : String) :
    place.descend ((Text.split '/' text).map .ofText) =
      place.descend ((PackagePath.segments text).map .ofText) := by
  unfold PackagePath.segments descend
  generalize Text.split '/' text = pieces
  induction pieces generalizing place with
  | nil => rfl
  | cons piece rest ih =>
    rw [List.map_cons, List.foldl_cons, ih]
    by_cases skipped : piece = "" ∨ piece = "."
    · have stays : place.step piece = place := by
        rcases skipped with rfl | rfl <;> rfl
      rw [stays, List.filter_cons_of_neg (by rcases skipped with rfl | rfl <;> decide)]
    · obtain ⟨nonempty, undotted⟩ := not_or.mp skipped
      rw [List.filter_cons_of_pos (by simp [nonempty, undotted]), List.map_cons, List.foldl_cons]

theorem prefix_descend {segments : List String}
    (proper : ∀ segment ∈ segments, PackagePath.IsSegment segment) (place below : Location)
    (within : HostPath.staysWithin below.length segments = true) :
    place <+: (place ++ below).descend (segments.map .ofText) := by
  induction segments generalizing below with
  | nil => exact List.prefix_append place below
  | cons segment rest ih =>
    obtain ⟨first, later⟩ := List.forall_mem_cons.mp proper
    change place <+: ((place ++ below).step segment).descend (rest.map .ofText)
    by_cases up : segment = ".."
    · subst up
      rw [HostPath.staysWithin_up, Bool.and_eq_true, bne_iff_ne] at within
      have deep : below ≠ [] := fun none => within.1 (List.length_eq_zero_iff.mpr none)
      have upward : (place ++ below).step ↑".." = (place ++ below).dropLast := rfl
      rw [upward, List.dropLast_append_of_ne_nil deep]
      exact ih later below.dropLast (by rw [List.length_dropLast]; exact within.2)
    · rw [HostPath.staysWithin_down up] at within
      rw [IsName.step ⟨first, up⟩, List.append_assoc]
      exact ih later (below ++ [.ofText segment]) (by rw [List.length_append]; exact within)

end Location

theorem FileTree.destination_eq_of_components (tree : FileTree) {path other : HostPath}
    (same : path.components = other.components) :
    tree.destination path = tree.destination other := by
  have absolute : path.isAbsolute = other.isAbsolute := by
    rw [Bool.eq_iff_iff, ← HostPath.root_mem_components_iff,
      ← HostPath.root_mem_components_iff, same]
  have cut : (PackagePath.segments path.text).map EntryName.ofText =
      (PackagePath.segments other.text).map .ofText := by
    rw [← HostPath.filterMap_segment?_components, same, HostPath.filterMap_segment?_components]
  unfold destination HostPath.segments
  rw [absolute, Location.descend_segments, Location.descend_segments, cut]

/-- A path inside a directory leads to a location at or below that of the directory. -/
theorem HostPath.Contains.destination_below {root path : HostPath} (inside : root.Contains path)
    (tree : FileTree) : tree.destination root <+: tree.destination path := by
  obtain ⟨absolute, segments, cut, within⟩ := inside.segments_eq
  have proper : ∀ segment ∈ segments, PackagePath.IsSegment segment := fun segment member =>
    PackagePath.isSegment_of_mem_segments (cut ▸ List.mem_append_right _ member)
  have whole : tree.destination path =
      (tree.destination root).descend (segments.map .ofText) := by
    unfold FileTree.destination HostPath.segments
    rw [absolute, Location.descend_segments, Location.descend_segments, cut, List.map_append]
    exact List.foldl_append
  have below := Location.prefix_descend proper (tree.destination root) [] within
  rwa [List.append_nil, ← whole] at below

end ProviderGen
