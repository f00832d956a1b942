import Mathlib.Data.List.Basic
import ProviderGen.HostPath
import ProviderGen.Proofs.ByteOrder
import ProviderGen.Proofs.Split

/-!
Paths as bytes. A path that is a text has the bytes of the text, and is cut at the same slashes: no
other character has the byte of a slash in its encoding. A name is put after the segments of a path.
-/

namespace ProviderGen

theorem Text.ofBytes?_bytes (text : String) : ofBytes? (bytes text) = some text := by
  unfold ofBytes? bytes String.fromUTF8?
  rw [Array.toArray_toList, String.toUTF8_eq_toByteArray, dif_pos text.isValidUTF8]
  rfl

theorem Text.bytes_injective {text other : String} (same : bytes text = bytes other) :
    text = other := by
  apply Option.some.inj
  rw [← ofBytes?_bytes, ← ofBytes?_bytes, same]

theorem Text.bytes_eq_nil_iff {text : String} : bytes text = [] ↔ text = "" :=
  ⟨fun none => bytes_injective none, fun empty => empty ▸ rfl⟩

theorem Text.bytes_append (text other : String) :
    bytes (text ++ other) = bytes text ++ bytes other := by
  rw [bytes_eq_flatMap, bytes_eq_flatMap, bytes_eq_flatMap, String.toList_append,
    List.flatMap_append]

/-- Bytes below 128 encode nothing but the character with their code. -/
theorem Text.toNat_eq_of_mem_utf8EncodeChar {c : Char} {b : UInt8} (ascii : b.toNat < 0x80)
    (member : b ∈ String.utf8EncodeChar c) : c.toNat = b.toNat := by
  have bound := code_lt c
  rw [utf8EncodeChar_eq] at member
  generalize c.toNat = code at bound member
  have later {count : Nat} (continues : b ∈ continuation count code) : 0x80 ≤ b.toNat := by
    induction count with
    | zero => cases continues
    | succ count ih =>
      rcases List.mem_cons.mp continues with rfl | continues
      · rw [UInt8.toNat_ofNat']
        omega
      · exact ih continues
  rcases List.mem_cons.mp member with rfl | continues
  · rw [UInt8.toNat_ofNat'] at ascii ⊢
    simp only [leading, withoutLast] at ascii ⊢
    split_ifs at ascii ⊢ <;> omega
  · exact absurd (later continues) (Nat.not_le.mpr ascii)

namespace EntryName

theorem ofText_injective : Function.Injective ofText :=
  fun _ _ same => Text.bytes_injective (EntryName.mk.inj same)

@[simp] theorem ofText_inj {text other : String} : ofText text = ofText other ↔ text = other :=
  ofText_injective.eq_iff

@[simp] theorem text?_ofText (text : String) : (ofText text).text? = some text :=
  Text.ofBytes?_bytes text

end EntryName

/-! ### Cutting at slashes -/

theorem splitOn_append_of_not_mem {α : Type} [BEq α] [LawfulBEq α] {separator : α}
    {start : List α} (absent : separator ∉ start) (rest : List α) :
    (start ++ rest).splitOn separator = (rest.splitOn separator).modifyHead (start ++ ·) := by
  induction start with
  | nil =>
    have kept : (fun piece : List α => [] ++ piece) = id := rfl
    rw [kept, List.modifyHead_id]
    rfl
  | cons item later ih =>
    obtain ⟨first, others⟩ := not_or.mp (List.mem_cons.not.mp absent)
    rw [List.cons_append, List.splitOn_cons_eq_if_modifyHead,
      if_neg (by simpa using Ne.symm first), ih others, List.modifyHead_modifyHead]
    rfl

theorem slash_mem_utf8EncodeChar_iff {c : Char} :
    RawPath.slash ∈ String.utf8EncodeChar c ↔ c = '/' := by
  refine ⟨fun member => Char.toNat_inj.mp ?_, fun same => same ▸ by decide⟩
  exact Text.toNat_eq_of_mem_utf8EncodeChar (by decide) member

theorem splitOn_encoded (letters : List Char) :
    (letters.flatMap String.utf8EncodeChar).splitOn RawPath.slash =
      (letters.splitOn '/').map (·.flatMap String.utf8EncodeChar) := by
  induction letters with
  | nil => rfl
  | cons c rest ih =>
    rw [List.flatMap_cons, List.splitOn_cons_eq_if_modifyHead]
    by_cases slash : c = '/'
    · subst slash
      have encoded : String.utf8EncodeChar '/' = [RawPath.slash] := by decide
      rw [if_pos (beq_self_eq_true '/'), encoded, List.singleton_append,
        List.splitOn_cons_eq_if_modifyHead, if_pos (beq_self_eq_true _), ih]
      rfl
    · rw [if_neg (by simpa using slash), splitOn_append_of_not_mem, ih]
      · cases rest.splitOn '/' <;> rfl
      · exact fun member => slash (slash_mem_utf8EncodeChar_iff.mp member)

namespace HostPath

theorem raw_segments (path : HostPath) : path.raw.segments = path.segments.map .ofText := by
  unfold RawPath.segments raw segments Text.split
  rw [Text.bytes_eq_flatMap, splitOn_encoded, List.map_map, List.map_map]
  apply List.map_congr_left
  intro piece _
  unfold Function.comp EntryName.ofText
  rw [Text.bytes_eq_flatMap, String.toList_ofList]

theorem raw_isAbsolute (path : HostPath) : path.raw.isAbsolute = path.isAbsolute := by
  unfold RawPath.isAbsolute raw isAbsolute Text.startsWith
  rw [Text.bytes_eq_flatMap]
  cases path.text.toList with
  | nil => rfl
  | cons c rest =>
    by_cases slash : c = '/'
    · subst slash
      have encoded : String.utf8EncodeChar '/' = [RawPath.slash] := by decide
      rw [List.flatMap_cons, encoded]
      rfl
    · have plain : RawPath.slash ∉ String.utf8EncodeChar c :=
        fun member => slash (slash_mem_utf8EncodeChar_iff.mp member)
      rw [List.flatMap_cons, List.head?_cons, Text.utf8EncodeChar_eq, List.cons_append,
        List.head?_cons]
      rw [Text.utf8EncodeChar_eq] at plain
      have first := (not_or.mp (List.mem_cons.not.mp plain)).1
      rw [beq_eq_false_iff_ne.mpr fun same => first (Option.some.inj same).symm,
        beq_eq_false_iff_ne.mpr fun same => slash (Option.some.inj same)]

end HostPath

/-! ### Names -/

/-- A name under which a directory can hold an entry. -/
structure EntryName.Proper (name : EntryName) : Prop where
  nonempty : name ≠ ""
  undotted : name ≠ "."
  notUp : name ≠ ".."
  unbroken : RawPath.slash ∉ name.bytes

instance (name : EntryName) : Decidable name.Proper :=
  decidable_of_iff (name ≠ "" ∧ name ≠ "." ∧ name ≠ ".." ∧ RawPath.slash ∉ name.bytes)
    ⟨fun ⟨nonempty, undotted, notUp, unbroken⟩ => ⟨nonempty, undotted, notUp, unbroken⟩,
      fun ⟨nonempty, undotted, notUp, unbroken⟩ => ⟨nonempty, undotted, notUp, unbroken⟩⟩

namespace RawPath

theorem segments_join (path : RawPath) {name : EntryName} (proper : name.Proper) :
    ∃ kept, (path.join name).segments = kept ++ [name] ∧
      (path.segments = kept ∨ path.segments = kept ++ [⟨[]⟩]) := by
  have single : name.bytes.splitOn slash = [name.bytes] := List.splitOn_eq_singleton proper.unbroken
  unfold join segments
  by_cases closed : path.bytes = [] ∨ path.bytes.getLast? = some slash
  · rw [if_pos (by simpa using closed)]
    rcases closed with empty | last
    · refine ⟨[], ?_, .inr ?_⟩
      · rw [empty, List.nil_append, single]
        rfl
      · rw [empty]
        rfl
    · obtain ⟨start, spelled⟩ := List.getLast?_eq_some_iff.mp last
      refine ⟨(start.splitOn slash).map .mk, ?_, .inr ?_⟩
      · rw [spelled, List.append_assoc, List.singleton_append, List.splitOn_append_cons_self,
          single, List.map_append]
        rfl
      · rw [spelled, List.splitOn_append_cons_self, List.map_append]
        rfl
  · rw [if_neg (by simpa using closed)]
    refine ⟨_, ?_, .inl rfl⟩
    rw [List.splitOn_append_cons_self, single, List.map_append]
    rfl

theorem isAbsolute_join (path : RawPath) {name : EntryName} (proper : name.Proper) :
    (path.join name).isAbsolute = path.isAbsolute := by
  unfold join isAbsolute
  cases bytes : path.bytes with
  | nil =>
    cases letters : name.bytes with
    | nil => exact absurd (congrArg EntryName.mk letters) proper.nonempty
    | cons b rest =>
      have other : b ≠ slash := by
        rintro rfl
        exact proper.unbroken (letters ▸ List.mem_cons_self)
      simpa using other
  | cons b rest => split <;> rfl

theorem isAbsolute_foldl_join (path : RawPath) {names : List EntryName}
    (proper : ∀ name ∈ names, name.Proper) :
    (names.foldl join path).isAbsolute = path.isAbsolute := by
  induction names generalizing path with
  | nil => rfl
  | cons name rest ih =>
    obtain ⟨first, later⟩ := List.forall_mem_cons.mp proper
    rw [List.foldl_cons, ih _ later, isAbsolute_join path first]

theorem bytes_join_ne_nil (path : RawPath) {name : EntryName} (proper : name.Proper) :
    (path.join name).bytes ≠ [] := by
  have some : name.bytes ≠ [] := fun none => proper.nonempty (congrArg EntryName.mk none)
  unfold join
  split <;> simp [some]

theorem ofSegment?_of_proper {name : EntryName} (proper : name.Proper) :
    HostPath.Component.ofSegment? name = some (.name name) := by
  unfold HostPath.Component.ofSegment?
  rw [if_neg (by simp [proper.nonempty, proper.undotted]), if_neg proper.notUp]

theorem components_join {path : RawPath} (some : path.bytes ≠ []) {name : EntryName}
    (proper : name.Proper) : (path.join name).components = path.components ++ [.name name] := by
  obtain ⟨kept, cut, before⟩ := segments_join path proper
  have own : [name].filterMap HostPath.Component.ofSegment? = [.name name] := by
    rw [List.filterMap_cons_some (ofSegment?_of_proper proper), List.filterMap_nil]
  have none : [⟨[]⟩].filterMap HostPath.Component.ofSegment? = [] := rfl
  unfold components
  rw [cut, isAbsolute_join path proper]
  cases kept with
  | nil =>
    have whole : [slash].intercalate (path.segments.map EntryName.bytes) = path.bytes := by
      unfold segments
      rw [List.map_map]
      exact (congrArg _ (List.map_id _)).trans (List.intercalate_splitOn slash)
    refine absurd ?_ some
    rw [← whole]
    rcases before with before | before <;> rw [before] <;> rfl
  | cons first rest =>
    rcases before with before | before
    · rw [before, List.cons_append, HostPath.Component.ofSegments, HostPath.Component.ofSegments,
        List.filterMap_append, own, List.append_assoc]
    · rw [before, List.cons_append, List.cons_append, HostPath.Component.ofSegments,
        HostPath.Component.ofSegments, List.filterMap_append, List.filterMap_append, own, none,
        List.append_nil, List.append_assoc]

theorem components_foldl_join {path : RawPath} (some : path.bytes ≠ []) {names : List EntryName}
    (proper : ∀ name ∈ names, name.Proper) :
    (names.foldl join path).components = path.components ++ names.map .name := by
  induction names generalizing path with
  | nil => exact (List.append_nil _).symm
  | cons name rest ih =>
    obtain ⟨first, later⟩ := List.forall_mem_cons.mp proper
    rw [List.foldl_cons, ih (bytes_join_ne_nil path first) later, components_join some first,
      List.append_assoc]
    rfl

end RawPath

end ProviderGen
