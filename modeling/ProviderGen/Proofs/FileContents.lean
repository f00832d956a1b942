import Mathlib.Data.List.Nodup
import ProviderGen.Proofs.Overwrite

/-!
What is read of files that have been written. A file holds the text of the last write that led to
its place; among items that are written one after the other, each to its own path, that is the text
of the last item with the same place.
-/

namespace ProviderGen

theorem nodup_map_of_told {α β γ : Type} {f : α → β} {key : α → γ} {items : List α}
    (told : ∀ item other, f item = f other → key item = key other)
    (distinct : (items.map key).Nodup) : (items.map f).Nodup := by
  apply List.pairwise_map.mpr
  apply (List.pairwise_map.mp distinct).imp
  intro item other different same
  exact different (told item other same)

def LastWith {α β : Type} (f : α → β) (items : List α) (value : β) (last : α) : Prop :=
  ∃ before later, items = before ++ last :: later ∧ f last = value ∧
    ∀ other ∈ later, f other ≠ value

namespace LastWith

variable {α β : Type} {f : α → β} {items : List α} {value : β} {last : α}

theorem find?_reverse_eq_some_iff [DecidableEq β] :
    (items.reverse.find? fun item => f item = value) = some last ↔ LastWith f items value last := by
  rw [List.find?_eq_some_iff_append]
  simp only [decide_eq_true_eq, Bool.not_eq_true', decide_eq_false_iff_not]
  constructor
  · rintro ⟨has, later, before, cut, others⟩
    refine ⟨before.reverse, later.reverse, ?_, has, fun other member =>
      others other (List.mem_reverse.mp member)⟩
    have forwards := congrArg List.reverse cut
    simpa using forwards
  · rintro ⟨before, later, rfl, has, others⟩
    refine ⟨has, later.reverse, before.reverse, by simp, fun other member =>
      others other (List.mem_reverse.mp member)⟩

theorem exists_of_mem [DecidableEq β] {item : α} (member : item ∈ items) :
    ∃ last, LastWith f items (f item) last := by
  cases found : items.reverse.find? fun other => f other = f item with
  | some last => exact ⟨last, find?_reverse_eq_some_iff.mp found⟩
  | none =>
    have missed := List.find?_eq_none.mp found item (List.mem_reverse.mpr member)
    exact absurd (decide_eq_true rfl) missed

theorem unique [DecidableEq β] {other : α} (lastWith : LastWith f items value last)
    (otherWith : LastWith f items value other) : last = other := by
  have found := find?_reverse_eq_some_iff.mpr lastWith
  rw [find?_reverse_eq_some_iff.mpr otherWith] at found
  exact (Option.some.inj found).symm

theorem mem (lastWith : LastWith f items value last) : last ∈ items := by
  obtain ⟨before, later, rfl, _⟩ := lastWith
  exact List.mem_append_right before List.mem_cons_self

theorem value_eq (lastWith : LastWith f items value last) : f last = value := by
  obtain ⟨_, _, _, has, _⟩ := lastWith
  exact has

theorem congr {γ : Type} {g : α → γ} {other : γ} (same : ∀ item, f item = value ↔ g item = other)
    (lastWith : LastWith f items value last) : LastWith g items other last := by
  obtain ⟨before, later, cut, has, others⟩ := lastWith
  exact ⟨before, later, cut, (same last).mp has,
    fun item member equal => others item member ((same item).mpr equal)⟩

theorem eq_of_nodup (distinct : (items.map f).Nodup) {item : α} (member : item ∈ items)
    (lastWith : LastWith f items (f item) last) : last = item :=
  List.inj_on_of_nodup_map distinct lastWith.mem member lastWith.value_eq

/-- Items with different keys have different values, if the last item with the value of an item
always has the key of that item. -/
theorem nodup_of_key [DecidableEq β] {γ : Type} {key : α → γ} (distinct : (items.map key).Nodup)
    (told : ∀ item ∈ items, ∀ last, LastWith f items (f item) last → key last = key item) :
    (items.map f).Nodup := by
  apply List.pairwise_map.mpr
  apply (List.pairwise_map.mp distinct).imp_of_mem
  intro first second firstMember secondMember different same
  obtain ⟨last, lastWith⟩ := exists_of_mem (f := f) firstMember
  have firstKey := told first firstMember last lastWith
  rw [same] at lastWith
  exact different (firstKey.symm.trans (told second secondMember last lastWith))

end LastWith

namespace FileTree

theorem fromUTF8?_toUTF8 (text : String) : String.fromUTF8? text.toUTF8 = some text := by
  unfold String.fromUTF8?
  rw [String.toUTF8_eq_toByteArray, dif_pos text.isValidUTF8]
  rfl

theorem Updated.readText_written {before after : FileTree} {writes : List (HostPath × String)}
    (updated : before.Updated writes after) {file : HostPath × String} (member : file ∈ writes)
    {text : String} (last : before.lastWritten? writes (before.destination file.1) = some text) :
    after.readText file.1 = .ok text :=
  readText_eq_ok_iff.mpr ⟨_, _, updated.located file member, updated.written _ _ last,
    fromUTF8?_toUTF8 text⟩

variable {α : Type} {items : List α} {path : α → HostPath} {text : α → String}

theorem lastWritten?_map (tree : FileTree) (place : Location) :
    tree.lastWritten? (items.map fun item => (path item, text item)) place =
      (items.reverse.find? fun item => tree.destination (path item) = place).map text := by
  unfold lastWritten?
  rw [← List.map_reverse, List.find?_map, Option.map_map]
  rfl

/-- Where items are written one after the other, the file of each holds the text of the last with
the same place, unless a later write leads there. -/
theorem Updated.readText_item {before after : FileTree}
    {earlier later : List (HostPath × String)}
    (updated : before.Updated
      (earlier ++ items.map (fun item => (path item, text item)) ++ later) after)
    {item : α} (member : item ∈ items)
    (apart : ∀ file ∈ later, before.destination file.1 ≠ before.destination (path item)) :
    ∃ last, LastWith (fun other => before.destination (path other)) items
        (before.destination (path item)) last ∧
      after.readText (path item) = .ok (text last) := by
  obtain ⟨last, lastWith⟩ :=
    LastWith.exists_of_mem (f := fun other => before.destination (path other)) member
  have written : (path item, text item) ∈
      earlier ++ items.map (fun item => (path item, text item)) ++ later :=
    List.mem_append_left _ (List.mem_append_right _ (List.mem_map_of_mem member))
  refine ⟨last, lastWith, updated.readText_written written ?_⟩
  rw [lastWritten?_append, lastWritten?_eq_none_iff.mpr apart, Option.none_or,
    lastWritten?_append, lastWritten?_map, LastWith.find?_reverse_eq_some_iff.mpr lastWith]
  rfl

end FileTree

end ProviderGen
