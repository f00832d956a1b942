/-!
Finite maps that are kept in ascending order of their keys. Walking a map always meets the keys
in that order, and two maps with the same entries are equal.
-/

namespace ProviderGen

open Std

structure OrderedMap (κ α : Type) [Ord κ] where
  entries : List (κ × α)
  ascending : entries.Pairwise fun a b => compare a.1 b.1 = .lt

namespace OrderedMap

variable {κ α β : Type} [Ord κ]

@[ext] theorem ext {m n : OrderedMap κ α} (same : m.entries = n.entries) : m = n := by
  cases m; cases n; cases same; rfl

instance [DecidableEq κ] [DecidableEq α] : DecidableEq (OrderedMap κ α) := fun m n =>
  if same : m.entries = n.entries then isTrue (ext same)
  else isFalse fun equal => same (equal ▸ rfl)

instance [Repr κ] [Repr α] : Repr (OrderedMap κ α) := ⟨fun m n => reprPrec m.entries n⟩

def empty : OrderedMap κ α := ⟨[], .nil⟩

instance : EmptyCollection (OrderedMap κ α) := ⟨empty⟩
instance : Inhabited (OrderedMap κ α) := ⟨empty⟩

def isEmpty (m : OrderedMap κ α) : Bool := m.entries.isEmpty

def size (m : OrderedMap κ α) : Nat := m.entries.length

def keys (m : OrderedMap κ α) : List κ := m.entries.map (·.1)

def values (m : OrderedMap κ α) : List α := m.entries.map (·.2)

def find? (m : OrderedMap κ α) (k : κ) : Option α :=
  (m.entries.find? fun entry => compare k entry.1 == .eq).map (·.2)

/-- The entry at `k` becomes `f` of what stood there; a key that is already present keeps its
spelling. -/
def alterEntries (k : κ) (f : Option α → α) : List (κ × α) → List (κ × α)
  | [] => [(k, f none)]
  | (k', a) :: rest =>
    match compare k k' with
    | .lt => (k, f none) :: (k', a) :: rest
    | .eq => (k', f (some a)) :: rest
    | .gt => (k', a) :: alterEntries k f rest

theorem key_of_mem_alterEntries {k : κ} {f : Option α → α} {l : List (κ × α)} {entry : κ × α}
    (member : entry ∈ alterEntries k f l) : entry.1 = k ∨ ∃ old ∈ l, old.1 = entry.1 := by
  induction l with
  | nil =>
    simp only [alterEntries, List.mem_singleton] at member
    exact .inl (by rw [member])
  | cons head rest step =>
    obtain ⟨k', a⟩ := head
    simp only [alterEntries] at member
    split at member
    · rcases List.mem_cons.mp member with rfl | member
      · exact .inl rfl
      · exact .inr ⟨entry, member, rfl⟩
    · rcases List.mem_cons.mp member with rfl | member
      · exact .inr ⟨(k', a), by simp, rfl⟩
      · exact .inr ⟨entry, by simp [member], rfl⟩
    · rcases List.mem_cons.mp member with rfl | member
      · exact .inr ⟨(k', a), by simp, rfl⟩
      · rcases step member with same | ⟨old, present, same⟩
        · exact .inl same
        · exact .inr ⟨old, by simp [present], same⟩

theorem ascending_alterEntries [TransOrd κ] (k : κ) (f : Option α → α) {l : List (κ × α)}
    (sorted : l.Pairwise fun a b => compare a.1 b.1 = .lt) :
    (alterEntries k f l).Pairwise fun a b => compare a.1 b.1 = .lt := by
  induction l with
  | nil => simp [alterEntries]
  | cons head rest step =>
    obtain ⟨k', a⟩ := head
    obtain ⟨first, later⟩ := List.pairwise_cons.mp sorted
    simp only [alterEntries]
    split
    case h_1 below =>
      refine List.pairwise_cons.mpr ⟨fun entry member => ?_, sorted⟩
      rcases List.mem_cons.mp member with rfl | member
      · exact below
      · exact TransCmp.lt_trans below (first entry member)
    case h_2 => exact List.pairwise_cons.mpr ⟨first, later⟩
    case h_3 above =>
      refine List.pairwise_cons.mpr ⟨fun entry member => ?_, step later⟩
      rcases key_of_mem_alterEntries member with same | ⟨old, present, same⟩
      · exact same ▸ OrientedCmp.lt_of_gt above
      · exact same ▸ first old present

variable [TransOrd κ]

def alter (m : OrderedMap κ α) (k : κ) (f : Option α → α) : OrderedMap κ α :=
  ⟨alterEntries k f m.entries, ascending_alterEntries k f m.ascending⟩

def insert (m : OrderedMap κ α) (k : κ) (a : α) : OrderedMap κ α := m.alter k fun _ => a

end OrderedMap

end ProviderGen
