import ProviderGen.OrderedMap.Basic

/-!
Looking up keys in ordered maps. A changed entry is found changed and all others as before, an
entry is found exactly if it is there, and a map is determined by what is found in it.
-/

namespace ProviderGen.OrderedMap

open Std

variable {κ α : Type} [Ord κ]

@[simp] theorem find?_empty (k : κ) : (empty : OrderedMap κ α).find? k = none := rfl

def valueIn? (k : κ) (l : List (κ × α)) : Option α :=
  (l.find? fun entry => compare k entry.1 == .eq).map (·.2)

theorem valueIn?_cons (k k' : κ) (a : α) (rest : List (κ × α)) :
    valueIn? k ((k', a) :: rest) =
      if compare k k' = .eq then some a else valueIn? k rest := by
  unfold valueIn?
  by_cases same : compare k k' = .eq
  · simp [same]
  · have differs : (compare k k' == .eq) = false := by simpa using same
    simp [differs, same]

theorem valueIn?_eq_none {k : κ} {l : List (κ × α)}
    (below : ∀ entry ∈ l, compare k entry.1 = .lt) : valueIn? k l = none := by
  induction l with
  | nil => rfl
  | cons head rest step =>
    obtain ⟨k', a⟩ := head
    have first : compare k k' = .lt := below (k', a) (by simp)
    rw [valueIn?_cons, if_neg (by simp [first])]
    exact step fun entry member => below entry (by simp [member])

theorem valueIn?_eq_some_iff [LawfulEqOrd κ] {l : List (κ × α)}
    (sorted : l.Pairwise fun a b => compare a.1 b.1 = .lt) {k : κ} {a : α} :
    valueIn? k l = some a ↔ (k, a) ∈ l := by
  induction l with
  | nil => simp [valueIn?]
  | cons head rest step =>
    obtain ⟨k', a'⟩ := head
    obtain ⟨first, later⟩ := List.pairwise_cons.mp sorted
    rw [valueIn?_cons]
    by_cases same : compare k k' = .eq
    · have keys : k = k' := LawfulEqCmp.eq_of_compare same
      subst keys
      have absent : (k, a) ∉ rest := fun member => by
        have less : compare k k = .lt := first (k, a) member
        simp at less
      simp [absent, eq_comm]
    · have apart : k ≠ k' := fun equal => same (by rw [equal]; exact ReflCmp.compare_self)
      simp [same, apart, step later]

theorem find?_eq_some_iff [LawfulEqOrd κ] {m : OrderedMap κ α} {k : κ} {a : α} :
    m.find? k = some a ↔ (k, a) ∈ m.entries := valueIn?_eq_some_iff m.ascending

variable [TransOrd κ]

theorem valueIn?_alterEntries_self (k : κ) (f : Option α → α) {l : List (κ × α)}
    (sorted : l.Pairwise fun a b => compare a.1 b.1 = .lt) :
    valueIn? k (alterEntries k f l) = some (f (valueIn? k l)) := by
  induction l with
  | nil => simp [alterEntries, valueIn?]
  | cons head rest step =>
    obtain ⟨k', a⟩ := head
    obtain ⟨first, later⟩ := List.pairwise_cons.mp sorted
    simp only [alterEntries]
    split
    case h_1 below =>
      have beyond : valueIn? k ((k', a) :: rest) = none := by
        apply valueIn?_eq_none
        intro entry member
        rcases List.mem_cons.mp member with rfl | member
        · exact below
        · exact TransCmp.lt_trans below (first entry member)
      rw [valueIn?_cons, if_pos ReflCmp.compare_self, beyond]
    case h_2 same => rw [valueIn?_cons, valueIn?_cons, if_pos same, if_pos same]
    case h_3 above =>
      rw [valueIn?_cons, valueIn?_cons, if_neg (by simp [above]), if_neg (by simp [above])]
      exact step later

theorem valueIn?_alterEntries_of_ne {k k' : κ} (different : compare k' k ≠ .eq)
    (f : Option α → α) (l : List (κ × α)) :
    valueIn? k' (alterEntries k f l) = valueIn? k' l := by
  induction l with
  | nil =>
    rw [alterEntries, valueIn?_cons, if_neg different]
  | cons head rest step =>
    obtain ⟨k'', a⟩ := head
    simp only [alterEntries]
    split
    case h_1 => rw [valueIn?_cons, if_neg different]
    case h_2 same =>
      have apart : compare k' k'' ≠ .eq := fun equal =>
        different (TransCmp.eq_trans equal (OrientedCmp.eq_symm same))
      rw [valueIn?_cons, valueIn?_cons, if_neg apart, if_neg apart]
    case h_3 => rw [valueIn?_cons, valueIn?_cons, step]

@[simp] theorem find?_alter_self (m : OrderedMap κ α) (k : κ) (f : Option α → α) :
    (m.alter k f).find? k = some (f (m.find? k)) :=
  valueIn?_alterEntries_self k f m.ascending

theorem find?_alter_of_ne (m : OrderedMap κ α) {k k' : κ} (different : compare k' k ≠ .eq)
    (f : Option α → α) : (m.alter k f).find? k' = m.find? k' :=
  valueIn?_alterEntries_of_ne different f m.entries

theorem find?_alter [LawfulEqOrd κ] [DecidableEq κ] (m : OrderedMap κ α) (k k' : κ)
    (f : Option α → α) :
    (m.alter k f).find? k' = if k' = k then some (f (m.find? k)) else m.find? k' := by
  split
  case isTrue same => rw [same, find?_alter_self]
  case isFalse apart =>
    exact find?_alter_of_ne m (fun equal => apart (LawfulEqCmp.eq_of_compare equal)) f

@[simp] theorem find?_insert_self (m : OrderedMap κ α) (k : κ) (a : α) :
    (m.insert k a).find? k = some a := find?_alter_self m k _

theorem find?_insert_of_ne (m : OrderedMap κ α) {k k' : κ} (different : compare k' k ≠ .eq)
    (a : α) : (m.insert k a).find? k' = m.find? k' := find?_alter_of_ne m different _

theorem forall_mem_alter [LawfulEqOrd κ] {P : κ × α → Prop} {m : OrderedMap κ α} {k : κ}
    {f : Option α → α} (changed : P (k, f (m.find? k))) (others : ∀ entry ∈ m.entries, P entry) :
    ∀ entry ∈ (m.alter k f).entries, P entry := by
  rintro ⟨k', a⟩ member
  have found : (m.alter k f).find? k' = some a := find?_eq_some_iff.mpr member
  by_cases same : compare k' k = .eq
  · have keys : k' = k := LawfulEqCmp.eq_of_compare same
    subst keys
    rw [find?_alter_self] at found
    cases found
    exact changed
  · rw [find?_alter_of_ne m same] at found
    exact others _ (find?_eq_some_iff.mp found)

omit [TransOrd κ] in
theorem mem_of_mem_getD {β : Type} [LawfulEqOrd κ] [Ord α]
    {maps : OrderedMap κ (OrderedMap α β)} {k : κ} {entry : α × β}
    (member : entry ∈ ((maps.find? k).getD .empty).entries) :
    ∃ map, (k, map) ∈ maps.entries ∧ entry ∈ map.entries := by
  cases found : maps.find? k with
  | none =>
    rw [found] at member
    cases member
  | some map =>
    rw [found] at member
    exact ⟨map, OrderedMap.find?_eq_some_iff.mp found, member⟩

omit [TransOrd κ] in
theorem keys_ascending (m : OrderedMap κ α) : m.keys.Pairwise (compare · · = .lt) :=
  List.pairwise_map.mpr m.ascending

theorem keys_lt (m : OrderedMap String α) : m.keys.Pairwise (· < ·) :=
  m.keys_ascending.imp fun {_ _} less => compareOfLessAndEq_eq_lt.mp less

theorem keys_distinct (m : OrderedMap κ α) : m.keys.Pairwise (· ≠ ·) :=
  m.keys_ascending.imp fun {a b} less equal => by
    subst equal
    simp at less

omit [TransOrd κ] in
theorem mem_keys_iff [LawfulEqOrd κ] {m : OrderedMap κ α} {k : κ} :
    k ∈ m.keys ↔ ∃ a, m.find? k = some a := by
  unfold keys
  simp only [List.mem_map, Prod.exists, exists_and_right, exists_eq_right, find?_eq_some_iff]

theorem mem_keys_insert [LawfulEqOrd κ] {m : OrderedMap κ α} {k k' : κ} {a : α} :
    k' ∈ (m.insert k a).keys ↔ k' = k ∨ k' ∈ m.keys := by
  simp only [mem_keys_iff]
  by_cases same : compare k' k = .eq
  · have equal : k' = k := LawfulEqCmp.eq_of_compare same
    subst equal
    simp
  · have apart : k' ≠ k := fun equal => same (by rw [equal]; exact ReflCmp.compare_self)
    simp [find?_insert_of_ne m same, apart]

theorem flatMap_at [LawfulEqOrd κ] [DecidableEq κ] {β : Type} (m : OrderedMap κ α) (k : κ)
    (f : α → List β) :
    (m.entries.flatMap fun entry => if entry.1 = k then f entry.2 else []) =
      ((m.find? k).map f).getD [] := by
  have skipped {l : List (κ × α)} (others : ∀ entry ∈ l, entry.1 ≠ k) :
      (l.flatMap fun entry => if entry.1 = k then f entry.2 else []) = [] := by
    apply List.flatMap_eq_nil_iff.mpr
    intro entry member
    exact if_neg (others entry member)
  cases found : m.find? k with
  | none =>
    apply skipped
    rintro entry member rfl
    rw [find?_eq_some_iff.mpr member] at found
    cases found
  | some a =>
    obtain ⟨before, after, split⟩ := List.append_of_mem (find?_eq_some_iff.mp found)
    have distinct := List.pairwise_map.mp m.keys_distinct
    rw [split] at distinct ⊢
    obtain ⟨_, later, crossing⟩ := List.pairwise_append.mp distinct
    have first : ∀ entry ∈ before, entry.1 ≠ k :=
      fun entry member => crossing entry member (k, a) List.mem_cons_self
    have last : ∀ entry ∈ after, entry.1 ≠ k :=
      fun entry member => ((List.pairwise_cons.mp later).1 entry member).symm
    rw [List.flatMap_append, List.flatMap_cons, skipped first, skipped last, if_pos rfl,
      List.nil_append, List.append_nil]
    rfl

/-- Two lists that ascend by their keys and have the same members are one list. -/
theorem eq_of_same_members (key : β → κ) {l l' : List β}
    (sorted : l.Pairwise fun a b => compare (key a) (key b) = .lt)
    (sorted' : l'.Pairwise fun a b => compare (key a) (key b) = .lt)
    (same : ∀ entry, entry ∈ l ↔ entry ∈ l') : l = l' := by
  have distinct {l : List β} (sorted : l.Pairwise fun a b => compare (key a) (key b) = .lt) :
      l.Nodup := sorted.imp fun {a b} less => by
    intro equal
    subst equal
    simp at less
  have permuted := (List.perm_ext_iff_of_nodup (distinct sorted) (distinct sorted')).mpr same
  refine permuted.eq_of_pairwise (fun a b _ _ less greater => ?_) sorted sorted'
  have less : compare (key a) (key b) = .lt := less
  exact absurd greater (OrientedCmp.not_lt_of_lt less)

theorem ext_find? [LawfulEqOrd κ] {m n : OrderedMap κ α} (same : ∀ k, m.find? k = n.find? k) :
    m = n := by
  apply OrderedMap.ext
  apply eq_of_same_members Prod.fst m.ascending n.ascending
  intro entry
  rw [← find?_eq_some_iff (m := m), ← find?_eq_some_iff (m := n), same]

/-- Maps of which a look-up in their values finds the same are equal, if something is found in each
value and values with the same findings are equal. -/
theorem ext_bind [LawfulEqOrd κ] {ι γ : Type} {look : α → ι → Option γ} {m n : OrderedMap κ α}
    (filled : ∀ entry ∈ m.entries, ∃ i c, look entry.2 i = some c)
    (filledOther : ∀ entry ∈ n.entries, ∃ i c, look entry.2 i = some c)
    (determined : ∀ first ∈ m.entries, ∀ second ∈ n.entries,
      (∀ i, look first.2 i = look second.2 i) → first.2 = second.2)
    (same : ∀ k i, (m.find? k).bind (look · i) = (n.find? k).bind (look · i)) : m = n := by
  apply ext_find?
  intro k
  have here := same k
  cases first : m.find? k with
  | none =>
    cases second : n.find? k with
    | none => rfl
    | some b =>
      obtain ⟨i, c, found⟩ := filledOther (k, b) (find?_eq_some_iff.mp second)
      have absent := here i
      rw [first, second, Option.bind_none, Option.bind_some, found] at absent
      cases absent
  | some a =>
    have inFirst := find?_eq_some_iff.mp first
    cases second : n.find? k with
    | none =>
      obtain ⟨i, c, found⟩ := filled (k, a) inFirst
      have absent := here i
      rw [first, second, Option.bind_none, Option.bind_some, found] at absent
      cases absent
    | some b =>
      have agree (i : ι) : look a i = look b i := by
        have agreeing := here i
        rwa [first, second, Option.bind_some, Option.bind_some] at agreeing
      have values : a = b := determined (k, a) inFirst (k, b) (find?_eq_some_iff.mp second) agree
      rw [values]

omit [TransOrd κ] in
theorem find?_getD {β : Type} [Ord α] (map? : Option (OrderedMap α β)) (k : α) :
    (map?.getD .empty).find? k = map?.bind (·.find? k) := by
  cases map? with
  | none => rfl
  | some map => rfl

end ProviderGen.OrderedMap
