import ProviderGen.Text.Split

/-!
Cutting and joining undo each other: what is joined from pieces without the separator is cut into
these pieces, and cutting leaves no separator in a piece.
-/

namespace ProviderGen.Text

theorem startsWith_of_not_mem {c : Char} {s : String} (absent : c ∉ s.toList) :
    startsWith c s = false := by
  unfold startsWith
  cases letters : s.toList with
  | nil => rfl
  | cons letter rest =>
    have start : letter ≠ c := by
      rintro rfl
      exact absent (letters ▸ List.mem_cons_self)
    rw [List.head?_cons]
    exact beq_eq_false_iff_ne.mpr fun same => start (Option.some.inj same)

theorem split_of_not_mem {c : Char} {s : String} (absent : c ∉ s.toList) : split c s = [s] := by
  unfold split
  rw [List.splitOn_eq_singleton absent, List.map_singleton, String.ofList_toList]

theorem split_append (c : Char) (s t : String) :
    split c (s ++ String.singleton c ++ t) = split c s ++ split c t := by
  unfold split
  have letters : (s ++ String.singleton c ++ t).toList = s.toList ++ c :: t.toList := by simp
  rw [letters, List.splitOn_append_cons_self, List.map_append]

/-- An ending without the separator stays together in the last piece. -/
theorem split_append_ending {c : Char} (s : String) {ending : String}
    (absent : c ∉ ending.toList) :
    ∃ before last, split c (s ++ ending) = before ++ [last ++ ending] := by
  have pieces (letters : List Char) : ∃ before last,
      (letters ++ ending.toList).splitOn c = before ++ [last ++ ending.toList] := by
    induction letters with
    | nil => exact ⟨[], [], List.splitOn_eq_singleton absent⟩
    | cons letter rest ih =>
      obtain ⟨before, last, cut⟩ := ih
      rw [List.cons_append, List.splitOn_cons_eq_if_modifyHead, cut]
      split
      case isTrue => exact ⟨[] :: before, last, rfl⟩
      case isFalse =>
        -- the letter goes to the front of the first piece
        cases before with
        | nil => exact ⟨[], letter :: last, rfl⟩
        | cons first later => exact ⟨(letter :: first) :: later, last, rfl⟩
  obtain ⟨before, last, cut⟩ := pieces s.toList
  refine ⟨before.map String.ofList, String.ofList last, ?_⟩
  unfold split
  rw [String.toList_append, cut, List.map_append, List.map_singleton, String.ofList_append,
    String.ofList_toList]

theorem split_joined {c : Char} {pieces : List String}
    (plain : ∀ piece ∈ pieces, c ∉ piece.toList) (some : pieces ≠ []) :
    split c (joined c pieces) = pieces := by
  have absent : ∀ letters ∈ pieces.map String.toList, c ∉ letters := by
    intro letters member
    obtain ⟨piece, listed, rfl⟩ := List.mem_map.mp member
    exact plain piece listed
  have nonempty : pieces.map String.toList ≠ [] := by simpa using some
  unfold split joined
  rw [String.toList_ofList, List.splitOn_intercalate c absent nonempty, List.map_map]
  have same : String.ofList ∘ String.toList = id := funext fun s => String.ofList_toList
  rw [same, List.map_id]

theorem joined_split (c : Char) (s : String) : joined c (split c s) = s := by
  unfold joined split
  have same : String.toList ∘ String.ofList = id := funext fun l => String.toList_ofList
  rw [List.map_map, same, List.map_id, List.intercalate_splitOn, String.ofList_toList]

theorem joined_append {c : Char} {pieces later : List String} (some : pieces ≠ [])
    (more : later ≠ []) :
    joined c (pieces ++ later) = joined c pieces ++ String.singleton c ++ joined c later := by
  have letters (first second : List (List Char)) (some : first ≠ []) (more : second ≠ []) :
      [c].intercalate (first ++ second) =
        [c].intercalate first ++ [c] ++ [c].intercalate second := by
    induction first with
    | nil => exact absurd rfl some
    | cons piece rest ih =>
      cases rest with
      | nil =>
        obtain ⟨next, others, rfl⟩ := List.exists_cons_of_ne_nil more
        rw [List.singleton_append, List.intercalate_cons_cons, List.intercalate_singleton]
      | cons following rest =>
        rw [List.cons_append, List.cons_append, List.intercalate_cons_cons, ← List.cons_append,
          ih (List.cons_ne_nil _ _), List.intercalate_cons_cons]
        simp only [List.append_assoc]
  apply String.toList_injective
  unfold joined
  rw [List.map_append, letters _ _ (by simpa using some) (by simpa using more)]
  simp

theorem of_mem_splitOn {c : Char} {letters piece : List Char}
    (member : piece ∈ letters.splitOn c) : c ∉ piece ∧ piece ⊆ letters := by
  induction letters generalizing piece with
  | nil =>
    rw [List.splitOn_nil, List.mem_singleton] at member
    subst member
    exact ⟨List.not_mem_nil, List.nil_subset _⟩
  | cons letter rest ih =>
    rw [List.splitOn_cons_eq_if_modifyHead] at member
    split at member
    case isTrue =>
      rcases List.mem_cons.mp member with rfl | member
      · exact ⟨List.not_mem_nil, List.nil_subset _⟩
      · exact ⟨(ih member).1, List.subset_cons_of_subset letter (ih member).2⟩
    case isFalse other =>
      -- the letter goes to the front of the first piece of the rest
      cases cut : rest.splitOn c with
      | nil => exact absurd cut (List.splitOn_ne_nil c rest)
      | cons first later =>
        rw [cut, List.modifyHead_cons] at member
        rcases List.mem_cons.mp member with rfl | member
        · obtain ⟨absent, within⟩ := ih (cut ▸ List.mem_cons_self)
          have apart : c ≠ letter := fun same => other (beq_iff_eq.mpr same.symm)
          exact ⟨fun found => (List.mem_cons.mp found).elim apart absent,
            List.cons_subset_cons letter within⟩
        · obtain ⟨absent, within⟩ := ih (cut ▸ List.mem_cons_of_mem _ member)
          exact ⟨absent, List.subset_cons_of_subset letter within⟩

theorem not_mem_of_mem_split {c : Char} {s piece : String} (member : piece ∈ split c s) :
    c ∉ piece.toList := by
  obtain ⟨letters, cut, rfl⟩ := List.mem_map.mp member
  rw [String.toList_ofList]
  exact (of_mem_splitOn cut).1

theorem subset_of_mem_split {c : Char} {s piece : String} (member : piece ∈ split c s) :
    piece.toList ⊆ s.toList := by
  obtain ⟨letters, cut, rfl⟩ := List.mem_map.mp member
  rw [String.toList_ofList]
  exact (of_mem_splitOn cut).2

end ProviderGen.Text
