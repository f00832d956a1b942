import ProviderGen.Text.Lowercase

/-!
What lowercase keeps of a text. The length of a lowercase does not depend on the text around it, and
a slash or a dot is in it exactly if it was there before.
-/

namespace ProviderGen.Text

/-- The characters before a text decide about sigmas, but not about the length. -/
theorem length_lowerFrom_eq (before other s : List Char) :
    (lowerFrom before s).length = (lowerFrom other s).length := by
  induction s generalizing before other with
  | nil => rfl
  | cons c rest ih =>
    simp only [lowerFrom, List.length_append, ih (c :: before) (c :: other)]
    by_cases sigma : c = 'Σ'
    · simp only [if_pos sigma, List.length_singleton]
    · simp only [if_neg sigma]

theorem length_lowerFrom_append (before s t : List Char) :
    (lowerFrom before (s ++ t)).length =
      (lowerFrom before s).length + (lowerFrom [] t).length := by
  induction s generalizing before with
  | nil => simp only [List.nil_append, lowerFrom, List.length_nil, Nat.zero_add,
      length_lowerFrom_eq before []]
  | cons c rest ih =>
    simp only [List.cons_append, lowerFrom, List.length_append, ih]
    by_cases sigma : c = 'Σ'
    · simp only [if_pos sigma, List.length_singleton, Nat.add_assoc]
    · simp only [if_neg sigma, Nat.add_assoc]

theorem length_lowercase_append (s t : String) :
    (lowercase (s ++ t)).length = (lowercase s).length + (lowercase t).length := by
  simp only [lowercase, String.length_ofList, String.toList_append]
  exact length_lowerFrom_append [] s.toList t.toList

theorem caseRuns_above_slash : ∀ run ∈ caseRuns, '/'.toNat < run.first + run.shift := by
  decide +kernel

theorem toNat_ofNat_eq_or (code : Nat) :
    (Char.ofNat code).toNat = code ∨ (Char.ofNat code).toNat = 0 := by
  unfold Char.ofNat
  by_cases valid : code.isValidChar
  · rw [dif_pos valid]
    exact .inl rfl
  · rw [dif_neg valid]
    exact .inr rfl

variable {mark : Char}

theorem of_ascii {P : Char → Prop} (table : ∀ code < 0x80, P (Char.ofNat code)) {c : Char}
    (ascii : c.toNat < 0x80) : P c := by
  have own := table c.toNat ascii
  rwa [Char.ofNat_toNat] at own

theorem toLower_eq_mark {c : Char} (ascii : c.toNat < 0x80) (low : mark.toNat ≤ '/'.toNat)
    (lower : c.toLower = mark) : c = mark := by
  have kept := of_ascii (P := fun c => c.toLower.toNat ≤ '/'.toNat → c.toLower = c) (by decide)
    ascii
  rw [lower] at kept
  exact (kept low).symm

theorem lowerChar_eq_mark {c : Char} (some : 0 < mark.toNat) (low : mark.toNat ≤ '/'.toNat)
    (lower : lowerChar c = mark) : c = mark := by
  unfold lowerChar at lower
  split at lower
  case isTrue ascii => exact toLower_eq_mark ascii low lower
  case isFalse =>
    split at lower
    case h_1 run found =>
      have above := caseRuns_above_slash run (List.mem_of_find?_eq_some found)
      have covered : run.covers c = true :=
        List.find?_some (p := fun run : CaseRun => run.covers c) found
      have start : run.first ≤ c.toNat := by
        unfold CaseRun.covers at covered
        grind
      have code := congrArg Char.toNat lower
      have read := toNat_ofNat_eq_or (c.toNat + run.shift).toNat
      omega
    case h_2 => exact lower

theorem mem_of_mem_lowerFrom (some : 0 < mark.toNat) (low : mark.toNat ≤ '/'.toNat)
    {before s : List Char} (member : mark ∈ lowerFrom before s) : mark ∈ s := by
  induction s generalizing before with
  | nil => exact member
  | cons c rest ih =>
    simp only [lowerFrom, List.mem_append] at member
    rcases member with head | later
    · split at head
      · -- both forms of the small sigma are beyond the slash
        unfold lowerSigma at head
        split at head
        · exact absurd (List.mem_singleton.mp head ▸ low) (by decide)
        · exact absurd (List.mem_singleton.mp head ▸ low) (by decide)
      · split at head
        · simp only [List.mem_cons, List.not_mem_nil, or_false] at head
          rcases head with rfl | rfl
          · exact absurd low (by decide)
          · exact absurd low (by decide)
        · have same : c = mark := lowerChar_eq_mark some low (List.mem_singleton.mp head).symm
          exact same ▸ List.mem_cons_self
    · exact List.mem_cons_of_mem c (ih later)

/-- A slash, a dot or another character below them in a lowercase stands in the text itself. -/
theorem mem_of_mem_lowercase (some : 0 < mark.toNat) (low : mark.toNat ≤ '/'.toNat) {s : String}
    (member : mark ∈ (lowercase s).toList) : mark ∈ s.toList := by
  unfold lowercase at member
  rw [String.toList_ofList] at member
  exact mem_of_mem_lowerFrom some low member

theorem mem_lowerFrom_of_mem (plain : mark ≠ 'Σ') (dotless : mark ≠ 'İ')
    (own : lowerChar mark = mark) {before s : List Char} (member : mark ∈ s) :
    mark ∈ lowerFrom before s := by
  induction s generalizing before with
  | nil => cases member
  | cons c rest ih =>
    rw [lowerFrom]
    rcases List.mem_cons.mp member with rfl | later
    · rw [if_neg plain, if_neg dotless, own]
      exact List.mem_append_left _ (List.mem_singleton_self mark)
    · exact List.mem_append_right _ (ih later)

theorem dot_mem_lowercase_iff {s : String} : '.' ∈ (lowercase s).toList ↔ '.' ∈ s.toList := by
  refine ⟨mem_of_mem_lowercase (by decide) (by decide), fun member => ?_⟩
  unfold lowercase
  rw [String.toList_ofList]
  exact mem_lowerFrom_of_mem (by decide) (by decide) (by decide) member

end ProviderGen.Text
