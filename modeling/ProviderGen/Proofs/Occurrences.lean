import Mathlib.Data.List.Infix
import ProviderGen.Text.Replace

/-!
Occurrences of a pattern in a text, and what becomes of them when they are replaced. A block that no
occurrence begins in, ends in or goes over parts a text: occurrences before and after it are counted
and replaced by themselves. A pattern that does not overlap with itself is such a place as well.
-/

namespace ProviderGen.Text

def occurrences (pattern : List Char) : List Char → Nat
  | [] => 0
  | c :: rest => (if pattern <+: c :: rest then 1 else 0) + occurrences pattern rest

variable {pattern replacement block before after : List Char}

theorem occurrences_cons_of_not {c : Char} {rest : List Char} (absent : ¬pattern <+: c :: rest) :
    occurrences pattern (c :: rest) = occurrences pattern rest := by
  rw [occurrences, if_neg absent, Nat.zero_add]

theorem replaceFrom_cons_of_not {c : Char} {rest : List Char} (absent : ¬pattern <+: c :: rest) :
    replaceFrom pattern replacement 0 (c :: rest) =
      c :: replaceFrom pattern replacement 0 rest := by
  rw [replaceFrom, if_neg (fun found => absent (List.isPrefixOf_iff_prefix.mp found))]

theorem replaceFrom_length_append (skipped rest : List Char) :
    replaceFrom pattern replacement skipped.length (skipped ++ rest) =
      replaceFrom pattern replacement 0 rest := by
  induction skipped with
  | nil => rfl
  | cons c skipped ih => exact ih

theorem replaceFrom_pattern_append (some : pattern ≠ []) (rest : List Char) :
    replaceFrom pattern replacement 0 (pattern ++ rest) =
      replacement ++ replaceFrom pattern replacement 0 rest := by
  obtain ⟨c, letters, rfl⟩ := List.exists_cons_of_ne_nil some
  have found : (c :: letters).isPrefixOf (c :: (letters ++ rest)) = true :=
    List.isPrefixOf_iff_prefix.mpr (List.prefix_append (c :: letters) rest)
  rw [List.cons_append, replaceFrom, if_pos found, List.length_cons, Nat.add_sub_cancel,
    replaceFrom_length_append]

theorem occurrences_eq_zero_iff (some : pattern ≠ []) {s : List Char} :
    occurrences pattern s = 0 ↔ ¬pattern <:+: s := by
  induction s with
  | nil =>
    rw [List.infix_nil]
    exact iff_of_true rfl some
  | cons c rest ih =>
    rw [List.infix_cons_iff, not_or, ← ih, occurrences]
    split
    case isTrue found => exact iff_of_false (by omega) fun absent => absent.1 found
    case isFalse absent => simp only [Nat.zero_add, absent, not_false_eq_true, true_and]

theorem replaceFrom_eq_self {s : List Char} (none : occurrences pattern s = 0) :
    replaceFrom pattern replacement 0 s = s := by
  induction s with
  | nil => rfl
  | cons c rest ih =>
    have absent : ¬pattern <+: c :: rest := by
      intro found
      rw [occurrences, if_pos found] at none
      omega
    rw [occurrences_cons_of_not absent] at none
    rw [replaceFrom_cons_of_not absent, ih none]

theorem reading (some : pattern ≠ []) {motive : List Char → Prop} (nil : motive [])
    (occurrence : ∀ rest, motive rest → motive (pattern ++ rest))
    (letter : ∀ c rest, ¬pattern <+: c :: rest → motive rest → motive (c :: rest))
    (s : List Char) : motive s := by
  induction length : s.length using Nat.strongRecOn generalizing s with
  | ind n ih =>
    subst length
    by_cases found : pattern <+: s
    · obtain ⟨rest, rfl⟩ := found
      refine occurrence rest (ih rest.length ?_ rest rfl)
      rw [List.length_append]
      have positive := List.length_pos_iff.mpr some
      omega
    · cases s with
      | nil => exact nil
      | cons c rest => exact letter c rest found (ih rest.length (Nat.lt_succ_self _) rest rfl)

theorem replaceFrom_pattern_eq_self (some : pattern ≠ []) (s : List Char) :
    replaceFrom pattern pattern 0 s = s := by
  induction s using reading some with
  | nil => rfl
  | occurrence rest ih => rw [replaceFrom_pattern_append some, ih]
  | letter c rest absent ih => rw [replaceFrom_cons_of_not absent, ih]

theorem occurrences_eq_zero_of_replaceFrom_eq (some : pattern ≠ []) (other : replacement ≠ pattern)
    (lengths : replacement.length = pattern.length) {s : List Char}
    (same : replaceFrom pattern replacement 0 s = s) : occurrences pattern s = 0 := by
  induction s using reading some with
  | nil => rfl
  | occurrence rest =>
    rw [replaceFrom_pattern_append some] at same
    exact absurd (List.append_inj same lengths).1 other
  | letter c rest absent ih =>
    rw [replaceFrom_cons_of_not absent] at same
    rw [occurrences_cons_of_not absent]
    exact ih (List.cons.inj same).2

/-! ### Blocks in which no occurrence begins -/

/-- No occurrence of the pattern begins in the block, whatever comes after it. -/
def Clear (pattern block : List Char) : Prop :=
  ∀ ending ∈ block.tails, ending ≠ [] → ¬ending <+: pattern ∧ ¬pattern <+: ending

instance (pattern block : List Char) : Decidable (Clear pattern block) :=
  inferInstanceAs (Decidable (∀ ending ∈ block.tails, _))

namespace Clear

theorem not_prefix (clear : Clear pattern block) (some : block ≠ []) (after : List Char) :
    ¬pattern <+: block ++ after := by
  intro found
  obtain ⟨notStart, notWhole⟩ := clear block ((List.mem_tails _ _).mpr List.suffix_rfl) some
  cases List.prefix_or_prefix_of_prefix found (List.prefix_append block after) with
  | inl whole => exact notWhole whole
  | inr start => exact notStart start

theorem of_cons {c : Char} (clear : Clear pattern (c :: block)) : Clear pattern block := by
  intro ending member
  apply clear
  rw [List.mem_tails] at member ⊢
  exact member.trans (List.suffix_cons c block)

theorem occurrences_append (clear : Clear pattern block) (after : List Char) :
    occurrences pattern (block ++ after) = occurrences pattern after := by
  induction block with
  | nil => rfl
  | cons c block ih =>
    have absent := clear.not_prefix (List.cons_ne_nil c block) after
    rw [List.cons_append] at absent ⊢
    rw [occurrences_cons_of_not absent, ih clear.of_cons]

theorem replaceFrom_append (clear : Clear pattern block) (after : List Char) :
    replaceFrom pattern replacement 0 (block ++ after) =
      block ++ replaceFrom pattern replacement 0 after := by
  induction block with
  | nil => rfl
  | cons c block ih =>
    have absent := clear.not_prefix (List.cons_ne_nil c block) after
    rw [List.cons_append] at absent ⊢
    rw [replaceFrom_cons_of_not absent, ih clear.of_cons, List.cons_append]

end Clear

/-! ### Blocks that no occurrence reaches into -/

/-- No occurrence of the pattern that begins before the block reaches into it. -/
def Stops (pattern block : List Char) : Prop :=
  ∀ before after : List Char, before ≠ [] → pattern <+: before ++ (block ++ after) →
    pattern <+: before

namespace Stops

theorem prefix_iff (stops : Stops pattern block) (some : before ≠ []) (after : List Char) :
    pattern <+: before ++ (block ++ after) ↔ pattern <+: before :=
  ⟨stops before after some, List.prefix_append_of_prefix⟩

theorem occurrences_append (stops : Stops pattern block) (before after : List Char) :
    occurrences pattern (before ++ (block ++ after)) =
      occurrences pattern before + occurrences pattern (block ++ after) := by
  induction before with
  | nil => rw [List.nil_append, occurrences, Nat.zero_add]
  | cons c before ih =>
    have same := stops.prefix_iff (List.cons_ne_nil c before) after
    rw [List.cons_append] at same ⊢
    simp only [occurrences, same, ih, Nat.add_assoc]

theorem replaceFrom_append (stops : Stops pattern block) {skip : Nat}
    (within : skip ≤ before.length) (after : List Char) :
    replaceFrom pattern replacement skip (before ++ (block ++ after)) =
      replaceFrom pattern replacement skip before ++
        replaceFrom pattern replacement 0 (block ++ after) := by
  induction before generalizing skip with
  | nil =>
    obtain rfl : skip = 0 := Nat.le_zero.mp within
    rfl
  | cons c before ih =>
    cases skip with
    | succ skip => exact ih (Nat.le_of_succ_le_succ within)
    | zero =>
      have same := stops.prefix_iff (List.cons_ne_nil c before) after
      rw [List.cons_append] at same ⊢
      by_cases found : pattern <+: c :: before
      · have remaining : pattern.length - 1 ≤ before.length := by
          have lengths := found.length_le
          rw [List.length_cons] at lengths
          omega
        rw [replaceFrom, if_pos (List.isPrefixOf_iff_prefix.mpr (same.mpr found)), replaceFrom,
          if_pos (List.isPrefixOf_iff_prefix.mpr found), ih remaining, List.append_assoc]
      · rw [replaceFrom_cons_of_not found, replaceFrom_cons_of_not (fun whole =>
          found (same.mp whole)), ih (Nat.zero_le _), List.cons_append]

end Stops

/-- A text that no occurrence of the pattern begins in, ends in or goes over, whatever stands before
and after it. -/
structure Inert (pattern block : List Char) : Prop where
  clear : Clear pattern block
  starts : ∀ start ∈ block.inits, start ≠ [] → ¬start <:+ pattern
  whole : ¬block <:+: pattern

instance (pattern block : List Char) : Decidable (Inert pattern block) :=
  decidable_of_iff (Clear pattern block ∧ (∀ start ∈ block.inits, start ≠ [] → ¬start <:+ pattern) ∧
      ¬block <:+: pattern)
    ⟨fun ⟨clear, starts, whole⟩ => ⟨clear, starts, whole⟩,
      fun inert => ⟨inert.clear, inert.starts, inert.whole⟩⟩

theorem Inert.stops (inert : Inert pattern block) : Stops pattern block := by
  intro before after _ found
  cases List.prefix_or_prefix_of_prefix found (List.prefix_append before (block ++ after)) with
  | inl inside => exact inside
  | inr across =>
    obtain ⟨rest, rfl⟩ := across
    -- what of the pattern does not stand before the block would end in it or go over it
    have reaches : rest <+: block ++ after := (List.prefix_append_right_inj before).mp found
    by_cases empty : rest = []
    · rw [empty, List.append_nil]
    · cases List.prefix_or_prefix_of_prefix reaches (List.prefix_append block after) with
      | inl ending =>
        exact absurd (List.suffix_append before rest)
          (inert.starts rest ((List.mem_inits _ _).mpr ending) empty)
      | inr beyond =>
        exact absurd (beyond.isInfix.trans (List.suffix_append before rest).isInfix) inert.whole

theorem Inert.occurrences_append (inert : Inert pattern block) (before after : List Char) :
    occurrences pattern (before ++ (block ++ after)) =
      occurrences pattern before + occurrences pattern after := by
  rw [inert.stops.occurrences_append, inert.clear.occurrences_append]

/-- Parts of the pattern do not make it together with the block between them. -/
def Apart (pattern block : List Char) : Prop :=
  ∀ before after : List Char, before <:+: pattern → before ≠ pattern → after <:+: pattern →
    after ≠ pattern → ¬pattern <:+: before ++ (block ++ after)

namespace Apart

theorem clear (apart : Apart pattern block) (some : pattern ≠ []) : Clear pattern block := by
  intro ending member nonempty
  obtain ⟨front, rfl⟩ := (List.mem_tails _ _).mp member
  have empty : [] <:+: pattern := List.nil_infix
  refine ⟨fun start => ?_, fun inside => ?_⟩
  · obtain ⟨after, cut⟩ := start
    have last : after <:+: pattern := (cut ▸ List.suffix_append ending after).isInfix
    have short : after ≠ pattern := by
      rintro rfl
      exact nonempty (List.append_left_eq_self.mp cut)
    apply apart [] after empty some.symm last short
    rw [List.nil_append, List.append_assoc, cut]
    exact (List.suffix_append front pattern).isInfix
  · apply apart [] [] empty some.symm empty some.symm
    rw [List.nil_append, List.append_nil]
    exact inside.isInfix.trans (List.suffix_append front ending).isInfix

theorem not_suffix (apart : Apart pattern block) (some : pattern ≠ []) {start : List Char}
    (within : start <+: block) (nonempty : start ≠ []) : ¬start <:+ pattern := by
  rintro ⟨before, cut⟩
  obtain ⟨rest, rfl⟩ := within
  have first : before <:+: pattern := (cut ▸ List.prefix_append before start).isInfix
  have proper : before ≠ pattern := by
    rintro rfl
    exact nonempty (List.append_right_eq_self.mp cut)
  apply apart before [] first proper List.nil_infix some.symm
  rw [List.append_nil, ← List.append_assoc, cut]
  exact (List.prefix_append pattern rest).isInfix

theorem ne_nil (apart : Apart pattern block) (long : 1 < pattern.length) : block ≠ [] := by
  rintro rfl
  have proper : pattern.take 1 ≠ pattern := fun same => by
    have lengths := congrArg List.length same
    rw [List.length_take] at lengths
    omega
  have short : pattern.drop 1 ≠ pattern := fun same => by
    have lengths := congrArg List.length same
    rw [List.length_drop] at lengths
    omega
  apply apart _ _ (List.take_prefix 1 pattern).isInfix proper (List.drop_suffix 1 pattern).isInfix
    short
  rw [List.nil_append, List.take_append_drop]

theorem not_infix (apart : Apart pattern block) (nonempty : block ≠ []) :
    ¬block <:+: pattern := by
  rintro ⟨before, after, cut⟩
  rw [List.append_assoc] at cut
  have first : before <:+: pattern := (cut ▸ List.prefix_append before _).isInfix
  have last : after <:+: pattern := by
    rw [← cut, ← List.append_assoc]
    exact (List.suffix_append _ after).isInfix
  have lengths := congrArg List.length cut
  have positive := List.length_pos_iff.mpr nonempty
  simp only [List.length_append] at lengths
  have proper : before ≠ pattern := by
    rintro rfl
    omega
  have short : after ≠ pattern := by
    rintro rfl
    omega
  apply apart before after first proper last short
  rw [cut]

theorem inert (apart : Apart pattern block) (long : 1 < pattern.length) : Inert pattern block := by
  have some : pattern ≠ [] := List.length_pos_iff.mp (by omega)
  refine ⟨apart.clear some, fun start member => ?_, apart.not_infix (apart.ne_nil long)⟩
  exact apart.not_suffix some ((List.mem_inits _ _).mp member)

end Apart

/-! ### Patterns that do not overlap with themselves -/

def Unbordered (pattern : List Char) : Prop :=
  ∀ ending ∈ pattern.tails, ending ≠ [] → ending ≠ pattern → ¬ending <+: pattern

instance (pattern : List Char) : Decidable (Unbordered pattern) :=
  inferInstanceAs (Decidable (∀ ending ∈ pattern.tails, _))

namespace Unbordered

theorem stops (unbordered : Unbordered pattern) : Stops pattern pattern := by
  intro before after some found
  cases List.prefix_or_prefix_of_prefix found (List.prefix_append before (pattern ++ after)) with
  | inl inside => exact inside
  | inr across =>
    obtain ⟨rest, cut⟩ := across
    have shorter : rest.length < pattern.length := by
      rw [← cut, List.length_append]
      have positive := List.length_pos_iff.mpr some
      omega
    have reaches : rest <+: pattern ++ after := by
      rw [← List.prefix_append_right_inj before, cut]
      exact found
    have start : rest <+: pattern :=
      List.prefix_of_prefix_length_le reaches (List.prefix_append pattern after) shorter.le
    by_cases empty : rest = []
    · rw [empty, List.append_nil] at cut
      rw [cut]
    · have ending : rest ∈ pattern.tails :=
        (List.mem_tails _ _).mpr (cut ▸ List.suffix_append before rest)
      have proper : rest ≠ pattern := by
        rintro rfl
        exact Nat.lt_irrefl _ shorter
      exact absurd start (unbordered rest ending empty proper)

variable (unbordered : Unbordered pattern) (some : pattern ≠ [])

include unbordered some

theorem occurrences_pattern_append (after : List Char) :
    occurrences pattern (pattern ++ after) = 1 + occurrences pattern after := by
  obtain ⟨c, letters, rfl⟩ := List.exists_cons_of_ne_nil some
  have clear : Clear (c :: letters) letters := by
    intro ending member nonempty
    have shorter := ((List.mem_tails _ _).mp member).length_le
    refine ⟨unbordered ending ?_ nonempty ?_, fun long => ?_⟩
    · rw [List.mem_tails] at member ⊢
      exact member.trans (List.suffix_cons c letters)
    · rintro rfl
      rw [List.length_cons] at shorter
      omega
    · have lengths := long.length_le
      rw [List.length_cons] at lengths
      omega
  have found : c :: letters <+: c :: (letters ++ after) := List.prefix_append (c :: letters) after
  rw [List.cons_append, occurrences, if_pos found, clear.occurrences_append]

theorem occurrences_append (before after : List Char) :
    occurrences pattern (before ++ (pattern ++ after)) =
      occurrences pattern before + (1 + occurrences pattern after) := by
  rw [unbordered.stops.occurrences_append, unbordered.occurrences_pattern_append some]

theorem replaceFrom_append (before after : List Char) :
    replaceFrom pattern replacement 0 (before ++ (pattern ++ after)) =
      replaceFrom pattern replacement 0 before ++
        (replacement ++ replaceFrom pattern replacement 0 after) := by
  rw [unbordered.stops.replaceFrom_append (Nat.zero_le _), replaceFrom_pattern_append some]

theorem length_replaceFrom (replacement s : List Char) :
    (replaceFrom pattern replacement 0 s).length + occurrences pattern s * pattern.length =
      s.length + occurrences pattern s * replacement.length := by
  induction s using reading some with
  | nil => rw [occurrences, Nat.zero_mul, Nat.zero_mul, replaceFrom]
  | occurrence rest ih =>
    rw [replaceFrom_pattern_append some, unbordered.occurrences_pattern_append some]
    simp only [List.length_append, Nat.add_mul, Nat.one_mul]
    omega
  | letter c rest absent ih =>
    rw [replaceFrom_cons_of_not absent, occurrences_cons_of_not absent]
    simp only [List.length_cons]
    omega

end Unbordered

end ProviderGen.Text
