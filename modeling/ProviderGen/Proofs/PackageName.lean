import ProviderGen.Emit.Naming
import ProviderGen.Proofs.HostPath
import ProviderGen.Proofs.Lowercase

/-!
What names of packages and aliases are made of. They keep the letters, digits and underscores of a
name in lowercase, and are never empty and never start with a digit; so they can name files and
packages alike, and a name that is one already stays.
-/

namespace ProviderGen.Emit

open Location (IsName)

/-! ### Characters -/

def isPackageChar (c : Char) : Bool := c.isLower || c.isDigit || c == '_'

theorem isNameChar_of_isPackageChar {c : Char} (small : isPackageChar c = true) :
    isNameChar c = true := by
  unfold isPackageChar at small
  change (((c.isUpper || c.isLower) || c.isDigit) || c == '_') = true
  rw [Bool.or_assoc c.isUpper, Bool.or_assoc c.isUpper, small, Bool.or_true]

theorem toNat_lt_of_isNameChar {c : Char} (kept : isNameChar c = true) : c.toNat < 0x80 := by
  have within {high : UInt32} (ascii : high.toNat < 0x80) (below : c.val ≤ high) :
      c.toNat < 0x80 := Nat.lt_of_le_of_lt (UInt32.le_iff_toNat_le.mp below) ascii
  change (((c.isUpper || c.isLower) || c.isDigit) || c == '_') = true at kept
  rw [Bool.or_eq_true, Bool.or_eq_true, Bool.or_eq_true, beq_iff_eq] at kept
  rcases kept with ((upper | lower) | digit) | rfl
  · exact within (by decide) (of_decide_eq_true upper).2
  · exact within (by decide) (of_decide_eq_true (Bool.and_eq_true_iff.mp lower).2)
  · exact within (by decide) (of_decide_eq_true (Bool.and_eq_true_iff.mp digit).2)
  · decide

theorem isPackageChar_toLower {c : Char} (kept : isNameChar c = true) :
    isPackageChar c.toLower = true :=
  Text.of_ascii (P := fun c => isNameChar c = true → isPackageChar c.toLower = true) (by decide)
    (toNat_lt_of_isNameChar kept) kept

theorem toLower_of_isPackageChar {c : Char} (small : isPackageChar c = true) : c.toLower = c :=
  Text.of_ascii (P := fun c => isPackageChar c = true → c.toLower = c) (by decide)
    (toNat_lt_of_isNameChar (isNameChar_of_isPackageChar small)) small

/-! ### Plain names -/

/-- A word of small letters, digits and underscores that does not start with a digit. -/
structure IsPlain (word : String) : Prop where
  letters : ∀ c ∈ word.toList, isPackageChar c = true
  start : ∃ first rest, word.toList = first :: rest ∧ first.isDigit = false

theorem IsPlain.not_mem {word : String} (plain : IsPlain word) {mark : Char}
    (other : isPackageChar mark = false) : mark ∉ word.toList := by
  intro member
  rw [plain.letters mark member] at other
  cases other

theorem IsPlain.ne_empty {word : String} (plain : IsPlain word) : word ≠ "" := by
  rintro rfl
  obtain ⟨first, rest, letters, _⟩ := plain.start
  cases letters

theorem IsPlain.isName {word : String} (plain : IsPlain word) : IsName word := by
  have undotted : '.' ∉ word.toList := plain.not_mem (by decide)
  refine ⟨⟨plain.ne_empty, fun dot => ?_, plain.not_mem (by decide)⟩, fun up => ?_⟩
  · exact undotted (dot ▸ List.mem_cons_self)
  · exact undotted (up ▸ List.mem_cons_self)

/-! ### Names of packages -/

def keptLetters (name : String) : List Char := (name.toList.filter isNameChar).map Char.toLower

theorem packageName_cases (name : String) :
    (keptLetters name = [] ∧ packageName name = "generated") ∨
    (∃ digit rest, keptLetters name = digit :: rest ∧ digit.isDigit = true ∧
      (packageName name).toList = 'p' :: digit :: rest) ∨
    ∃ first rest, keptLetters name = first :: rest ∧ first.isDigit = false ∧
      (packageName name).toList = first :: rest := by
  have kept : (name.toList.filter isNameChar).map Char.toLower = keptLetters name := rfl
  unfold packageName
  rw [kept]
  cases keptLetters name with
  | nil => exact .inl ⟨rfl, rfl⟩
  | cons first rest =>
    dsimp only
    rw [String.toList_ofList]
    cases digit : first.isDigit with
    | true => exact .inr (.inl ⟨first, rest, rfl, digit, rfl⟩)
    | false => exact .inr (.inr ⟨first, rest, rfl, digit, rfl⟩)

theorem isPackageChar_of_mem_keptLetters {name : String} {c : Char}
    (member : c ∈ keptLetters name) : isPackageChar c = true := by
  obtain ⟨letter, kept, rfl⟩ := List.mem_map.mp member
  exact isPackageChar_toLower (List.mem_filter.mp kept).2

theorem isPlain_packageName (name : String) : IsPlain (packageName name) := by
  have kept : ∀ c ∈ keptLetters name, isPackageChar c = true :=
    fun _ => isPackageChar_of_mem_keptLetters
  obtain ⟨_, own⟩ | ⟨digit, rest, letters, _, spelled⟩ | ⟨first, rest, letters, plain, spelled⟩ :=
    packageName_cases name
  · rw [own]
    exact ⟨List.all_eq_true.mp rfl, 'g', _, rfl, rfl⟩
  · rw [letters] at kept
    refine ⟨?_, 'p', digit :: rest, spelled, rfl⟩
    rw [spelled]
    exact List.forall_mem_cons.mpr ⟨rfl, kept⟩
  · rw [letters] at kept
    exact ⟨spelled ▸ kept, first, rest, spelled, plain⟩

theorem IsPlain.keptLetters_eq {word : String} (plain : IsPlain word) :
    keptLetters word = word.toList := by
  have all : word.toList.filter isNameChar = word.toList :=
    List.filter_eq_self.mpr fun c member => isNameChar_of_isPackageChar (plain.letters c member)
  have small : word.toList.map Char.toLower = word.toList.map id :=
    List.map_congr_left fun c member => toLower_of_isPackageChar (plain.letters c member)
  unfold keptLetters
  rw [all, small, List.map_id]

theorem IsPlain.packageName_eq {word : String} (plain : IsPlain word) :
    packageName word = word := by
  have kept := plain.keptLetters_eq
  obtain ⟨start, others, spelling, plainStart⟩ := plain.start
  obtain ⟨none, _⟩ | ⟨digit, rest, letters, isDigit, _⟩ | ⟨first, rest, letters, _, spelled⟩ :=
    packageName_cases word
  · rw [kept, spelling] at none
    cases none
  · rw [kept, spelling] at letters
    cases letters
    rw [plainStart] at isDigit
    cases isDigit
  · apply String.toList_injective
    rw [spelled, ← letters, kept]

/-- What words have in common that no rule for package names makes: they are neither empty nor the
name for what keeps nothing, and without the digits that are marked at a start. -/
structure IsVerbatim (word : String) : Prop where
  nonempty : word ≠ ""
  other : word ≠ "generated"
  digitless : ∀ c ∈ word.toList, c.isDigit = false

instance (word : String) : Decidable (IsVerbatim word) :=
  decidable_of_iff (word ≠ "" ∧ word ≠ "generated" ∧ word.toList.all (!·.isDigit) = true)
    ⟨fun ⟨nonempty, other, digitless⟩ => ⟨nonempty, other, by simpa using digitless⟩,
      fun verbatim => ⟨verbatim.nonempty, verbatim.other, by simpa using verbatim.digitless⟩⟩

theorem IsVerbatim.packageName_eq_iff {word : String} (verbatim : IsVerbatim word) {name : String} :
    packageName name = word ↔ keptLetters name = word.toList := by
  obtain ⟨none, own⟩ | ⟨digit, rest, letters, isDigit, spelled⟩ |
      ⟨first, rest, letters, _, spelled⟩ := packageName_cases name
  · have nonempty : word.toList ≠ [] :=
      fun empty => verbatim.nonempty (String.toList_eq_nil_iff.mp empty)
    rw [own, none]
    exact iff_of_false (Ne.symm verbatim.other) (Ne.symm nonempty)
  · have apart {letters : List Char} (same : letters = word.toList) : digit ∉ letters := by
      intro member
      rw [verbatim.digitless digit (same ▸ member)] at isDigit
      cases isDigit
    rw [letters, ← String.toList_inj, spelled]
    exact iff_of_false (fun same => apart same (by simp)) fun same => apart same (by simp)
  · rw [letters, ← String.toList_inj, spelled]

/-! ### Aliases -/

theorem aliasCandidate_zero (base : String) : aliasCandidate base 0 = base := rfl

theorem toList_aliasCandidate_succ (base : String) (n : Nat) :
    (aliasCandidate base (n + 1)).toList = base.toList ++ Nat.toDigits 10 (n + 2) := by
  unfold aliasCandidate
  rw [String.toList_append, Nat.toString_eq_ofList_toDigits, String.toList_ofList]

theorem isPlain_aliasCandidate {base : String} (plain : IsPlain base) (n : Nat) :
    IsPlain (aliasCandidate base n) := by
  cases n with
  | zero => exact plain
  | succ n =>
    obtain ⟨first, rest, spelled, start⟩ := plain.start
    refine ⟨?_, first, rest ++ Nat.toDigits 10 (n + 2), ?_, start⟩
    · rw [toList_aliasCandidate_succ]
      refine List.forall_mem_append.mpr ⟨plain.letters, fun digit member => ?_⟩
      have isDigit := Nat.isDigit_of_mem_toDigits (by decide) (by decide) member
      unfold isPackageChar
      rw [isDigit, Bool.or_true, Bool.true_or]
    · rw [toList_aliasCandidate_succ, spelled, List.cons_append]

theorem aliasAttempt_ofNat (base : String) {number : Nat} (small : number < 2147483647) :
    aliasAttempt base (Int32.ofNat (number + 1)) = aliasCandidate base number := by
  have value : (Int32.ofNat (number + 1)).toInt = (number + 1 : Nat) :=
    Int32.toInt_ofNat_of_lt (by omega)
  unfold aliasAttempt
  cases number with
  | zero => rfl
  | succ number =>
    rw [if_neg]
    · exact congrArg (fun count : Int => base ++ toString count) value
    · intro first
      rw [first] at value
      have one : (1 : Int32).toInt = 1 := rfl
      omega

theorem ofNat_ne_maxValue_iff {number : Nat} (small : number < 2147483647) :
    Int32.ofNat (number + 1) ≠ Int32.maxValue ↔ number + 1 < 2147483647 := by
  have value : (Int32.ofNat (number + 1)).toInt = (number + 1 : Nat) :=
    Int32.toInt_ofNat_of_lt (by omega)
  have last : Int32.maxValue.toInt = 2147483647 := rfl
  rw [ne_eq, ← Int32.toInt_inj, value, last]
  omega

theorem ofNat_add_one (number : Nat) : Int32.ofNat number + 1 = Int32.ofNat (number + 1) :=
  (Int32.ofNat_add number 1).symm

theorem searchAlias_first {base name : String} {taken : List String} {attempts number : Nat}
    (small : number < 2147483647)
    (found : searchAlias base taken attempts (Int32.ofNat (number + 1)) = some name) :
    ∃ count, name = aliasCandidate base (number + count) ∧
      aliasCandidate base (number + count) ∉ taken ∧
      ∀ m < count, aliasCandidate base (number + m) ∈ taken := by
  induction attempts generalizing number with
  | zero => cases found
  | succ attempts ih =>
    unfold searchAlias at found
    rw [aliasAttempt_ofNat base small] at found
    split at found
    case isTrue free => exact ⟨0, (Option.some.inj found).symm, free, nofun⟩
    case isFalse occupied =>
      split at found
      case isTrue => cases found
      case isFalse more =>
        rw [ofNat_add_one] at found
        have shift (m : Nat) : number + (m + 1) = number + 1 + m := by omega
        obtain ⟨count, candidate, free, earlier⟩ := ih ((ofNat_ne_maxValue_iff small).mp more) found
        refine ⟨count + 1, shift count ▸ candidate, shift count ▸ free, fun m below => ?_⟩
        cases m with
        | zero => exact not_not.mp occupied
        | succ m =>
          rw [shift]
          exact earlier m (Nat.lt_of_succ_lt_succ below)

theorem isPlain_importAlias (taken : List String) (package : String) :
    IsPlain (importAlias taken package) := by
  have plain (n : Nat) : IsPlain (aliasCandidate (aliasBase package) n) :=
    isPlain_aliasCandidate (isPlain_packageName _) n
  unfold importAlias
  dsimp only
  cases search : searchAlias (aliasBase package) taken (taken.length + 1) 1 with
  | none => exact plain _
  | some name =>
    obtain ⟨count, rfl, _⟩ := searchAlias_first (by decide) search
    exact plain _

theorem isPlain_of_mem_withAliases {taken packages : List String} {entry : String × String}
    (member : entry ∈ withAliases taken packages) : IsPlain entry.1 := by
  induction packages generalizing taken with
  | nil => cases member
  | cons package rest ih =>
    unfold withAliases at member
    cases List.mem_cons.mp member with
    | inl first =>
      subst first
      exact isPlain_importAlias taken package
    | inr later => exact ih later

end ProviderGen.Emit
