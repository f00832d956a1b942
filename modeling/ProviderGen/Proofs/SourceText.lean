import Mathlib.Logic.Basic
import ProviderGen.Emit.Source
import ProviderGen.Proofs.PackageName

/-!
What generated sources are put together from. A source text is cut back into the lines it was made
of, and lines are told apart by what they open with. Neither constants nor aliases break a line, and
files can be named after packages.
-/

namespace ProviderGen.Emit

open Location (IsName)

theorem sourceText_cons (line : String) (lines : List String) :
    sourceText (line :: lines) = line ++ "\n" ++ sourceText lines := by
  unfold sourceText
  rw [List.map_cons, String.join_cons]

theorem split_sourceText_cons (line : String) (lines : List String) :
    Text.split '\n' (sourceText (line :: lines)) =
      Text.split '\n' line ++ Text.split '\n' (sourceText lines) := by
  rw [sourceText_cons]
  exact Text.split_append '\n' line (sourceText lines)

theorem split_sourceText {lines : List String} (unbroken : ∀ line ∈ lines, '\n' ∉ line.toList) :
    Text.split '\n' (sourceText lines) = lines ++ [""] := by
  induction lines with
  | nil => exact Text.split_of_not_mem List.not_mem_nil
  | cons line rest ih =>
    obtain ⟨first, later⟩ := List.forall_mem_cons.mp unbroken
    rw [split_sourceText_cons, Text.split_of_not_mem first, ih later]
    rfl

theorem mem_split_sourceText {lines : List String} {line : String} (member : line ∈ lines)
    (unbroken : '\n' ∉ line.toList) : line ∈ Text.split '\n' (sourceText lines) := by
  induction lines with
  | nil => cases member
  | cons first rest ih =>
    rw [split_sourceText_cons]
    cases List.mem_cons.mp member with
    | inl same =>
      subst same
      rw [Text.split_of_not_mem unbroken]
      exact List.mem_append_left _ (List.mem_singleton_self line)
    | inr later => exact List.mem_append_right _ (ih later)

theorem sourceText_append (lines later : List String) :
    sourceText (lines ++ later) = sourceText lines ++ sourceText later := by
  unfold sourceText
  rw [List.map_append, String.join_append]

theorem not_mem_append {c : Char} {first second : String} :
    c ∉ (first ++ second).toList ↔ c ∉ first.toList ∧ c ∉ second.toList := by
  rw [String.toList_append, List.mem_append, not_or]

/-! ### Openings -/

def Opens (opening text : String) : Prop := opening.toList <+: text.toList

instance (opening text : String) : Decidable (Opens opening text) :=
  inferInstanceAs (Decidable (_ <+: _))

/-- Neither of two texts begins with the other. -/
def Diverge (first second : String) : Prop := ¬Opens first second ∧ ¬Opens second first

instance (first second : String) : Decidable (Diverge first second) :=
  inferInstanceAs (Decidable (_ ∧ _))

theorem opens_append (opening rest : String) : Opens opening (opening ++ rest) := by
  unfold Opens
  rw [String.toList_append]
  exact List.prefix_append _ _

theorem Diverge.not_opens {start opening : String} (diverge : Diverge start opening)
    (rest : String) : ¬Opens opening (start ++ rest) := by
  intro opened
  cases List.prefix_or_prefix_of_prefix opened (opens_append start rest) with
  | inl short => exact diverge.2 short
  | inr long => exact diverge.1 long

theorem Diverge.append_ne {start other : String} (diverge : Diverge start other) (rest : String) :
    start ++ rest ≠ other := by
  rintro rfl
  exact diverge.1 (opens_append start rest)

def opened (opening : String) (lines : List String) : List String :=
  lines.filter fun line => Opens opening line

theorem opened_append (opening : String) (lines later : List String) :
    opened opening (lines ++ later) = opened opening lines ++ opened opening later :=
  List.filter_append lines later

theorem opened_eq_nil {opening : String} {lines : List String}
    (none : ∀ line ∈ lines, ¬Opens opening line) : opened opening lines = [] := by
  apply List.filter_eq_nil_iff.mpr
  intro line member
  simpa using none line member

theorem opened_eq_self {opening : String} {lines : List String}
    (all : ∀ line ∈ lines, Opens opening line) : opened opening lines = lines := by
  apply List.filter_eq_self.mpr
  intro line member
  exact decide_eq_true (all line member)

/-- The lines after the first that is an opening, up to the next that is a closing. -/
def block (opening closing : String) (lines : List String) : List String :=
  ((lines.dropWhile (· ≠ opening)).drop 1).takeWhile (· ≠ closing)

theorem block_eq {opening closing : String} {start inner rest : List String}
    (before : ∀ line ∈ start, line ≠ opening) (inside : ∀ line ∈ inner, line ≠ closing) :
    block opening closing (start ++ opening :: (inner ++ closing :: rest)) = inner := by
  unfold block
  rw [List.dropWhile_append_of_pos (fun line member => decide_eq_true (before line member)),
    List.dropWhile_cons_of_neg (by simp), List.drop_one, List.tail_cons,
    List.takeWhile_append_of_pos (fun line member => decide_eq_true (inside line member)),
    List.takeWhile_cons_of_neg (by simp), List.append_nil]

/-- After a common opening, texts of one length are told by what follows. -/
theorem eq_of_opening {opening first second rest later : String}
    (same : opening ++ first ++ rest = opening ++ second ++ later)
    (lengths : first.length = second.length) : first = second := by
  have letters := congrArg String.toList same
  simp only [String.toList_append, List.append_assoc] at letters
  exact String.toList_injective (List.append_inj (List.append_cancel_left letters) lengths).1

theorem eq_of_two_places {opening middle closing first second : String}
    (same : opening ++ first ++ middle ++ first ++ closing =
      opening ++ second ++ middle ++ second ++ closing) : first = second := by
  have lengths := congrArg String.length same
  simp only [String.length_append] at lengths
  have together : first.length = second.length := by omega
  have regrouped : opening ++ first ++ (middle ++ first ++ closing) =
      opening ++ second ++ (middle ++ second ++ closing) := by
    simpa only [String.append_assoc] using same
  exact eq_of_opening regrouped together

/-! ### Constants and aliases -/

theorem exists_of_mem_toDigits {base n : Nat} (large : 1 < base) {digit : Char}
    (member : digit ∈ Nat.toDigits base n) : ∃ value < base, digit = value.digitChar := by
  induction n using Nat.strongRecOn with
  | ind n ih =>
    rw [Nat.toDigits_eq_if large] at member
    split at member
    case isTrue small => exact ⟨n, small, List.mem_singleton.mp member⟩
    case isFalse big =>
      cases List.mem_append.mp member with
      | inl high => exact ih (n / base) (Nat.div_lt_self (by omega) large) high
      | inr low => exact ⟨n % base, Nat.mod_lt n (by omega), List.mem_singleton.mp low⟩

theorem feed_not_mem_toDigits {base n : Nat} (large : 1 < base) (small : base ≤ 16) :
    '\n' ∉ Nat.toDigits base n := by
  intro member
  obtain ⟨value, below, same⟩ := exists_of_mem_toDigits large member
  have shown : ∀ value < 16, '\n' ≠ Nat.digitChar value := by decide
  exact shown value (by omega) same

theorem feed_not_mem_constant (text : String) : '\n' ∉ (constant text).toList := by
  have escaped (c : Char) : '\n' ∉ Text.quotedChar c := by
    unfold Text.quotedChar
    split
    case h_7 other _ _ _ feed _ _ =>
      split
      case isTrue =>
        intro member
        exact feed (List.mem_singleton.mp member).symm
      case isFalse => simpa using feed_not_mem_toDigits (by decide) (Nat.le_refl 16)
    all_goals decide
  unfold constant Text.quoted
  simp [escaped]

theorem feed_not_mem_of_mem_withAliases {taken packages : List String} {entry : String × String}
    (member : entry ∈ withAliases taken packages) : '\n' ∉ entry.1.toList :=
  (isPlain_of_mem_withAliases member).not_mem (by decide)

theorem map_withAliases (taken packages : List String) :
    (withAliases taken packages).map (·.2) = packages := by
  induction packages generalizing taken with
  | nil => rfl
  | cons package rest ih =>
    unfold withAliases
    rw [List.map_cons, ih]

theorem of_mem_importLines {imports : List (String × String)} {line : String}
    (member : line ∈ importLines imports) :
    line = "" ∨ ∃ entry ∈ imports, line = "\t" ++ (entry.1 ++ (" " ++ constant entry.2)) := by
  unfold importLines at member
  cases List.mem_append.mp member with
  | inl empty =>
    split at empty
    · cases empty
    · exact .inl (List.mem_singleton.mp empty)
  | inr aliased =>
    obtain ⟨entry, listed, rfl⟩ := List.mem_map.mp aliased
    exact .inr ⟨entry, listed, by simp only [String.append_assoc]⟩

/-! ### Names of files -/

theorem isName_generated {rest : String} (unbroken : '/' ∉ rest.toList) :
    IsName ("zz_" ++ rest) := by
  have letters : ("zz_" ++ rest).toList = 'z' :: 'z' :: '_' :: rest.toList := by simp
  have differs {name : String} (start : name.toList.head? ≠ some 'z') : "zz_" ++ rest ≠ name := by
    rintro rfl
    exact start (by rw [letters]; rfl)
  refine ⟨⟨differs (by decide), differs (by decide), ?_⟩, differs (by decide)⟩
  rw [letters]
  simp [unbroken]

theorem isName_setupFile (key : String) : IsName ("zz_" ++ packageName key ++ "_setup.go") := by
  rw [String.append_assoc]
  apply isName_generated
  rw [String.toList_append, List.mem_append]
  exact not_or.mpr ⟨(isPlain_packageName key).not_mem (by decide), by decide⟩

end ProviderGen.Emit
