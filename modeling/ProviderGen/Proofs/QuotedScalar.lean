import Mathlib.Algebra.Group.Nat.Defs
import ProviderGen.Proofs.Literal
import ProviderGen.Yaml.Scalar

/-!
Quoted scalars are read back. Between quotation marks every character is read back from its
spelling; between apostrophes, breaks and the indentation after them are told apart as long as no
lines have to be folded.
-/

namespace ProviderGen.Yaml

/-! ### Readers -/

def escapes : List (Char × Char) := [
  ('0', '\x00'), ('a', '\x07'), ('b', '\x08'), ('t', '\t'), ('n', '\n'), ('v', '\x0b'),
  ('f', '\x0c'), ('r', '\r'), ('e', '\x1b'), (' ', ' '), ('"', '"'), ('/', '/'), ('\\', '\\'),
  ('N', '\u0085'), ('_', '\u00a0'), ('L', '\u2028'), ('P', '\u2029')]

def escapeWidths : List (Char × Nat) := [('x', 2), ('u', 4), ('U', 8)]

/-- The next character between quotation marks, and of how many characters its spelling is. -/
def element? : List Char → Option (Char × Nat)
  | '\\' :: letter :: rest =>
    match escapes.lookup letter with
    | some c => some (c, 2)
    | none => do
      let width ← escapeWidths.lookup letter
      let code ← Text.Literal.number? 16 width 0 rest
      if code.isValidChar then some (Char.ofNat code, width + 2) else none
  | c :: _ => if c = '"' || c = '\\' || isBreak c then none else some (c, 1)
  | [] => none

/-- A text after its opening quotation mark, and what comes after the closing one. The first `skip`
characters belong to an escape that is read already. -/
def quotedFrom? : Nat → List Char → Option (List Char × List Char)
  | _, [] => none
  | skip + 1, _ :: rest => quotedFrom? skip rest
  | 0, c :: rest =>
    if c = '"' then some ([], rest)
    else do
      let (letter, length) ← element? (c :: rest)
      let (letters, later) ← quotedFrom? (length - 1) rest
      return (letter :: letters, later)

/-- A text after its opening apostrophe, and what comes after the closing one. Spaces after a break
are not part of the text; other breaks than separators would be folded, and spaces before a break
lost. -/
def apostrophesFrom? (afterBreak : Bool) : List Char → Option (List Char × List Char)
  | [] => none
  | '\'' :: '\'' :: rest => do
    let (letters, later) ← apostrophesFrom? false rest
    return ('\'' :: letters, later)
  | '\'' :: rest => some ([], rest)
  | c :: rest =>
    if isSpace c && afterBreak then apostrophesFrom? true rest
    else if c = '\n' || c = '\r' || c = '\u0085' || isSpace c && rest.head?.any isBreak then none
    else do
      let (letters, later) ← apostrophesFrom? (isBreak c) rest
      return (c :: letters, later)

/-! ### Quotation marks -/

open Text (Literal.number? Literal.digit?)

theorem number?_append (base value count : Nat) (digits rest : List Char) :
    Literal.number? base (digits.length + count) value (digits ++ rest) =
      (Literal.number? base digits.length value digits).bind fun front =>
        Literal.number? base count front rest := by
  induction digits generalizing value with
  | nil => rw [List.length_nil, Nat.zero_add]; rfl
  | cons digit digits ih =>
    rw [List.length_cons, Nat.add_right_comm, List.cons_append, Literal.number?,
      Literal.number?, Option.bind_assoc]
    exact congrArg _ (funext fun _ => ih _)

theorem digit?_digitChar {n : Nat} (small : n < 16) :
    Literal.digit? 16 (Nat.digitChar n).toUpper = some n := by
  have table : ∀ n < 16, Literal.digit? 16 (Nat.digitChar n).toUpper = some n := by decide
  exact table n small

theorem number?_toDigits (value n : Nat) :
    let digits := (Nat.toDigits 16 n).map Char.toUpper
    Literal.number? 16 digits.length value digits = some (16 ^ digits.length * value + n) := by
  intro digits
  induction n using Nat.strongRecOn generalizing value with
  | ind n ih =>
    by_cases small : n < 16
    · have one : digits = [(Nat.digitChar n).toUpper] := by
        rw [show digits = (Nat.toDigits 16 n).map Char.toUpper from rfl,
          Nat.toDigits_of_lt_base small]
        rfl
      rw [one, List.length_singleton, Literal.number?, digit?_digitChar small]
      rfl
    · have cut : digits = (Nat.toDigits 16 (n / 16)).map Char.toUpper ++
          [(Nat.digitChar (n % 16)).toUpper] := by
        rw [show digits = (Nat.toDigits 16 n).map Char.toUpper from rfl,
          Nat.toDigits_of_base_le (by decide) (Nat.not_lt.mp small), List.map_append]
        rfl
      have rest : n % 16 < 16 := Nat.mod_lt n (by decide)
      rw [cut, List.length_append, List.length_singleton, number?_append,
        ih (n / 16) (by omega), Option.bind_some, Literal.number?, digit?_digitChar rest,
        Option.bind_some, Literal.number?, Nat.pow_succ]
      rw [Nat.mul_add, Nat.add_assoc, Nat.div_add_mod, ← Nat.mul_assoc, Nat.mul_comm 16]

theorem number?_zeros (count digits : Nat) (rest : List Char) :
    Literal.number? 16 (count + digits) 0 (List.replicate count '0' ++ rest) =
      Literal.number? 16 digits 0 rest := by
  induction count with
  | zero => rw [Nat.zero_add]; rfl
  | succ count ih =>
    rw [Nat.add_right_comm, List.replicate_succ, List.cons_append, Literal.number?]
    exact ih

theorem number?_hexDigits {width n : Nat} (some : 0 < width) (small : n < 16 ^ width)
    (rest : List Char) :
    Literal.number? 16 width 0 (hexDigits width n ++ rest) = Option.some n := by
  have short : ((Nat.toDigits 16 n).map Char.toUpper).length ≤ width := by
    rw [List.length_map]
    exact (Nat.length_toDigits_le_iff (by decide) some).mpr small
  have read := number?_toDigits 0 n
  unfold hexDigits
  dsimp only at read ⊢
  generalize (Nat.toDigits 16 n).map Char.toUpper = digits at read short
  have zeros := number?_zeros (width - digits.length) digits.length (digits ++ rest)
  have digitsOnly := number?_append 16 0 0 digits rest
  rw [Nat.sub_add_cancel short] at zeros
  rw [List.append_assoc, zeros]
  rw [Nat.add_zero, read] at digitsOnly
  rw [digitsOnly, Nat.mul_zero, Nat.zero_add]
  rfl

theorem length_hexDigits {width n : Nat} (some : 0 < width) (small : n < 16 ^ width) :
    (hexDigits width n).length = width := by
  have short : ((Nat.toDigits 16 n).map Char.toUpper).length ≤ width := by
    rw [List.length_map]
    exact (Nat.length_toDigits_le_iff (by decide) some).mpr small
  unfold hexDigits
  dsimp only
  rw [List.length_append, List.length_replicate, Nat.sub_add_cancel short]

theorem element?_hexDigits {c mark : Char} {width : Nat} (unlisted : escapes.lookup mark = none)
    (listed : escapeWidths.lookup mark = some width) (some : 0 < width)
    (small : c.toNat < 16 ^ width) (rest : List Char) :
    element? ('\\' :: mark :: hexDigits width c.toNat ++ rest) =
      Option.some (c, ('\\' :: mark :: hexDigits width c.toNat).length) := by
  have valid : c.toNat.isValidChar := c.valid
  rw [List.cons_append, List.cons_append, element?, unlisted, listed]
  dsimp only [Option.bind_eq_bind]
  rw [Option.bind_some, number?_hexDigits some small, Option.bind_some, if_pos valid,
    Char.ofNat_toNat, List.length_cons, List.length_cons, length_hexDigits some small]

theorem element?_escaped (c : Char) (rest : List Char) :
    element? (escaped c ++ rest) = some (c, (escaped c).length) := by
  unfold escaped
  split
  case h_15 =>
    split
    case isTrue =>
      have plain : ¬(c = '"' || c = '\\' || isBreak c) = true := by
        unfold isBreak
        simp only [Bool.or_eq_true, decide_eq_true_eq, beq_iff_eq]
        rintro ((rfl | rfl) | (((rfl | rfl) | rfl) | rfl) | rfl) <;>
          exact absurd rfl (by assumption)
      rw [List.singleton_append, element?, if_neg plain]
      · rfl
      · rintro _ _ rfl
        exact absurd rfl plain
    case isFalse =>
    split
    case isTrue small =>
      exact element?_hexDigits rfl rfl (by decide) (Nat.lt_succ_of_le small) rest
    case isFalse =>
    split
    case isTrue small =>
      exact element?_hexDigits rfl rfl (by decide) (Nat.lt_succ_of_le small) rest
    case isFalse =>
      exact element?_hexDigits rfl rfl (by decide) c.val.toNat_lt rest
  all_goals
    rename_i same
    have letter := congrArg Char.ofNat same
    rw [Char.ofNat_toNat] at letter
    rw [letter]
    rfl

theorem exists_cons_escaped (c : Char) :
    ∃ first others, escaped c = first :: others ∧ first ≠ '"' := by
  have element := element?_escaped c []
  rw [List.append_nil] at element
  cases spelled : escaped c with
  | nil =>
    rw [spelled] at element
    cases element
  | cons first others =>
    refine ⟨first, others, rfl, ?_⟩
    rintro rfl
    rw [spelled] at element
    cases element

theorem quotedFrom?_append (front rest : List Char) :
    quotedFrom? front.length (front ++ rest) = quotedFrom? 0 rest := by
  induction front with
  | nil => rfl
  | cons c front ih => exact ih

theorem quotedFrom?_escaped (letters rest : List Char) :
    quotedFrom? 0 (letters.flatMap escaped ++ '"' :: rest) = some (letters, rest) := by
  induction letters with
  | nil => rfl
  | cons c letters ih =>
    obtain ⟨first, others, spelled, unquoted⟩ := exists_cons_escaped c
    have element := element?_escaped c (letters.flatMap escaped ++ '"' :: rest)
    rw [List.flatMap_cons, List.append_assoc]
    rw [spelled] at element ⊢
    rw [List.cons_append] at element ⊢
    rw [quotedFrom?, if_neg unquoted, element]
    dsimp only [Option.bind_eq_bind]
    rw [Option.bind_some]
    dsimp only
    rw [List.length_cons, Nat.add_sub_cancel, quotedFrom?_append, ih]
    rfl

/-! ### Apostrophes -/

theorem not_break_of_pair {kind other : Char → Bool} {c : Char} {letters : List Char}
    (apart : hasPair kind other (c :: letters) = false) :
    (kind c = true → letters.head?.any other = false) ∧ hasPair kind other letters = false := by
  cases letters with
  | nil => exact ⟨fun _ => rfl, rfl⟩
  | cons d letters =>
    unfold hasPair at apart
    rw [Bool.or_eq_false_iff] at apart
    exact ⟨fun first => by simpa [first] using apart.1, apart.2⟩

theorem apostrophesFrom?_indented (indent : Nat) (afterBreak : Bool) {text : List Char}
    (start : text.head?.any isSpace = false) :
    apostrophesFrom? afterBreak
        ((if afterBreak = true then List.replicate indent ' ' else []) ++ text) =
      apostrophesFrom? false text := by
  cases afterBreak with
  | false => rfl
  | true =>
    rw [if_pos rfl]
    induction indent with
    | zero =>
      cases text with
      | nil => rfl
      | cons c rest =>
        have other : isSpace c = false := start
        change apostrophesFrom? true (c :: rest) = apostrophesFrom? false (c :: rest)
        unfold apostrophesFrom?
        split
        case h_1 => rfl
        case h_2 => rfl
        case h_3 => rfl
        case h_4 same =>
          cases same
          rw [other]
          rfl
    | succ indent ih => exact ih

theorem apostrophesFrom?_cons {c : Char} {afterBreak : Bool} {text : List Char}
    (unquoted : c ≠ '\'') (counts : (isSpace c && afterBreak) = false)
    (kept : (c = '\n' || c = '\r' || c = '\u0085' || isSpace c && text.head?.any isBreak) = false) :
    apostrophesFrom? afterBreak (c :: text) =
      (apostrophesFrom? (isBreak c) text).map fun read => (c :: read.1, read.2) := by
  rw [apostrophesFrom?, counts, if_neg Bool.false_ne_true, kept, if_neg Bool.false_ne_true]
  · cases apostrophesFrom? (isBreak c) text <;> rfl
  · exact fun _ same _ => unquoted same
  · exact unquoted

theorem apostrophesFrom?_separator {c : Char} (separator : c = '\u2028' ∨ c = '\u2029')
    (afterBreak : Bool) (text : List Char) :
    apostrophesFrom? afterBreak (c :: text) =
      (apostrophesFrom? true text).map fun read => (c :: read.1, read.2) := by
  have broken : isBreak c = true := by rcases separator with rfl | rfl <;> decide
  rw [apostrophesFrom?_cons, broken]
  all_goals rcases separator with rfl | rfl <;> first | decide | rfl

theorem apostrophesFrom?_space {text : List Char} (next : text.head?.any isBreak = false) :
    apostrophesFrom? false (' ' :: text) =
      (apostrophesFrom? false text).map fun read => (' ' :: read.1, read.2) := by
  have unbroken : isBreak ' ' = false := by decide
  rw [apostrophesFrom?_cons (by decide) (by decide), unbroken]
  rw [next]
  rfl

theorem apostrophesFrom?_letter {c : Char} (unbroken : isBreak c = false)
    (unspaced : isSpace c = false) (text : List Char) :
    apostrophesFrom? false ((if c == '\'' then ['\'', '\''] else [c]) ++ text) =
      (apostrophesFrom? false text).map fun read => (c :: read.1, read.2) := by
  by_cases quote : c = '\''
  · subst quote
    change apostrophesFrom? false ('\'' :: '\'' :: text) = _
    rw [apostrophesFrom?]
    cases apostrophesFrom? false text <;> rfl
  · have read (c : Char) : isBreak c = false →
        (c = '\n' || c = '\r' || c = '\u0085') = false := by
      unfold isBreak
      simp only [Bool.or_eq_false_iff, decide_eq_false_iff_not, beq_eq_false_iff_ne]
      exact fun ⟨⟨⟨⟨ret, feed⟩, line⟩, _⟩, _⟩ => ⟨⟨feed, ret⟩, line⟩
    rw [if_neg (by simpa using quote), List.singleton_append, apostrophesFrom?_cons quote,
      unbroken]
    · rw [Bool.and_false]
    · rw [read c unbroken, unspaced]
      rfl

theorem head?_apostropheBody (indent : Nat) (letters rest : List Char) :
    (apostropheBody indent false letters ++ '\'' :: rest).head? =
      some (letters.head?.getD '\'') := by
  cases letters with
  | nil => rfl
  | cons c letters =>
    rw [apostropheBody, if_neg Bool.false_ne_true, List.nil_append]
    split
    · rfl
    · split
      · rfl
      · split
        case isTrue quote =>
          rw [beq_iff_eq.mp quote]
          rfl
        case isFalse => rfl

/-- A text between apostrophes is read back if its breaks are separators without spaces beside
them. -/
theorem apostrophesFrom?_body (indent : Nat) {letters rest : List Char} {afterBreak : Bool}
    (separators : ∀ c ∈ letters, isBreak c = true → c = '\u2028' ∨ c = '\u2029')
    (before : hasPair isSpace isBreak letters = false)
    (after : hasPair isBreak isSpace letters = false)
    (start : afterBreak = true → letters.head?.any isSpace = false)
    (ends : rest.head? ≠ some '\'') :
    apostrophesFrom? afterBreak (apostropheBody indent afterBreak letters ++ '\'' :: rest) =
      some (letters, rest) := by
  have closed : apostrophesFrom? false ('\'' :: rest) = some ([], rest) := by
    cases rest with
    | nil => rfl
    | cons c rest =>
      rw [apostrophesFrom?]
      intro _ same
      exact ends (congrArg List.head? same)
  induction letters generalizing afterBreak with
  | nil =>
    rw [apostropheBody, apostrophesFrom?_indented indent afterBreak rfl]
    exact closed
  | cons c letters ih =>
    obtain ⟨beforeHere, beforeLater⟩ := not_break_of_pair before
    obtain ⟨afterHere, afterLater⟩ := not_break_of_pair after
    have later (again : Bool) := @ih again
      (fun d member => separators d (List.mem_cons_of_mem c member)) beforeLater afterLater
    rw [apostropheBody]
    by_cases broken : isBreak c = true
    · have separator := separators c List.mem_cons_self broken
      rw [if_pos broken, List.cons_append, apostrophesFrom?_separator separator,
        later true fun _ => afterHere broken]
      rfl
    rw [if_neg broken]
    by_cases space : isSpace c = true
    · obtain rfl : c = ' ' := beq_iff_eq.mp space
      obtain rfl : afterBreak = false := Bool.eq_false_iff.mpr fun again =>
        Bool.noConfusion (space.symm.trans (start again))
      have next : Option.any isBreak
          (apostropheBody indent false letters ++ '\'' :: rest).head? = false := by
        rw [head?_apostropheBody]
        cases letters with
        | nil => rfl
        | cons d letters => exact beforeHere space
      rw [if_pos space, List.cons_append, apostrophesFrom?_space next,
        later false Bool.noConfusion]
      rfl
    · have unbroken : isBreak c = false := Bool.eq_false_iff.mpr broken
      have unspaced : isSpace c = false := Bool.eq_false_iff.mpr space
      have letter : Option.any isSpace ((if c == '\'' then ['\'', '\''] else [c]) ++
          (apostropheBody indent false letters ++ '\'' :: rest)).head? = false := by
        split
        · rfl
        · exact unspaced
      rw [if_neg space, List.append_assoc, List.append_assoc,
        apostrophesFrom?_indented indent afterBreak letter,
        apostrophesFrom?_letter unbroken unspaced, later false Bool.noConfusion]
      rfl

end ProviderGen.Yaml
