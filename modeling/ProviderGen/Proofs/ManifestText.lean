import Mathlib.Data.List.DropRight
import ProviderGen.Manifest.Basic
import ProviderGen.Proofs.QuotedScalar

/-!
Manifests are read back from their texts. A plain scalar is read up to the end of its line, a
quoted one up to its closing mark, and a literal block up to a line that is not indented as far.
Every string is read back from its scalar, so the text of a manifest tells all parts of the
manifest.
-/

namespace ProviderGen

namespace Yaml

/-! ### Readers -/

/-- The lines of a literal block, without the indentation, and what comes after them. Of the next
line, `column` spaces are read already. -/
def blockFrom (indent column : Nat) : List Char → List Char × List Char
  | [] => ([], [])
  | c :: rest =>
    if column < indent then
      if isSpace c then blockFrom indent (column + 1) rest
      else if column = 0 && isBreak c then
        let (letters, later) := blockFrom indent 0 rest
        (c :: letters, later)
      else ([], List.replicate column ' ' ++ c :: rest)
    else
      let (letters, later) := blockFrom indent (if isBreak c then 0 else column) rest
      (c :: letters, later)

def chomped (mark : Option Char) (letters : List Char) : List Char :=
  let body := letters.rdropWhile isBreak
  if mark = some '+' then letters
  else if mark = some '-' || body = [] then body
  else body ++ (letters.rtakeWhile isBreak).take 1

/-- A literal block after its opening bar, as the value of an entry that is indented as far as
`parent`. Without a number in its header, its first line tells how far it is indented. -/
def block? (parent : Nat) (text : List Char) : Option (List Char × List Char) :=
  let (step, text) := match text with
    | '2' :: rest => (some 2, rest)
    | _ => (none, text)
  let (mark, text) := match text with
    | '-' :: rest => (some '-', rest)
    | '+' :: rest => (some '+', rest)
    | _ => (none, text)
  match text with
  | '\n' :: lines =>
    let indent := match step with
      | some step => parent + step
      | none => ((lines.dropWhile isBreak).takeWhile isSpace).length
    if indent ≤ parent then none
    else
      let (letters, later) := blockFrom indent 0 lines
      some (chomped mark letters, later)
  | _ => none

def plain? (text : List Char) : Option (List Char × List Char) :=
  let line := text.takeWhile (!isBreak ·)
  if allowsPlain line && !looksTyped (String.ofList line) then
    some (line, text.dropWhile (!isBreak ·))
  else none

def endLine? : List Char × List Char → Option (String × List Char)
  | (letters, '\n' :: later) => some (String.ofList letters, later)
  | _ => none

def scalar? (parent : Nat) : List Char → Option (String × List Char)
  | '\'' :: rest => (apostrophesFrom? false rest).bind endLine?
  | '"' :: rest => (quotedFrom? 0 rest).bind endLine?
  | '|' :: rest => (block? parent rest).map fun (letters, later) => (String.ofList letters, later)
  | text => (plain? text).bind endLine?

/-! ### Literal blocks -/

theorem blockFrom_indentation {indent : Nat} (column count : Nat) (total : column + count = indent)
    (text : List Char) :
    blockFrom indent column (List.replicate count ' ' ++ text) = blockFrom indent indent text := by
  induction count generalizing column with
  | zero =>
    rw [← total]
    rfl
  | succ count ih =>
    have short : column < indent := by omega
    rw [List.replicate_succ, List.cons_append, blockFrom, if_pos short]
    exact ih (column + 1) (by omega)

def columnAfter (indent : Nat) (afterBreak : Bool) : Nat := if afterBreak then 0 else indent

theorem blockFrom_letter (indent : Nat) (c : Char) (text : List Char) :
    blockFrom indent indent (c :: text) =
      let later := blockFrom indent (columnAfter indent (isBreak c)) text
      (c :: later.1, later.2) := by
  rw [blockFrom, if_neg (Nat.lt_irrefl indent)]
  rfl

theorem blockFrom_emptyLine {indent : Nat} (deep : 0 < indent) {c : Char}
    (broken : isBreak c = true) (text : List Char) :
    blockFrom indent 0 (c :: text) =
      let later := blockFrom indent 0 text
      (c :: later.1, later.2) := by
  have unspaced : isSpace c ≠ true := by
    intro space
    rw [beq_iff_eq.mp space] at broken
    exact absurd broken (by decide)
  rw [blockFrom, if_pos deep, if_neg unspaced, broken]
  rfl

theorem blockFrom_body {indent : Nat} (deep : 0 < indent) (letters text : List Char)
    (afterBreak : Bool) :
    blockFrom indent (columnAfter indent afterBreak)
        (blockBody indent afterBreak letters ++ text) =
      let later := blockFrom indent
        (columnAfter indent ((letters.getLast?.map isBreak).getD afterBreak)) text
      (letters ++ later.1, later.2) := by
  induction letters generalizing afterBreak with
  | nil => rfl
  | cons c letters ih =>
    have ended : ((c :: letters).getLast?.map isBreak).getD afterBreak =
        (letters.getLast?.map isBreak).getD (isBreak c) := by
      rw [List.getLast?_cons]
      cases letters.getLast? <;> rfl
    have next := ih (isBreak c)
    have letter := blockFrom_letter indent c (blockBody indent (isBreak c) letters ++ text)
    rw [next] at letter
    rw [ended, blockBody]
    cases broken : isBreak c with
    | true =>
      rw [broken] at next letter
      cases afterBreak with
      | false => exact letter
      | true =>
        have line := blockFrom_emptyLine deep broken (blockBody indent true letters ++ text)
        unfold columnAfter at next
        rw [if_pos rfl] at next
        rw [next] at line
        exact line
    | false =>
      rw [broken] at letter
      cases afterBreak with
      | false => exact letter
      | true =>
        rw [if_neg Bool.false_ne_true, if_pos rfl, List.append_assoc, List.cons_append]
        exact (blockFrom_indentation 0 indent (Nat.zero_add _) _).trans letter

def chompMark (letters : List Char) : Option Char :=
  match letters.reverse with
  | [] => some '-'
  | [last] => if isBreak last then some '+' else some '-'
  | last :: second :: _ =>
    if !isBreak last then some '-' else if isBreak second then some '+' else none

theorem blockHeader_eq (letters : List Char) :
    blockHeader letters = '|' :: ((if (letters.head?.any fun c => isSpace c || isBreak c) = true
      then ['2'] else []) ++ (chompMark letters).toList) := by
  unfold blockHeader chompMark
  generalize letters.reverse = backwards
  match backwards with
  | [] => rfl
  | [last] =>
    dsimp only
    cases isBreak last <;> rfl
  | last :: second :: _ =>
    dsimp only
    cases isBreak last <;> cases isBreak second <;> rfl

def closingBreak (letters : List Char) : List Char :=
  if letters.getLast?.any isBreak then [] else ['\n']

theorem chomped_chompMark (letters : List Char) :
    chomped (chompMark letters) (letters ++ closingBreak letters) = letters := by
  obtain ⟨backwards, rfl⟩ : ∃ backwards, letters = backwards.reverse :=
    ⟨letters.reverse, letters.reverse_reverse.symm⟩
  have line : isBreak '\n' = true := rfl
  unfold chompMark closingBreak chomped List.rdropWhile List.rtakeWhile
  rw [List.reverse_reverse, List.getLast?_reverse]
  cases backwards with
  | nil => rfl
  | cons last backwards =>
    cases ended : isBreak last with
    | false =>
      cases backwards <;> simp [ended, line]
    | true =>
      cases backwards with
      | nil => simp [ended]
      | cons second backwards =>
        cases again : isBreak second <;> simp [ended, again]

def blockIndent (parent : Nat) (numbered : Bool) (lines : List Char) : Nat :=
  if numbered then parent + 2 else ((lines.dropWhile isBreak).takeWhile isSpace).length

theorem block?_header (parent : Nat) (numbered : Bool) (letters lines : List Char) :
    block? parent ((if numbered = true then ['2'] else []) ++ (chompMark letters).toList ++
        '\n' :: lines) =
      let indent := blockIndent parent numbered lines
      if indent ≤ parent then none
      else
        let later := blockFrom indent 0 lines
        some (chomped (chompMark letters) later.1, later.2) := by
  have marks : chompMark letters = none ∨ chompMark letters = some '-' ∨
      chompMark letters = some '+' := by
    unfold chompMark
    split
    · exact .inr (.inl rfl)
    · split
      · exact .inr (.inr rfl)
      · exact .inr (.inl rfl)
    · split
      · exact .inr (.inl rfl)
      · split
        · exact .inr (.inr rfl)
        · exact .inl rfl
  rcases marks with mark | mark | mark <;> rw [mark] <;> cases numbered <;> rfl

theorem blockIndent_body {parent : Nat} {letters : List Char} (some : letters ≠ [])
    (text : List Char) :
    blockIndent parent (letters.head?.any fun c => isSpace c || isBreak c)
      (blockBody (parent + 2) true letters ++ text) = parent + 2 := by
  obtain ⟨c, letters, rfl⟩ := List.exists_cons_of_ne_nil some
  unfold blockIndent
  split
  case isTrue => rfl
  case isFalse plain =>
    obtain ⟨unspaced, unbroken⟩ : isSpace c = false ∧ isBreak c = false := by simpa using plain
    have first : isBreak ' ' ≠ true := by decide
    have stops : ¬isSpace c = true := by simp [unspaced]
    rw [blockBody, if_neg (by simp [unbroken]), if_pos rfl, List.append_assoc, List.cons_append,
      List.replicate_succ, List.cons_append, List.dropWhile_cons_of_neg first, ← List.cons_append,
      ← List.replicate_succ, List.takeWhile_append_of_pos, List.takeWhile_cons_of_neg stops,
      List.append_nil, List.length_replicate]
    intro d member
    rw [List.eq_of_mem_replicate member]
    rfl

theorem block?_body (parent : Nat) {letters rest : List Char} (some : letters ≠ [])
    (ends : blockFrom (parent + 2) 0 rest = ([], rest)) :
    block? parent ((blockHeader letters).tail ++ '\n' :: (blockBody (parent + 2) true letters ++
      (closingBreak letters ++ rest))) = Option.some (letters, rest) := by
  have deep : 0 < parent + 2 := Nat.succ_pos _
  have later : blockFrom (parent + 2) (columnAfter (parent + 2)
      ((letters.getLast?.map isBreak).getD true)) (closingBreak letters ++ rest) =
        (closingBreak letters, rest) := by
    obtain ⟨last, ended⟩ := Option.ne_none_iff_exists'.mp (List.getLast?_eq_none_iff.not.mpr some)
    unfold closingBreak
    rw [ended, Option.map_some, Option.getD_some, Option.any_some]
    cases isBreak last with
    | true => exact ends
    | false =>
      rw [if_neg Bool.false_ne_true, List.singleton_append]
      refine (blockFrom_letter (parent + 2) '\n' rest).trans ?_
      change ('\n' :: (blockFrom (parent + 2) 0 rest).1, (blockFrom (parent + 2) 0 rest).2) = _
      rw [ends]
  have lines := blockFrom_body deep letters (closingBreak letters ++ rest) true
  have start : columnAfter (parent + 2) true = 0 := rfl
  rw [later, start] at lines
  rw [blockHeader_eq, List.tail_cons, block?_header, blockIndent_body some]
  dsimp only
  rw [if_neg (by omega), lines]
  dsimp only
  rw [chomped_chompMark]

/-! ### Scalars -/

theorem style_cases (s : String) :
    (style s = .plain ∧ looksTyped s = false ∧ allowsPlain s.toList = true) ∨
    (style s = .apostrophes ∧ '\n' ∉ s.toList ∧ allowsApostrophes s.toList = true) ∨
    style s = .quotationMarks ∨
    (style s = .block ∧ '\n' ∈ s.toList) := by
  have quoted (unbroken : '\n' ∉ s.toList) :
      (if allowsApostrophes s.toList = true then Style.apostrophes else .quotationMarks) =
          .apostrophes ∧ '\n' ∉ s.toList ∧ allowsApostrophes s.toList = true ∨
        (if allowsApostrophes s.toList = true then Style.apostrophes else .quotationMarks) =
          .quotationMarks := by
    split
    case isTrue allowed => exact .inl ⟨rfl, unbroken, allowed⟩
    case isFalse => exact .inr rfl
  unfold style
  dsimp only
  split
  case isTrue lines =>
    split
    case isTrue => exact .inr (.inr (.inr ⟨rfl, by simpa using lines⟩))
    case isFalse => exact .inr (.inr (.inl rfl))
  case isFalse line =>
    have unbroken : '\n' ∉ s.toList := by simpa using line
    split
    case isTrue =>
      rcases quoted unbroken with apostrophes | marks
      · exact .inr (.inl apostrophes)
      · exact .inr (.inr (.inl marks))
    case isFalse untyped =>
      split
      case isTrue plain => exact .inl ⟨rfl, by simpa using untyped, plain⟩
      case isFalse =>
        rcases quoted unbroken with apostrophes | marks
        · exact .inr (.inl apostrophes)
        · exact .inr (.inr (.inl marks))

theorem plain_line {s : String} (untyped : looksTyped s = false)
    (plain : allowsPlain s.toList = true) :
    (∀ c ∈ s.toList, isBreak c = false) ∧
      ∃ first rest, s.toList = first :: rest ∧ startIndicators.contains first = false := by
  unfold allowsPlain at plain
  simp only [Bool.and_eq_true, Bool.not_eq_true'] at plain
  obtain ⟨⟨⟨⟨_, unbroken⟩, _⟩, start⟩, _⟩ := plain
  refine ⟨by simpa using unbroken, ?_⟩
  cases letters : s.toList with
  | nil =>
    have empty : s = "" := String.toList_eq_nil_iff.mp letters
    subst empty
    exact absurd untyped (by decide)
  | cons first rest =>
    refine ⟨first, rest, rfl, ?_⟩
    rw [letters] at start
    unfold startsWithIndicator at start
    split at start
    case h_1 same => cases same
    case h_2 => cases start
    case h_3 => cases start
    case h_4 same =>
      cases same
      simp only [Bool.or_eq_false_iff] at start
      exact start.1

theorem separator_of_break {letters : List Char} (unescaped : needsEscapes letters = false)
    (unbroken : '\n' ∉ letters) :
    ∀ c ∈ letters, isBreak c = true → c = '\u2028' ∨ c = '\u2029' := by
  intro c member broken
  unfold needsEscapes at unescaped
  simp only [Bool.or_eq_false_iff, List.any_eq_false, Bool.not_eq_true', Bool.not_eq_false]
    at unescaped
  have printable := unescaped.1 c member
  unfold isBreak at broken
  simp only [Bool.or_eq_true, beq_iff_eq] at broken
  rcases broken with (((rfl | rfl) | rfl) | rfl) | rfl
  · exact absurd printable (by decide)
  · exact absurd member unbroken
  · exact absurd printable (by decide)
  · exact .inl rfl
  · exact .inr rfl

theorem scalar?_plain {first : Char} (start : startIndicators.contains first = false)
    (parent : Nat) (text : List Char) :
    scalar? parent (first :: text) = (plain? (first :: text)).bind endLine? := by
  unfold scalar?
  split
  case h_1 same =>
    cases same
    cases start
  case h_2 same =>
    cases same
    cases start
  case h_3 same =>
    cases same
    cases start
  case h_4 => rfl

theorem plain?_line {s : String} (untyped : looksTyped s = false)
    (plain : allowsPlain s.toList = true) (rest : List Char) :
    plain? (s.toList ++ '\n' :: rest) = some (s.toList, '\n' :: rest) := by
  have line : ∀ c ∈ s.toList, (!isBreak c) = true := fun c member => by
    rw [(plain_line untyped plain).1 c member]
    rfl
  have taken : (s.toList ++ '\n' :: rest).takeWhile (!isBreak ·) = s.toList :=
    (List.takeWhile_append_of_pos line).trans (List.append_nil _)
  have dropped : (s.toList ++ '\n' :: rest).dropWhile (!isBreak ·) = '\n' :: rest :=
    List.dropWhile_append_of_pos line
  unfold plain?
  rw [taken, dropped]
  dsimp only
  rw [String.ofList_toList, untyped, plain]
  rfl

theorem toList_scalar (indent : Nat) (s : String) :
    (scalar indent s).toList =
      match style s with
      | .plain => s.toList ++ ['\n']
      | .apostrophes => '\'' :: (apostropheBody indent false s.toList ++ ['\'', '\n'])
      | .quotationMarks => '"' :: (s.toList.flatMap escaped ++ ['"', '\n'])
      | .block => blockHeader s.toList ++ '\n' ::
          (blockBody indent true s.toList ++ closingBreak s.toList) := by
  unfold scalar closingBreak
  cases style s with
  | block =>
    dsimp only
    split <;> simp
  | _ => simp

theorem scalar?_scalar (parent : Nat) (s : String) {rest : List Char}
    (ends : blockFrom (parent + 2) 0 rest = ([], rest)) :
    scalar? parent ((scalar (parent + 2) s).toList ++ rest) = some (s, rest) := by
  have closed : endLine? (s.toList, '\n' :: rest) = some (s, rest) := by
    rw [endLine?, String.ofList_toList]
  rw [toList_scalar]
  obtain ⟨style, untyped, plain⟩ | ⟨style, unbroken, allowed⟩ | style | ⟨style, lines⟩ :=
    style_cases s
  case inl =>
    obtain ⟨first, others, letters, start⟩ := (plain_line untyped plain).2
    have read := plain?_line untyped plain rest
    rw [style]
    dsimp only
    rw [List.append_assoc, List.singleton_append]
    rw [letters, List.cons_append] at read ⊢
    rw [scalar?_plain start, read, Option.bind_some, ← letters, closed]
  case inr.inl =>
    unfold allowsApostrophes at allowed
    simp only [Bool.and_eq_true, Bool.not_eq_true'] at allowed
    obtain ⟨unescaped, after⟩ := allowed
    have before : hasPair isSpace isBreak s.toList = false := by
      unfold needsEscapes at unescaped
      exact (Bool.or_eq_false_iff.mp unescaped).2
    have ended : ('\n' :: rest).head? ≠ some '\'' := by simp
    have unindented : false = true → s.toList.head?.any isSpace = false := nofun
    have read := apostrophesFrom?_body (parent + 2) (separator_of_break unescaped unbroken) before
      after unindented ended
    rw [style]
    dsimp only
    rw [List.cons_append, List.append_assoc, scalar?]
    change (apostrophesFrom? false (_ ++ '\'' :: '\n' :: rest)).bind endLine? = _
    rw [read, Option.bind_some, closed]
  case inr.inr.inl =>
    have read := quotedFrom?_escaped s.toList ('\n' :: rest)
    rw [style]
    dsimp only
    rw [List.cons_append, List.append_assoc, scalar?]
    change (quotedFrom? 0 (_ ++ '"' :: '\n' :: rest)).bind endLine? = _
    rw [read, Option.bind_some, closed]
  case inr.inr.inr =>
    have some : s.toList ≠ [] := List.ne_nil_of_mem lines
    have read := block?_body parent some ends
    rw [style]
    dsimp only
    rw [blockHeader_eq] at read ⊢
    rw [List.tail_cons, List.append_assoc] at read
    rw [List.append_assoc, List.cons_append, List.cons_append, List.append_assoc, List.append_assoc,
      scalar?, read, Option.map_some]
    dsimp only
    rw [String.ofList_toList]

end Yaml

namespace Manifest

open Yaml (scalar?)

def entry? (parent : Nat) (label : String) (text : List Char) : Option (String × List Char) :=
  if label.toList.isPrefixOf text then scalar? parent (text.drop label.toList.length) else none

/-- The manifest that a text is, if nothing is filled in. -/
def read? (text : String) : Option Manifest := do
  let (apiVersion, rest) ← entry? 0 "apiVersion: " text.toList
  let (kind, rest) ← entry? 0 "kind: " rest
  let (name, rest) ← entry? 2 "metadata:\n  name: " rest
  let (exampleId, rest) ← entry? 4 "  annotations:\n    meta.upbound.io/example-id: " rest
  if rest = "spec:\n  forProvider: \x7b\x7d\n".toList then
    some { apiVersion, kind, name, exampleId }
  else none

theorem entry?_scalar (parent : Nat) (label s : String) {rest : List Char}
    (ends : Yaml.blockFrom (parent + 2) 0 rest = ([], rest)) :
    entry? parent label (label.toList ++ ((Yaml.scalar (parent + 2) s).toList ++ rest)) =
      some (s, rest) := by
  unfold entry?
  rw [if_pos (by simp), List.drop_left, Yaml.scalar?_scalar parent s ends]

theorem toList_text (manifest : Manifest) :
    manifest.text.toList =
      "apiVersion: ".toList ++ ((Yaml.scalar 2 manifest.apiVersion).toList ++
      ("kind: ".toList ++ ((Yaml.scalar 2 manifest.kind).toList ++
      ("metadata:\n  name: ".toList ++ ((Yaml.scalar 4 manifest.name).toList ++
      ("  annotations:\n    meta.upbound.io/example-id: ".toList ++
        ((Yaml.scalar 6 manifest.exampleId).toList ++
      "spec:\n  forProvider: \x7b\x7d\n".toList))))))) := by
  have name : "metadata:\n  name: ".toList = "metadata:\n".toList ++ "  name: ".toList := rfl
  have exampleId : "  annotations:\n    meta.upbound.io/example-id: ".toList =
      "  annotations:\n".toList ++ "    meta.upbound.io/example-id: ".toList := rfl
  have spec : "spec:\n  forProvider: \x7b\x7d\n".toList =
      "spec:\n".toList ++ "  forProvider: \x7b\x7d\n".toList := rfl
  unfold text
  simp only [name, exampleId, spec, String.toList_append, List.append_assoc]

/-- A manifest is read back from its text. -/
theorem read?_text (manifest : Manifest) : read? manifest.text = some manifest := by
  -- no label is indented as far as a block before it
  have kind (rest : List Char) :
      Yaml.blockFrom 2 0 ("kind: ".toList ++ rest) = ([], "kind: ".toList ++ rest) := rfl
  have name (rest : List Char) : Yaml.blockFrom 2 0 ("metadata:\n  name: ".toList ++ rest) =
      ([], "metadata:\n  name: ".toList ++ rest) := rfl
  have exampleId (rest : List Char) :
      Yaml.blockFrom 4 0 ("  annotations:\n    meta.upbound.io/example-id: ".toList ++ rest) =
        ([], "  annotations:\n    meta.upbound.io/example-id: ".toList ++ rest) := rfl
  have spec : Yaml.blockFrom 6 0 "spec:\n  forProvider: \x7b\x7d\n".toList =
      ([], "spec:\n  forProvider: \x7b\x7d\n".toList) := rfl
  unfold read?
  dsimp only [Option.bind_eq_bind]
  rw [toList_text, entry?_scalar 0 _ _ (kind _), Option.bind_some, entry?_scalar 0 _ _ (name _),
    Option.bind_some, entry?_scalar 2 _ _ (exampleId _), Option.bind_some, entry?_scalar 4 _ _ spec,
    Option.bind_some]
  exact if_pos rfl

end Manifest

end ProviderGen
