import Mathlib.Data.List.Count
import ProviderGen.Proofs.ByteOrder
import ProviderGen.Text.Quoted

/-!
What a compiler of generated sources makes of a quoted text. It reads a string literal as bytes,
with escapes for single bytes and for code points. These escapes are not those of a quoted text:
both have the usual letters in common, but a code point in braces cannot be read, and a zero is
taken together with the two digits that have to follow it.
-/

namespace ProviderGen.Text

namespace Literal

/-! ### Reading -/

def digits : List (Char × Nat) := [
  ('0', 0), ('1', 1), ('2', 2), ('3', 3), ('4', 4), ('5', 5), ('6', 6), ('7', 7),
  ('8', 8), ('9', 9),
  ('a', 10), ('b', 11), ('c', 12), ('d', 13), ('e', 14), ('f', 15),
  ('A', 10), ('B', 11), ('C', 12), ('D', 13), ('E', 14), ('F', 15)]

def digit? (base : Nat) (c : Char) : Option Nat := (digits.lookup c).filter (· < base)

def number? (base : Nat) : (count value : Nat) → List Char → Option Nat
  | 0, value, _ => some value
  | _ + 1, _, [] => none
  | count + 1, value, c :: rest =>
    (digit? base c).bind fun digit => number? base count (base * value + digit) rest

def escapes : List (Char × UInt8) := [
  ('a', 0x07), ('b', 0x08), ('t', 0x09), ('n', 0x0A), ('v', 0x0B), ('f', 0x0C), ('r', 0x0D),
  ('"', 0x22), ('\\', 0x5C)]

def byte? (value : Nat) : Option (List UInt8) :=
  if value < 256 then some [UInt8.ofNat value] else none

def codePoint? (code : Nat) : Option (List UInt8) :=
  if code.isValidChar then some (String.utf8EncodeChar (Char.ofNat code)) else none

/-- The bytes that the next character or escape stands for, and of how many characters it is. Digits
after a backslash are three octal ones; a byte can have two hexadecimal digits as well, and a code
point has four or eight. Quotation marks, backslashes and line feeds do not stand for themselves,
and sources hold no zeros and byte order marks. -/
def element? : List Char → Option (List UInt8 × Nat)
  | '\\' :: letter :: rest =>
    match escapes.lookup letter with
    | some byte => some ([byte], 2)
    | none =>
      if letter = 'x' then ((number? 16 2 0 rest).bind byte?).map (·, 4)
      else if letter = 'u' then ((number? 16 4 0 rest).bind codePoint?).map (·, 6)
      else if letter = 'U' then ((number? 16 8 0 rest).bind codePoint?).map (·, 10)
      else ((number? 8 3 0 (letter :: rest)).bind byte?).map (·, 4)
  | c :: _ =>
    if c ∈ ['"', '\\', '\n', '\x00', '\uFEFF'] then none else some (String.utf8EncodeChar c, 1)
  | [] => none

/-- The bytes of what stands between quotation marks, of which the second ends the text. The first
`skip` characters belong to an escape that is read already. -/
def contentsFrom : Nat → List Char → Option (List UInt8)
  | _, [] => none
  | skip + 1, _ :: rest => contentsFrom skip rest
  | 0, c :: rest =>
    if c = '"' then (if rest = [] then some [] else none)
    else (element? (c :: rest)).bind fun (bytes, length) =>
      (contentsFrom (length - 1) rest).map (bytes ++ ·)

def value? (text : String) : Option (List UInt8) :=
  match text.toList with
  | '"' :: rest => contentsFrom 0 rest
  | _ => none

/-! ### What quoted characters are read as -/

/-- A character that is shown or has a letter of its own after the backslash. -/
def Readable (c : Char) : Prop := c ∈ ['\t', '\r', '\n'] ∨ isShown c = true

instance (c : Char) : Decidable (Readable c) := inferInstanceAs (Decidable (_ ∨ _))

def printed (letters : List Char) : List Char := letters.flatMap quotedChar ++ ['"']

theorem value?_quoted (s : String) : value? (quoted s) = contentsFrom 0 (printed s.toList) := by
  unfold value? quoted
  rw [String.toList_ofList]
  rfl

theorem printed_cons (c : Char) (rest : List Char) :
    printed (c :: rest) = quotedChar c ++ printed rest := by
  unfold printed
  rw [List.flatMap_cons, List.append_assoc]

theorem contentsFrom_of_element {c : Char} {rest : List Char} {bytes : List UInt8} {length : Nat}
    (unquoted : c ≠ '"') (element : element? (c :: rest) = some (bytes, length)) :
    contentsFrom 0 (c :: rest) = (contentsFrom (length - 1) rest).map (bytes ++ ·) := by
  rw [contentsFrom, if_neg unquoted, element]
  rfl

theorem quotedChar_cases (c : Char) :
    (Readable c ∧ c ∉ ['"', '\\', '\n', '\x00', '\uFEFF'] ∧ quotedChar c = [c]) ∨
    (Readable c ∧ ∃ letter byte, quotedChar c = ['\\', letter] ∧
      escapes.lookup letter = some byte ∧ String.utf8EncodeChar c = [byte]) ∨
    (c = '\x00' ∧ quotedChar c = ['\\', '0']) ∨
    (¬Readable c ∧ c ≠ '\x00' ∧ ∃ code, quotedChar c = '\\' :: 'u' :: '\x7b' :: code) := by
  unfold quotedChar
  split
  case h_1 => exact .inr (.inr (.inl ⟨rfl, rfl⟩))
  case h_2 => exact .inr (.inl ⟨by decide, 't', 0x09, rfl, rfl, rfl⟩)
  case h_3 => exact .inr (.inl ⟨by decide, 'r', 0x0D, rfl, rfl, rfl⟩)
  case h_4 => exact .inr (.inl ⟨by decide, 'n', 0x0A, rfl, rfl, rfl⟩)
  case h_5 => exact .inr (.inl ⟨by decide, '\\', 0x5C, rfl, rfl, rfl⟩)
  case h_6 => exact .inr (.inl ⟨by decide, '"', 0x22, rfl, rfl, rfl⟩)
  case h_7 zero tab ret feed slash quote =>
    split
    case isTrue shown =>
      have unmarked : c ≠ '\uFEFF' := by
        rintro rfl
        exact absurd shown (by decide +kernel)
      refine .inl ⟨.inr shown, ?_, rfl⟩
      simp only [List.mem_cons, List.not_mem_nil, or_false, not_or]
      exact ⟨quote, slash, feed, zero, unmarked⟩
    case isFalse hidden =>
      refine .inr (.inr (.inr ⟨?_, zero, Nat.toDigits 16 c.toNat ++ ['\x7d'], rfl⟩))
      rintro (letter | shown)
      · simp only [List.mem_cons, List.not_mem_nil, or_false] at letter
        exact letter.elim tab fun other => other.elim ret feed
      · exact hidden shown

variable {c : Char} {rest : List Char}

theorem element?_plain (plain : c ∉ ['"', '\\', '\n', '\x00', '\uFEFF']) (rest : List Char) :
    element? (c :: rest) = some (String.utf8EncodeChar c, 1) := by
  unfold element?
  split
  case h_1 start =>
    cases start
    exact absurd plain (by decide)
  case h_2 start =>
    cases start
    rw [if_neg plain]
  case h_3 start => cases start

theorem contentsFrom_readable (readable : Readable c) :
    contentsFrom 0 (printed (c :: rest)) =
      (contentsFrom 0 (printed rest)).map (String.utf8EncodeChar c ++ ·) := by
  rw [printed_cons]
  obtain ⟨_, plain, quoted⟩ | ⟨_, letter, byte, quoted, escape, encoded⟩ | ⟨rfl, _⟩ |
      ⟨hidden, _⟩ := quotedChar_cases c
  · have unquoted : c ≠ '"' := fun same => plain (same ▸ List.mem_cons_self)
    rw [quoted, List.singleton_append,
      contentsFrom_of_element unquoted (element?_plain plain (printed rest))]
  · have element : element? ('\\' :: letter :: printed rest) =
        some (String.utf8EncodeChar c, 2) := by
      rw [element?, escape, encoded]
    have read := contentsFrom_of_element (by decide) element
    rw [quoted]
    exact read
  · exact absurd readable (by decide)
  · exact absurd readable hidden

theorem contentsFrom_hidden (hidden : ¬Readable c) (nonzero : c ≠ '\x00') :
    contentsFrom 0 (printed (c :: rest)) = none := by
  rw [printed_cons]
  obtain ⟨readable, _⟩ | ⟨readable, _⟩ | ⟨zero, _⟩ | ⟨_, _, code, quoted⟩ := quotedChar_cases c
  · exact absurd readable hidden
  · exact absurd readable hidden
  · exact absurd zero nonzero
  · rw [quoted]
    rfl

/-! ### Zeros -/

theorem digit?_eq_some {base value : Nat} (digit : digit? base c = some value) :
    (c, value) ∈ digits ∧ value < base := by
  obtain ⟨found, small⟩ := Option.filter_eq_some_iff.mp digit
  obtain ⟨before, after, cut, _⟩ := List.lookup_eq_some_iff.mp found
  exact ⟨cut ▸ List.mem_append_right before List.mem_cons_self, of_decide_eq_true small⟩

theorem quotedChar_of_digit {value : Nat} (digit : digit? 8 c = some value) :
    quotedChar c = [c] := by
  have table : ∀ entry ∈ digits, quotedChar entry.1 = [entry.1] := by decide
  exact table _ (digit?_eq_some digit).1

theorem number?_printed (count value : Nat) (letters : List Char) :
    number? 8 count value (printed letters) = number? 8 count value letters := by
  induction count generalizing value letters with
  | zero => cases letters <;> rfl
  | succ count ih =>
    cases letters with
    | nil => rfl
    | cons c rest =>
      rw [printed_cons, number?]
      cases digit : digit? 8 c with
      | some next =>
        rw [quotedChar_of_digit digit, List.singleton_append, number?, digit]
        exact ih _ rest
      | none =>
        -- a character that is no digit is quoted by itself or starts with a backslash
        obtain ⟨_, _, quoted⟩ | ⟨_, letter, _, quoted, _⟩ | ⟨_, quoted⟩ | ⟨_, _, code, quoted⟩ :=
          quotedChar_cases c
        · rw [quoted, List.singleton_append, number?, digit]
          rfl
        all_goals
          rw [quoted]
          rfl

theorem element?_zero (rest : List Char) :
    element? ('\\' :: '0' :: printed rest) = ((number? 8 2 0 rest).bind byte?).map (·, 4) := by
  have number : number? 8 3 0 ('0' :: printed rest) = number? 8 2 0 rest :=
    number?_printed 2 0 rest
  rw [← number]
  rfl

/-- After a zero, two digits are read with it. -/
theorem contentsFrom_zero_digits {first second : Char} {high low : Nat}
    (firstDigit : digit? 8 first = some high) (secondDigit : digit? 8 second = some low) :
    contentsFrom 0 (printed ('\x00' :: first :: second :: rest)) =
      (contentsFrom 0 (printed rest)).map ([UInt8.ofNat (8 * high + low)] ++ ·) := by
  have number : number? 8 2 0 (first :: second :: rest) = some (8 * high + low) := by
    rw [number?, firstDigit, Option.bind_some, number?, secondDigit, Option.bind_some, number?,
      Nat.mul_zero, Nat.zero_add]
  have small : 8 * high + low < 256 := by
    have highBound := (digit?_eq_some firstDigit).2
    have lowBound := (digit?_eq_some secondDigit).2
    omega
  have element : element? ('\\' :: '0' :: printed (first :: second :: rest)) =
      some ([UInt8.ofNat (8 * high + low)], 4) := by
    rw [element?_zero, number, Option.bind_some, byte?, if_pos small, Option.map_some]
  have read := contentsFrom_of_element (by decide) element
  rw [printed_cons first, printed_cons second, quotedChar_of_digit firstDigit,
    quotedChar_of_digit secondDigit] at read
  rw [printed_cons, printed_cons first, printed_cons second, quotedChar_of_digit firstDigit,
    quotedChar_of_digit secondDigit]
  exact read

theorem contentsFrom_zero_of_none (none : number? 8 2 0 rest = none) :
    contentsFrom 0 (printed ('\x00' :: rest)) = Option.none := by
  have element := element?_zero rest
  rw [none, Option.bind_none, Option.map_none] at element
  change (element? ('\\' :: '0' :: printed rest)).bind _ = Option.none
  rw [element, Option.bind_none]

theorem digits_of_number? {value : Nat} (number : number? 8 2 0 rest = some value) :
    ∃ first second later high low, rest = first :: second :: later ∧
      digit? 8 first = some high ∧ digit? 8 second = some low := by
  cases rest with
  | nil => cases number
  | cons first rest =>
    rw [number?, Option.bind_eq_some_iff] at number
    obtain ⟨high, firstDigit, number⟩ := number
    cases rest with
    | nil => cases number
    | cons second later =>
      rw [number?, Option.bind_eq_some_iff] at number
      obtain ⟨low, secondDigit, _⟩ := number
      exact ⟨first, second, later, high, low, rfl, firstDigit, secondDigit⟩

/-! ### Quoted texts -/

/-- The bytes that the characters of a quoted text are read as. -/
inductive Denotes : List Char → List UInt8 → Prop
  | nil : Denotes [] []
  | readable {c : Char} {rest : List Char} {bytes : List UInt8} (readable : Readable c)
      (later : Denotes rest bytes) : Denotes (c :: rest) (String.utf8EncodeChar c ++ bytes)
  | zero {first second : Char} {high low : Nat} {rest : List Char} {bytes : List UInt8}
      (firstDigit : digit? 8 first = some high) (secondDigit : digit? 8 second = some low)
      (later : Denotes rest bytes) :
      Denotes ('\x00' :: first :: second :: rest) ([UInt8.ofNat (8 * high + low)] ++ bytes)

theorem contentsFrom_eq_some_iff {letters : List Char} {bytes : List UInt8} :
    contentsFrom 0 (printed letters) = some bytes ↔ Denotes letters bytes := by
  constructor
  · intro read
    induction length : letters.length using Nat.strongRecOn generalizing letters bytes with
    | ind n ih =>
      subst length
      cases letters with
      | nil =>
        cases read
        exact .nil
      | cons c rest =>
        by_cases readable : Readable c
        · rw [contentsFrom_readable readable, Option.map_eq_some_iff] at read
          obtain ⟨later, read, rfl⟩ := read
          exact .readable readable (ih _ (Nat.lt_succ_self _) read rfl)
        · by_cases zero : c = '\x00'
          · subst zero
            cases number : number? 8 2 0 rest with
            | none =>
              rw [contentsFrom_zero_of_none number] at read
              cases read
            | some value =>
              obtain ⟨first, second, later, high, low, rfl, firstDigit, secondDigit⟩ :=
                digits_of_number? number
              rw [contentsFrom_zero_digits firstDigit secondDigit, Option.map_eq_some_iff] at read
              obtain ⟨bytes, read, rfl⟩ := read
              refine .zero firstDigit secondDigit (ih later.length ?_ read rfl)
              simp only [List.length_cons]
              omega
          · rw [contentsFrom_hidden readable zero] at read
            cases read
  · intro denotes
    induction denotes with
    | nil => rfl
    | readable readable _ ih => rw [contentsFrom_readable readable, ih, Option.map_some]
    | zero firstDigit secondDigit _ ih =>
      rw [contentsFrom_zero_digits firstDigit secondDigit, ih, Option.map_some]

def octalDigits : List Char := ['0', '1', '2', '3', '4', '5', '6', '7']

theorem mem_octalDigits_iff : c ∈ octalDigits ↔ ∃ value, digit? 8 c = some value := by
  constructor
  · intro member
    have table : octalDigits.all (fun c => (digit? 8 c).isSome) = true := by decide
    exact Option.isSome_iff_exists.mp (List.all_eq_true.mp table c member)
  · rintro ⟨value, digit⟩
    have table : ∀ entry ∈ digits, entry.2 < 8 → entry.1 ∈ octalDigits := by decide
    obtain ⟨listed, small⟩ := digit?_eq_some digit
    exact table _ listed small

theorem Denotes.of_readable {letters : List Char} (readable : ∀ c ∈ letters, Readable c) :
    Denotes letters (letters.flatMap String.utf8EncodeChar) := by
  induction letters with
  | nil => exact .nil
  | cons c rest ih =>
    obtain ⟨first, later⟩ := List.forall_mem_cons.mp readable
    exact .readable first (ih later)

section

variable {letters : List Char} {bytes : List UInt8}

theorem Denotes.length_eq (denotes : Denotes letters bytes) :
    bytes.length + 2 * letters.count '\x00' =
      (letters.flatMap String.utf8EncodeChar).length := by
  have digit (c : Char) (value : Nat) (digit : digit? 8 c = some value) :
      c ≠ '\x00' ∧ (String.utf8EncodeChar c).length = 1 := by
    have table : ∀ entry ∈ digits, entry.1 ≠ '\x00' ∧
        (String.utf8EncodeChar entry.1).length = 1 := by decide
    exact table _ (digit?_eq_some digit).1
  induction denotes with
  | nil => rfl
  | @readable c rest bytes readable _ ih =>
    have nonzero : c ≠ '\x00' := by
      rintro rfl
      exact absurd readable (by decide)
    rw [List.flatMap_cons, List.length_append, List.length_append,
      List.count_cons_of_ne nonzero, Nat.add_assoc, ih]
  | zero firstDigit secondDigit _ ih =>
    obtain ⟨firstOther, firstByte⟩ := digit _ _ firstDigit
    obtain ⟨secondOther, secondByte⟩ := digit _ _ secondDigit
    have zeroByte : (String.utf8EncodeChar '\x00').length = 1 := by decide
    simp only [List.flatMap_cons, List.length_append, List.count_cons_self,
      List.count_cons_of_ne firstOther, List.count_cons_of_ne secondOther, firstByte, secondByte,
      zeroByte, List.length_cons, List.length_nil, ← ih]
    omega

theorem Denotes.readable_of_mem (denotes : Denotes letters bytes) (nonzero : '\x00' ∉ letters) :
    ∀ c ∈ letters, Readable c := by
  induction denotes with
  | nil => exact nofun
  | readable readable _ ih =>
    exact List.forall_mem_cons.mpr
      ⟨readable, ih fun member => nonzero (List.mem_cons_of_mem _ member)⟩
  | zero => exact absurd List.mem_cons_self nonzero

theorem denotes_own_iff :
    Denotes letters (letters.flatMap String.utf8EncodeChar) ↔ ∀ c ∈ letters, Readable c := by
  refine ⟨fun denotes => ?_, Denotes.of_readable⟩
  have lengths := denotes.length_eq
  apply denotes.readable_of_mem
  apply List.count_eq_zero.mp
  omega

theorem Denotes.readable_or_zero (denotes : Denotes letters bytes) {c : Char} {after : List Char}
    (ending : c :: after <:+ letters) : Readable c ∨
      c = '\x00' ∧ ∃ first ∈ octalDigits, ∃ second ∈ octalDigits, ∃ later,
        after = first :: second :: later := by
  have readableDigit {c : Char} {value : Nat} (digit : digit? 8 c = some value) : Readable c := by
    have table : ∀ entry ∈ digits, Readable entry.1 := by decide
    exact table _ (digit?_eq_some digit).1
  induction denotes with
  | nil => exact absurd (List.suffix_nil.mp ending) (List.cons_ne_nil c after)
  | readable readable _ ih =>
    rcases List.suffix_cons_iff.mp ending with same | later
    · cases same
      exact .inl readable
    · exact ih later
  | @zero first second high low rest bytes firstDigit secondDigit _ ih =>
    rcases List.suffix_cons_iff.mp ending with same | ending
    · cases same
      exact .inr ⟨rfl, first, mem_octalDigits_iff.mpr ⟨high, firstDigit⟩, second,
        mem_octalDigits_iff.mpr ⟨low, secondDigit⟩, rest, rfl⟩
    rcases List.suffix_cons_iff.mp ending with same | ending
    · cases same
      exact .inl (readableDigit firstDigit)
    rcases List.suffix_cons_iff.mp ending with same | later
    · cases same
      exact .inl (readableDigit secondDigit)
    · exact ih later

theorem exists_denotes_iff :
    (∃ bytes, Denotes letters bytes) ↔ ∀ c after, c :: after <:+ letters → Readable c ∨
      c = '\x00' ∧ ∃ first ∈ octalDigits, ∃ second ∈ octalDigits, ∃ later,
        after = first :: second :: later := by
  constructor
  · rintro ⟨bytes, denotes⟩ c after ending
    exact denotes.readable_or_zero ending
  · intro accepted
    induction length : letters.length using Nat.strongRecOn generalizing letters with
    | ind n ih =>
      subst length
      cases letters with
      | nil => exact ⟨[], .nil⟩
      | cons c rest =>
        obtain readable | ⟨rfl, first, firstOctal, second, secondOctal, later, rfl⟩ :=
          accepted c rest List.suffix_rfl
        · obtain ⟨bytes, denotes⟩ := ih rest.length (Nat.lt_succ_self _)
            (fun d after ending => accepted d after (ending.trans (List.suffix_cons c rest))) rfl
          exact ⟨_, .readable readable denotes⟩
        · obtain ⟨high, firstDigit⟩ := mem_octalDigits_iff.mp firstOctal
          obtain ⟨low, secondDigit⟩ := mem_octalDigits_iff.mp secondOctal
          have within : later <:+ '\x00' :: first :: second :: later :=
            List.suffix_append ['\x00', first, second] later
          obtain ⟨bytes, denotes⟩ := ih later.length (by simp only [List.length_cons]; omega)
            (fun d after ending => accepted d after (ending.trans within)) rfl
          exact ⟨_, .zero firstDigit secondDigit denotes⟩

end

theorem value?_quoted_eq_bytes_iff (s : String) :
    value? (quoted s) = some (bytes s) ↔ ∀ c ∈ s.toList, Readable c := by
  rw [value?_quoted, contentsFrom_eq_some_iff, bytes_eq_flatMap, denotes_own_iff]

/-- A quoted text is a string literal exactly if all its characters are readable but for zeros that
are followed by two octal digits. -/
theorem isSome_value?_quoted_iff (s : String) :
    (value? (quoted s)).isSome = true ↔ ∀ c after, c :: after <:+ s.toList → Readable c ∨
      c = '\x00' ∧ ∃ first ∈ octalDigits, ∃ second ∈ octalDigits, ∃ later,
        after = first :: second :: later := by
  rw [← exists_denotes_iff, value?_quoted, Option.isSome_iff_exists]
  exact exists_congr fun _ => contentsFrom_eq_some_iff

end Literal

end ProviderGen.Text
