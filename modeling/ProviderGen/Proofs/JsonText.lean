import ProviderGen.Json.Printer

/-!
Printed documents can be told apart. A text that begins with a printed document tells which one it
is and where it ends, so two documents with one text are the same document.
-/

namespace ProviderGen.Json

variable {rest other : List Char}

/-! ### Quoted texts -/

def hexValue (digit : Char) : Nat :=
  if digit.isDigit then digit.toNat - '0'.toNat else digit.toNat - 'a'.toNat + 10

/-- The character that a quoted text goes on with, and what comes after it. There is none at the
closing quotation mark. -/
def unescape? : List Char → Option (Char × List Char)
  | [] => none
  | '"' :: _ => none
  | '\\' :: 'b' :: rest => some ('\x08', rest)
  | '\\' :: 'f' :: rest => some ('\x0c', rest)
  | '\\' :: 'n' :: rest => some ('\n', rest)
  | '\\' :: 'r' :: rest => some ('\r', rest)
  | '\\' :: 't' :: rest => some ('\t', rest)
  | '\\' :: 'u' :: _ :: _ :: high :: low :: rest =>
    some (Char.ofNat (16 * hexValue high + hexValue low), rest)
  | '\\' :: c :: rest => some (c, rest)
  | c :: rest => some (c, rest)

theorem hexValue_hexDigit : ∀ n < 16, hexValue (hexDigit n) = n := by decide

theorem unescape?_escaped (c : Char) (rest : List Char) :
    unescape? (escaped c ++ rest) = some (c, rest) := by
  unfold escaped
  split
  case h_8 quote slash _ _ _ _ _ =>
    split
    case isTrue control =>
      have high : hexValue (hexDigit (c.toNat / 16)) = c.toNat / 16 :=
        hexValue_hexDigit _ (by omega)
      have low : hexValue (hexDigit (c.toNat % 16)) = c.toNat % 16 :=
        hexValue_hexDigit _ (by omega)
      change some (Char.ofNat (16 * hexValue (hexDigit (c.toNat / 16)) +
        hexValue (hexDigit (c.toNat % 16))), rest) = _
      rw [high, low, Nat.div_add_mod, Char.ofNat_toNat]
    case isFalse =>
      rw [List.singleton_append]
      unfold unescape?
      split <;> simp_all
  all_goals rfl

/-- A quoted text ends at the first quotation mark that is not escaped. -/
theorem escaped_letters_inj {letters others : List Char}
    (same : letters.flatMap escaped ++ '"' :: rest = others.flatMap escaped ++ '"' :: other) :
    letters = others ∧ rest = other := by
  induction letters generalizing others with
  | nil =>
    cases others with
    | nil => exact ⟨rfl, List.tail_eq_of_cons_eq same⟩
    | cons d more =>
      have read := congrArg unescape? same
      rw [List.flatMap_cons, List.append_assoc, unescape?_escaped] at read
      cases read
  | cons c letters ih =>
    have read := congrArg unescape? same
    rw [List.flatMap_cons, List.append_assoc, unescape?_escaped] at read
    cases others with
    | nil => cases read
    | cons d more =>
      rw [List.flatMap_cons, List.append_assoc, unescape?_escaped] at read
      obtain ⟨rfl, later⟩ := Prod.mk.inj (Option.some.inj read)
      obtain ⟨rfl, ended⟩ := ih later
      exact ⟨rfl, ended⟩

theorem quoted_append_inj {s t : String} (same : quoted s ++ rest = quoted t ++ other) :
    s = t ∧ rest = other := by
  unfold quoted at same
  simp only [List.cons_append, List.append_assoc, List.nil_append] at same
  obtain ⟨letters, ended⟩ := escaped_letters_inj (List.tail_eq_of_cons_eq same)
  exact ⟨String.toList_injective letters, ended⟩

/-! ### Numbers -/

def EndsNumber (rest : List Char) : Prop := rest.head?.any Char.isDigit = false

theorem takeWhile_digits (n : Nat) (ends : EndsNumber rest) :
    (Nat.toDigits 10 n ++ rest).takeWhile Char.isDigit = Nat.toDigits 10 n := by
  have digits : ∀ c ∈ Nat.toDigits 10 n, c.isDigit = true :=
    fun _ => Nat.isDigit_of_mem_toDigits (by decide) (by decide)
  rw [List.takeWhile_append_of_pos digits]
  cases rest with
  | nil => exact List.append_nil _
  | cons c later =>
    have stops : ¬c.isDigit = true := by simpa [EndsNumber] using ends
    rw [List.takeWhile_cons_of_neg stops, List.append_nil]

theorem digits_append_inj {m n : Nat} (ends : EndsNumber rest) (otherEnds : EndsNumber other)
    (same : Nat.toDigits 10 m ++ rest = Nat.toDigits 10 n ++ other) : m = n ∧ rest = other := by
  have digits := congrArg (List.takeWhile Char.isDigit) same
  rw [takeWhile_digits m ends, takeWhile_digits n otherEnds] at digits
  have number := congrArg (Nat.ofDigitChars 10 · 0) digits
  rw [Nat.ofDigitChars_ten_toDigits, Nat.ofDigitChars_ten_toDigits] at number
  subst number
  exact ⟨rfl, List.append_cancel_left same⟩

/-! ### Documents -/

def opening : Json → Char
  | .number _ => '0'
  | .string _ => '"'
  | .array _ => '['
  | .object _ => '\x7b'

theorem head?_print_append (level : Nat) (document : Json) (rest : List Char) :
    (print level document ++ rest).head?.map (fun c => if c.isDigit then '0' else c) =
      some document.opening := by
  cases document with
  | number n =>
    have some : Nat.toDigits 10 n ≠ [] := Nat.toDigits_ne_nil
    obtain ⟨c, digits, spelled⟩ := List.exists_cons_of_ne_nil some
    have digit : c.isDigit = true :=
      Nat.isDigit_of_mem_toDigits (by decide) (by decide) (spelled ▸ List.mem_cons_self)
    rw [print, spelled, List.cons_append, List.head?_cons, Option.map_some, if_pos digit]
    rfl
  | string s => rfl
  | array items => cases items <;> rfl
  | object members => cases members <;> rfl

theorem opening_eq {level : Nat} {first second : Json}
    (same : print level first ++ rest = print level second ++ other) :
    first.opening = second.opening := by
  apply Option.some.inj
  rw [← head?_print_append level first rest, same, head?_print_append]

theorem endsNumber_printItems (level : Nat) (items : List Json) (rest : List Char) :
    EndsNumber (printItems level items ++ rest) := by
  cases items <;> rfl

theorem endsNumber_printMembers (level : Nat) (members : List (String × Json))
    (rest : List Char) : EndsNumber (printMembers level members ++ rest) := by
  cases members <;> rfl

theorem print_array_inj {level : Nat} {items others : List Json}
    (same : print level (.array items) ++ rest = print level (.array others) ++ other) :
    items = [] ∧ others = [] ∧ rest = other ∨
      printItems level items ++ rest = printItems level others ++ other := by
  cases items with
  | nil =>
    cases others with
    | nil => exact .inl ⟨rfl, rfl, List.append_cancel_left same⟩
    | cons => simp [print, newLine] at same
  | cons =>
    cases others with
    | nil => simp [print, newLine] at same
    | cons => exact .inr (by simpa [print, printItems] using same)

theorem print_object_inj {level : Nat} {members others : List (String × Json)}
    (same : print level (.object members) ++ rest = print level (.object others) ++ other) :
    members = [] ∧ others = [] ∧ rest = other ∨
      printMembers level members ++ rest = printMembers level others ++ other := by
  cases members with
  | nil =>
    cases others with
    | nil => exact .inl ⟨rfl, rfl, List.append_cancel_left same⟩
    | cons => simp [print, newLine] at same
  | cons =>
    cases others with
    | nil => simp [print, newLine] at same
    | cons => exact .inr (by simpa [print, printMembers] using same)

mutual

/-- A printed document is told from every other that a text could begin with. -/
theorem print_append_inj {level : Nat} (first second : Json) {rest other : List Char}
    (ends : EndsNumber rest) (otherEnds : EndsNumber other)
    (same : print level first ++ rest = print level second ++ other) :
    first = second ∧ rest = other := by
  have kinds := opening_eq same
  match first, second with
  | .number m, .number n =>
    obtain ⟨rfl, ended⟩ := digits_append_inj ends otherEnds same
    exact ⟨rfl, ended⟩
  | .string s, .string t =>
    obtain ⟨rfl, ended⟩ := quoted_append_inj same
    exact ⟨rfl, ended⟩
  | .array items, .array others =>
    rcases print_array_inj same with ⟨rfl, rfl, ended⟩ | listed
    · exact ⟨rfl, ended⟩
    · obtain ⟨rfl, ended⟩ := printItems_append_inj items others listed
      exact ⟨rfl, ended⟩
  | .object members, .object others =>
    rcases print_object_inj same with ⟨rfl, rfl, ended⟩ | listed
    · exact ⟨rfl, ended⟩
    · obtain ⟨rfl, ended⟩ := printMembers_append_inj members others listed
      exact ⟨rfl, ended⟩

theorem printItems_append_inj {level : Nat} (items others : List Json) {rest other : List Char}
    (same : printItems level items ++ rest = printItems level others ++ other) :
    items = others ∧ rest = other := by
  match items, others with
  | [], [] => exact ⟨rfl, List.append_cancel_left same⟩
  | [], _ :: _ => simp [printItems, newLine] at same
  | _ :: _, [] => simp [printItems, newLine] at same
  | item :: items, another :: others =>
    simp only [printItems, List.cons_append, List.append_assoc, List.cons.injEq, true_and,
      List.append_cancel_left_eq] at same
    obtain ⟨rfl, later⟩ := print_append_inj item another (endsNumber_printItems level items rest)
      (endsNumber_printItems level others other) same
    obtain ⟨rfl, ended⟩ := printItems_append_inj items others later
    exact ⟨rfl, ended⟩

theorem printMembers_append_inj {level : Nat} (members others : List (String × Json))
    {rest other : List Char}
    (same : printMembers level members ++ rest = printMembers level others ++ other) :
    members = others ∧ rest = other := by
  match members, others with
  | [], [] => exact ⟨rfl, List.append_cancel_left same⟩
  | [], _ :: _ => simp [printMembers, newLine] at same
  | _ :: _, [] => simp [printMembers, newLine] at same
  | (name, value) :: members, (label, another) :: others =>
    simp only [printMembers, List.cons_append, List.nil_append, List.append_assoc,
      List.cons.injEq, true_and, List.append_cancel_left_eq] at same
    obtain ⟨rfl, after⟩ := quoted_append_inj same
    simp only [List.cons.injEq, true_and] at after
    obtain ⟨rfl, later⟩ := print_append_inj value another
      (endsNumber_printMembers level members rest) (endsNumber_printMembers level others other)
      after
    obtain ⟨rfl, ended⟩ := printMembers_append_inj members others later
    exact ⟨rfl, ended⟩

end

theorem text_injective : Function.Injective text := by
  intro first second same
  have letters : print 0 first ++ [] = print 0 second ++ [] := by
    rw [List.append_nil, List.append_nil]
    exact String.ofList_injective same
  have ends : EndsNumber [] := rfl
  exact (print_append_inj first second ends ends letters).1

end ProviderGen.Json
