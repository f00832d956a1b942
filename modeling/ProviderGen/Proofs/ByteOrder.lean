import Mathlib.Tactic.ByContra
import Mathlib.Tactic.SplitIfs
import ProviderGen.Text.Utf8

/-!
The order of texts is the order of their bytes in UTF-8. Of two characters the smaller one has the
smaller encoding, whatever follows: its first byte is smaller, or the first bytes are the same and
the digits of the codes decide.
-/

namespace ProviderGen.Text

theorem bytes_eq_flatMap (s : String) : bytes s = s.toList.flatMap String.utf8EncodeChar := by
  have encoded : s.toByteArray = s.toList.utf8Encode := by
    rw [← String.toByteArray_ofList, String.ofList_toList]
  unfold bytes
  rw [String.toUTF8_eq_toByteArray, encoded, List.utf8Encode, List.data_toByteArray,
    List.toList_toArray]

def withoutLast : Nat → Nat → Nat
  | 0, code => code
  | count + 1, code => withoutLast count code / 64

def continuation : Nat → Nat → List UInt8
  | 0, _ => []
  | count + 1, code => UInt8.ofNat (withoutLast count code % 64 + 128) :: continuation count code

def continued (code : Nat) : Nat :=
  if code ≤ 0x7f then 0 else if code ≤ 0x7ff then 1 else if code ≤ 0xffff then 2 else 3

def leading (code : Nat) : Nat :=
  if code ≤ 0x7f then code
  else if code ≤ 0x7ff then withoutLast 1 code + 0xc0
  else if code ≤ 0xffff then withoutLast 2 code + 0xe0
  else withoutLast 3 code + 0xf0

theorem code_lt (c : Char) : c.toNat < 0x110000 := by
  rcases c.valid with below | above
  · exact Nat.lt_trans below (by decide)
  · exact above.2

theorem utf8EncodeChar_eq (c : Char) :
    String.utf8EncodeChar c =
      UInt8.ofNat (leading c.toNat) :: continuation (continued c.toNat) c.toNat := by
  have bound := code_lt c
  unfold String.utf8EncodeChar leading continued
  unfold Char.toNat at bound ⊢
  generalize c.val.toNat = code at bound ⊢
  dsimp only
  split_ifs
  all_goals simp only [continuation, withoutLast, Nat.div_div_eq_div_mul, Nat.reduceMul]
  all_goals congr 2
  all_goals omega

theorem cons_lt_of_byte {m n : Nat} (bound : n < 256) (less : m < n) (s t : List UInt8) :
    UInt8.ofNat m :: s < UInt8.ofNat n :: t := by
  refine List.cons_lt_cons_iff.mpr (.inl ?_)
  rw [UInt8.lt_iff_toNat_lt, UInt8.toNat_ofNat', UInt8.toNat_ofNat']
  omega

theorem withoutLast_le {code other : Nat} (less : code < other) (count : Nat) :
    withoutLast count code ≤ withoutLast count other := by
  induction count with
  | zero => exact Nat.le_of_lt less
  | succ count ih => exact Nat.div_le_div_right ih

theorem continuation_lt {count code other : Nat}
    (start : withoutLast count code = withoutLast count other)
    (less : code < other) (s t : List UInt8) :
    continuation count code ++ s < continuation count other ++ t := by
  induction count with
  | zero => exact absurd start (Nat.ne_of_lt less)
  | succ count ih =>
    rw [withoutLast, withoutLast] at start
    have ordered := withoutLast_le less count
    by_cases same : withoutLast count code = withoutLast count other
    · unfold continuation
      rw [same]
      exact List.cons_lt_cons_iff.mpr (.inr ⟨rfl, ih same⟩)
    · exact cons_lt_of_byte (by omega) (by omega) _ _

/-- The smaller of two codes has the smaller first byte, or the same one, with as many bytes after
it and the same first digits. -/
theorem leading_lt {code other : Nat} (less : code < other) :
    leading code < leading other ∨ leading code = leading other ∧
      continued code = continued other ∧
        withoutLast (continued code) code = withoutLast (continued code) other := by
  unfold leading continued
  split_ifs <;>
    simp only [withoutLast, true_and, false_and, and_false, or_false] <;> omega

theorem encode_lt_encode {c d : Char} (less : c < d) (s t : List UInt8) :
    String.utf8EncodeChar c ++ s < String.utf8EncodeChar d ++ t := by
  have codes : c.toNat < d.toNat := less
  have small : leading d.toNat < 256 := by
    have bound := code_lt d
    simp only [leading, withoutLast]
    split_ifs <;> omega
  rw [utf8EncodeChar_eq, utf8EncodeChar_eq]
  rcases leading_lt codes with first | ⟨first, count, start⟩
  · exact cons_lt_of_byte small first _ _
  · rw [first, ← count]
    exact List.cons_lt_cons_iff.mpr (.inr ⟨rfl, continuation_lt start codes s t⟩)

theorem bytes_lt_of_lt {s t : String} (less : s < t) : bytes s < bytes t := by
  have letters : s.toList < t.toList := less
  rw [bytes_eq_flatMap, bytes_eq_flatMap]
  generalize s.toList = first, t.toList = second at letters
  induction first generalizing second with
  | nil =>
    cases second with
    | nil => exact absurd letters (List.lt_irrefl _)
    | cons d later =>
      rw [List.flatMap_cons, utf8EncodeChar_eq]
      exact List.nil_lt_cons _ _
  | cons c rest ih =>
    cases second with
    | nil => exact absurd letters (List.not_lt_nil _)
    | cons d later =>
      rw [List.flatMap_cons, List.flatMap_cons]
      rcases List.cons_lt_cons_iff.mp letters with smaller | ⟨rfl, equal⟩
      · exact encode_lt_encode smaller _ _
      · exact List.append_left_lt (ih later equal)

theorem bytes_lt_iff {s t : String} : bytes s < bytes t ↔ s < t := by
  refine ⟨fun less => ?_, bytes_lt_of_lt⟩
  by_contra notLess
  have below : t ≤ s := String.not_lt.mp notLess
  by_cases above : s ≤ t
  · rw [String.le_antisymm above below] at less
    exact List.lt_irrefl _ less
  · exact List.lt_asymm less (bytes_lt_of_lt (String.not_le.mp above))

end ProviderGen.Text
