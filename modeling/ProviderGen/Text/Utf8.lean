/-!
The bytes of texts in UTF-8, and reading bytes as text when they need not be UTF-8.
-/

namespace ProviderGen.Text

def bytes (s : String) : List UInt8 := s.toUTF8.data.toList

def ofBytes? (bytes : List UInt8) : Option String := String.fromUTF8? ⟨bytes.toArray⟩

def replacement : Char := '\uFFFD'

def isContinuation (b : UInt8) : Bool := 0x80 ≤ b && b ≤ 0xBF

/-- The second bytes that may follow the first byte of a character of three or four bytes. -/
def followsLead (lead second : UInt8) : Bool :=
  isContinuation second &&
    (if lead = 0xE0 then 0xA0 ≤ second
      else if lead = 0xED then second ≤ 0x9F
      else if lead = 0xF0 then 0x90 ≤ second
      else if lead = 0xF4 then second ≤ 0x8F
      else true)

def assembled (lead : Nat) (continuations : List UInt8) : Char :=
  Char.ofNat (continuations.foldl (fun code b => code * 64 + b.toNat % 64) lead)

/-- Every longest start of a character that is not completed becomes one replacement. -/
def decodeBytes : List UInt8 → List Char
  | [] => []
  | a :: rest =>
    if a < 0x80 then Char.ofNat a.toNat :: decodeBytes rest
    else if 0xC2 ≤ a && a ≤ 0xDF then
      match rest with
      | [] => [replacement]
      | b :: rest' =>
        if isContinuation b then assembled (a.toNat % 32) [b] :: decodeBytes rest'
        else replacement :: decodeBytes (b :: rest')
    else if 0xE0 ≤ a && a ≤ 0xEF then
      match rest with
      | [] => [replacement]
      | [b] => if followsLead a b then [replacement] else replacement :: decodeBytes [b]
      | b :: c :: rest' =>
        if followsLead a b then
          if isContinuation c then assembled (a.toNat % 16) [b, c] :: decodeBytes rest'
          else replacement :: decodeBytes (c :: rest')
        else replacement :: decodeBytes (b :: c :: rest')
    else if 0xF0 ≤ a && a ≤ 0xF4 then
      match rest with
      | [] => [replacement]
      | [b] => if followsLead a b then [replacement] else replacement :: decodeBytes [b]
      | [b, c] =>
        if followsLead a b then
          if isContinuation c then [replacement] else replacement :: decodeBytes [c]
        else replacement :: decodeBytes [b, c]
      | b :: c :: d :: rest' =>
        if followsLead a b then
          if isContinuation c then
            if isContinuation d then assembled (a.toNat % 8) [b, c, d] :: decodeBytes rest'
            else replacement :: decodeBytes (d :: rest')
          else replacement :: decodeBytes (c :: d :: rest')
        else replacement :: decodeBytes (b :: c :: d :: rest')
    else replacement :: decodeBytes rest
termination_by bytes => bytes.length

def decodeLossy (bytes : ByteArray) : String :=
  match String.fromUTF8? bytes with
  | some text => text
  | none => String.ofList (decodeBytes bytes.toList)

end ProviderGen.Text
