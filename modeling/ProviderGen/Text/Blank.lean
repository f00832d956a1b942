import ProviderGen.Text.CodeRanges

/-!
White space in the sense of the Unicode property `White_Space`, and blank texts.
-/

namespace ProviderGen.Text

def whiteSpace : CodeRanges :=
  [(0x09, 0x0D), (0x20, 0x20), (0x85, 0x85), (0xA0, 0xA0), (0x1680, 0x1680), (0x2000, 0x200A),
    (0x2028, 0x2029), (0x202F, 0x202F), (0x205F, 0x205F), (0x3000, 0x3000)]

def isWhiteSpace (c : Char) : Bool := whiteSpace.contains c

def isBlank (s : String) : Bool := s.toList.all isWhiteSpace

end ProviderGen.Text
