/-!
Cutting a text at a separator and putting pieces together with one.
-/

namespace ProviderGen.Text

/-- The pieces of a text between occurrences of the separator; there is always at least one. -/
def split (separator : Char) (s : String) : List String :=
  (s.toList.splitOn separator).map String.ofList

def joined (separator : Char) (pieces : List String) : String :=
  String.ofList ([separator].intercalate (pieces.map String.toList))

def startsWith (c : Char) (s : String) : Bool := s.toList.head? == some c

end ProviderGen.Text
