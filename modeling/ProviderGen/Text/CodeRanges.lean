/-!
Sets of characters as ascending ranges of code points. Character properties of
the Unicode standard are listed this way by the modules that use them.
-/

namespace ProviderGen.Text

abbrev CodeRanges := List (Nat × Nat)

def CodeRanges.contains : CodeRanges → Char → Bool
  | [], _ => false
  | (first, last) :: rest, c =>
    if c.toNat ≤ last then decide (first ≤ c.toNat) else contains rest c

end ProviderGen.Text
