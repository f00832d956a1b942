import ProviderGen.Text.CaseData

/-!
Lowercase of a text under the Unicode default mapping. Two rules look at more than one
character: a capital I with a dot becomes an `i` followed by a combining dot, and a capital
sigma takes its final form at the end of a word.
-/

namespace ProviderGen.Text

def isCased (c : Char) : Bool := casedRanges.contains c

def isCaseIgnorable (c : Char) : Bool := caseIgnorableRanges.contains c

def CaseRun.covers (run : CaseRun) (c : Char) : Bool :=
  decide (run.first ≤ c.toNat) && decide (c.toNat ≤ run.last) &&
    (c.toNat - run.first) % run.stride == 0

def lowerChar (c : Char) : Char :=
  if c.toNat < 0x80 then c.toLower
  else match caseRuns.find? (·.covers c) with
    | some run => Char.ofNat (c.toNat + run.shift).toNat
    | none => c

def startsCased (s : List Char) : Bool :=
  match s.dropWhile isCaseIgnorable with
  | [] => false
  | c :: _ => isCased c

/-- A capital sigma is final if a cased character comes before it and none follows, where
case-ignorable characters do not count. -/
def lowerSigma (before after : List Char) : Char :=
  if startsCased before && !startsCased after then 'ς' else 'σ'

def lowerFrom (before : List Char) : List Char → List Char
  | [] => []
  | c :: rest =>
    (if c = 'Σ' then [lowerSigma before rest]
      else if c = 'İ' then ['i', '\u0307']
      else [lowerChar c]) ++ lowerFrom (c :: before) rest

def lowercase (s : String) : String := String.ofList (lowerFrom [] s.toList)

end ProviderGen.Text
