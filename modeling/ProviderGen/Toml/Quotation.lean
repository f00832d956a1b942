import ProviderGen.Toml.Number

/-!
Strings of a TOML document: in quotation marks with escapes or in apostrophes without, on one line
or on several.
-/

namespace ProviderGen.Toml

def isLineChar (c : Char) : Bool := c == '\t' || (decide (0x20 ≤ c.toNat) && c.toNat != 0x7F)

def isBlankChar (c : Char) : Bool := c == ' ' || c == '\t'

def charOfHex? (digits : List Char) : Option Char :=
  if digits.all (hexDigit? · |>.isSome) then
    let code := valueIn 16 digits
    if h : code.isValidChar then some (Char.ofNatAux code h) else none
  else none

def escape? : List Char → Option (Char × List Char)
  | 'b' :: rest => some ('\x08', rest)
  | 't' :: rest => some ('\t', rest)
  | 'n' :: rest => some ('\n', rest)
  | 'f' :: rest => some ('\x0c', rest)
  | 'r' :: rest => some ('\r', rest)
  | '"' :: rest => some ('"', rest)
  | '\\' :: rest => some ('\\', rest)
  | 'u' :: a :: b :: c :: d :: rest => (charOfHex? [a, b, c, d]).map (·, rest)
  | 'U' :: a :: b :: c :: d :: e :: f :: g :: h :: rest =>
    (charOfHex? [a, b, c, d, e, f, g, h]).map (·, rest)
  | _ => none

def lineBreak? : List Char → Option (List Char)
  | '\n' :: rest => some rest
  | '\r' :: '\n' :: rest => some rest
  | _ => none

def skipBlankLines : List Char → List Char
  | '\r' :: '\n' :: rest => skipBlankLines rest
  | c :: rest => if c = '\n' || isBlankChar c then skipBlankLines rest else c :: rest
  | [] => []

def literalBody : List Char → Option (List Char × List Char)
  | [] => none
  | '\'' :: rest => some ([], rest)
  | c :: rest =>
    if isLineChar c then do
      let (content, rest) ← literalBody rest
      return (c :: content, rest)
    else none

/-- The remaining bodies read at most `fuel` pieces; the length of the input is always enough. -/
def basicBody : Nat → List Char → Option (List Char × List Char)
  | 0, _ => none
  | _, [] => none
  | _ + 1, '"' :: rest => some ([], rest)
  | fuel + 1, '\\' :: rest => do
    let (c, rest) ← escape? rest
    let (content, rest) ← basicBody fuel rest
    return (c :: content, rest)
  | fuel + 1, c :: rest =>
    if isLineChar c then do
      let (content, rest) ← basicBody fuel rest
      return (c :: content, rest)
    else none

/-- A body on several lines. Up to two quotation marks may stand before the three that close it;
a backslash at the end of a line drops the break and the blanks that follow. -/
def basicLines : Nat → List Char → Option (List Char × List Char)
  | 0, _ => none
  | _, [] => none
  | _ + 1, '"' :: '"' :: '"' :: '"' :: '"' :: rest => some (['"', '"'], rest)
  | _ + 1, '"' :: '"' :: '"' :: '"' :: rest => some (['"'], rest)
  | _ + 1, '"' :: '"' :: '"' :: rest => some ([], rest)
  | fuel + 1, '\\' :: rest =>
    match lineBreak? (rest.dropWhile isBlankChar) with
    | some rest => basicLines fuel (skipBlankLines rest)
    | none => do
      let (c, rest) ← escape? rest
      let (content, rest) ← basicLines fuel rest
      return (c :: content, rest)
  | fuel + 1, c :: rest =>
    match lineBreak? (c :: rest) with
    | some rest => do
      let (content, rest) ← basicLines fuel rest
      return ('\n' :: content, rest)
    | none =>
      if isLineChar c then do
        let (content, rest) ← basicLines fuel rest
        return (c :: content, rest)
      else none

def literalLines : Nat → List Char → Option (List Char × List Char)
  | 0, _ => none
  | _, [] => none
  | _ + 1, '\'' :: '\'' :: '\'' :: '\'' :: '\'' :: rest => some (['\'', '\''], rest)
  | _ + 1, '\'' :: '\'' :: '\'' :: '\'' :: rest => some (['\''], rest)
  | _ + 1, '\'' :: '\'' :: '\'' :: rest => some ([], rest)
  | fuel + 1, c :: rest =>
    match lineBreak? (c :: rest) with
    | some rest => do
      let (content, rest) ← literalLines fuel rest
      return ('\n' :: content, rest)
    | none =>
      if isLineChar c then do
        let (content, rest) ← literalLines fuel rest
        return (c :: content, rest)
      else none

def lineString : List Char → Option (String × List Char)
  | '"' :: rest => (basicBody (rest.length + 1) rest).map fun (s, rest) => (String.ofList s, rest)
  | '\'' :: rest => (literalBody rest).map fun (s, rest) => (String.ofList s, rest)
  | _ => none

def afterOpening (input : List Char) : List Char := (lineBreak? input).getD input

def string : List Char → Option (String × List Char)
  | '"' :: '"' :: '"' :: rest =>
    (basicLines (rest.length + 1) (afterOpening rest)).map fun (s, rest) => (String.ofList s, rest)
  | '\'' :: '\'' :: '\'' :: rest =>
    (literalLines (rest.length + 1) (afterOpening rest)).map fun (s, rest) =>
      (String.ofList s, rest)
  | input => lineString input

end ProviderGen.Toml
