import ProviderGen.Decimal.Literal

/-!
The text of a string as a YAML scalar. A string stays plain if it would be read back as the same
string; it is put between apostrophes if it looks like another value or like punctuation, between
quotation marks if it holds characters that need escapes, and becomes a literal block if it has
several lines.
-/

namespace ProviderGen.Yaml

/-! ### Strings that look like other values -/

def isNull (s : String) : Bool := ["", "null", "Null", "NULL", "~"].contains s

def isBoolean (s : String) : Bool :=
  ["true", "True", "TRUE", "false", "False", "FALSE"].contains s

def radixValue? (base : Nat) (digits : List Char) : Option Nat :=
  let value? (c : Char) : Option Nat :=
    if c.isDigit then some (c.toNat - '0'.toNat)
    else if 'a' ≤ c && c ≤ 'f' then some (c.toNat - 'a'.toNat + 10)
    else if 'A' ≤ c && c ≤ 'F' then some (c.toNat - 'A'.toNat + 10)
    else none
  if digits.isEmpty then none
  else digits.foldl (fun total c => do
    let total ← total
    let digit ← value? c
    if digit < base then some (total * base + digit) else none) (some 0)

def isMarkedInteger (s : List Char) : Bool :=
  let fits (bound : Nat) (base : Nat) (digits : List Char) : Bool :=
    match radixValue? base digits with
    | some value => decide (value ≤ bound)
    | none => false
  let marked (bound : Nat) : List Char → Bool
    | '0' :: 'x' :: digits => fits bound 16 digits
    | '0' :: 'o' :: digits => fits bound 8 digits
    | '0' :: 'b' :: digits => fits bound 2 digits
    | _ => false
  match s with
  | '+' :: rest => marked (Decimal.powerOfTwo 128 - 1) rest
  | '-' :: rest => marked (Decimal.powerOfTwo 127) rest
  | _ => marked (Decimal.powerOfTwo 128 - 1) s

/-- Several digits that begin with a zero; no number is written so, but many readers take it for
one. -/
def isPaddedDigits (s : List Char) : Bool :=
  let unsigned := match s with
    | '+' :: rest => rest
    | '-' :: rest => rest
    | _ => s
  match unsigned with
  | '0' :: second :: rest => (second :: rest).all Char.isDigit
  | _ => false

def readDecimal? (s : List Char) : Option Decimal.Literal :=
  let whole := s.takeWhile Char.isDigit
  let (fraction, rest) := match s.dropWhile Char.isDigit with
    | '.' :: rest => (rest.takeWhile Char.isDigit, rest.dropWhile Char.isDigit)
    | rest => ([], rest)
  if whole.isEmpty && fraction.isEmpty then none
  else
    let literal (exponent : Int) : Decimal.Literal :=
      ⟨false, Decimal.digitsValue (whole ++ fraction), exponent - fraction.length⟩
    let withExponent (negative : Bool) (digits : List Char) : Option Decimal.Literal :=
      if digits.isEmpty || !digits.all Char.isDigit then none
      else some (literal (if negative then -(Decimal.digitsValue digits : Int)
        else Decimal.digitsValue digits))
    match rest with
    | [] => some (literal 0)
    | mark :: rest =>
      if mark ≠ 'e' && mark ≠ 'E' then none
      else match rest with
        | '+' :: digits => withExponent false digits
        | '-' :: digits => withExponent true digits
        | digits => withExponent false digits

def isFiniteDecimal (s : List Char) : Bool :=
  let unsigned := match s with
    | '+' :: rest => rest
    | '-' :: rest => rest
    | _ => s
  match readDecimal? unsigned with
  | some literal => !literal.overflows
  | none => false

def isSpecialNumber (s : String) : Bool :=
  [".inf", ".Inf", ".INF", "+.inf", "+.Inf", "+.INF", "-.inf", "-.Inf", "-.INF",
    ".nan", ".NaN", ".NAN"].contains s

def looksTyped (s : String) : Bool :=
  isNull s || isBoolean s || isSpecialNumber s || isMarkedInteger s.toList ||
    isPaddedDigits s.toList || isFiniteDecimal s.toList

/-! ### Strings that look like punctuation -/

def isBreak (c : Char) : Bool :=
  c == '\r' || c == '\n' || c == '\u0085' || c == '\u2028' || c == '\u2029'

def endsWord (after : List Char) : Bool :=
  match after with
  | [] => true
  | c :: _ => c == ' ' || c == '\t' || isBreak c

def isPrintable (c : Char) : Bool :=
  c == '\n' || (decide (0x20 ≤ c.toNat) && decide (c.toNat ≤ 0x7E)) ||
    (decide (0xA0 ≤ c.toNat) && c.toNat != 0xFEFF && c.toNat != 0xFFFE && c.toNat != 0xFFFF)

def startIndicators : List Char :=
  ['#', ',', '[', ']', '\x7b', '\x7d', '&', '*', '!', '|', '>', '\'', '"', '%', '@', '`']

def startsWithIndicator : List Char → Bool
  | [] => false
  | '-' :: '-' :: '-' :: _ => true
  | '.' :: '.' :: '.' :: _ => true
  | c :: rest =>
    startIndicators.contains c || ((c == '?' || c == ':' || c == '-') && endsWord rest)

/-- Whether a colon that ends a word or a number sign that starts one stands after the first
character, which is `before`. -/
def hasInnerIndicator (before : Char) : List Char → Bool
  | [] => false
  | c :: rest =>
    (c == ':' && endsWord rest) || (c == '#' && endsWord [before]) || hasInnerIndicator c rest

def hasPair (first second : Char → Bool) : List Char → Bool
  | a :: b :: rest => (first a && second b) || hasPair first second (b :: rest)
  | _ => false

def atEnds (kind : Char → Bool) (s : List Char) : Bool :=
  s.head?.any kind || s.getLast?.any kind

def isSpace (c : Char) : Bool := c == ' '

def needsEscapes (s : List Char) : Bool :=
  s.any (!isPrintable ·) || hasPair isSpace isBreak s

def allowsPlain (s : List Char) : Bool :=
  !needsEscapes s && !s.any isBreak && !atEnds isSpace s && !startsWithIndicator s &&
    !(match s with
      | [] => false
      | first :: rest => hasInnerIndicator first rest)

def allowsApostrophes (s : List Char) : Bool := !needsEscapes s && !hasPair isBreak isSpace s

def allowsBlock (s : List Char) : Bool := !needsEscapes s && !s.getLast?.any isSpace

/-! ### The four styles -/

inductive Style where
  | plain
  | apostrophes
  | quotationMarks
  | block
deriving DecidableEq, Repr

def style (s : String) : Style :=
  let text := s.toList
  let quoted := if allowsApostrophes text then Style.apostrophes else .quotationMarks
  if text.contains '\n' then if allowsBlock text then .block else .quotationMarks
  else if looksTyped s then quoted
  else if allowsPlain text then .plain
  else quoted

def hexDigits (width n : Nat) : List Char :=
  let digits := (Nat.toDigits 16 n).map Char.toUpper
  List.replicate (width - digits.length) '0' ++ digits

def escaped (c : Char) : List Char :=
  match c.toNat with
  | 0x00 => ['\\', '0']
  | 0x07 => ['\\', 'a']
  | 0x08 => ['\\', 'b']
  | 0x09 => ['\\', 't']
  | 0x0A => ['\\', 'n']
  | 0x0B => ['\\', 'v']
  | 0x0C => ['\\', 'f']
  | 0x0D => ['\\', 'r']
  | 0x1B => ['\\', 'e']
  | 0x22 => ['\\', '"']
  | 0x5C => ['\\', '\\']
  | 0x85 => ['\\', 'N']
  | 0x2028 => ['\\', 'L']
  | 0x2029 => ['\\', 'P']
  | n =>
    if isPrintable c then [c]
    else if n ≤ 0xFF then '\\' :: 'x' :: hexDigits 2 n
    else if n ≤ 0xFFFF then '\\' :: 'u' :: hexDigits 4 n
    else '\\' :: 'U' :: hexDigits 8 n

/-- The text after an opening apostrophe. Text after a break is indented again, and so is the
closing apostrophe. -/
def apostropheBody (indent : Nat) (afterBreak : Bool) : List Char → List Char
  | [] => if afterBreak then List.replicate indent ' ' else []
  | c :: rest =>
    if isBreak c then c :: apostropheBody indent true rest
    else if isSpace c then c :: apostropheBody indent afterBreak rest
    else (if afterBreak then List.replicate indent ' ' else []) ++
      (if c == '\'' then ['\'', '\''] else [c]) ++ apostropheBody indent false rest

def blockBody (indent : Nat) (afterBreak : Bool) : List Char → List Char
  | [] => []
  | c :: rest =>
    if isBreak c then c :: blockBody indent true rest
    else (if afterBreak then List.replicate indent ' ' else []) ++ c :: blockBody indent false rest

/-- A block that starts with a space or a break tells its indentation; one that does not end in
exactly one break tells what becomes of the breaks at its end. -/
def blockHeader (s : List Char) : List Char :=
  let start := if s.head?.any fun c => isSpace c || isBreak c then ['2'] else []
  let finish := match s.reverse with
    | [] => ['-']
    | [last] => if isBreak last then ['+'] else ['-']
    | last :: second :: _ =>
      if !isBreak last then ['-'] else if isBreak second then ['+'] else []
  '|' :: start ++ finish

/-- A string as the value of a mapping entry, up to the end of the line. The indentation is that
of text inside the value. -/
def scalar (indent : Nat) (s : String) : String :=
  let text := s.toList
  match style s with
  | .plain => s ++ "\n"
  | .apostrophes => "'" ++ String.ofList (apostropheBody indent false text) ++ "'\n"
  | .quotationMarks => "\"" ++ String.ofList (text.flatMap escaped) ++ "\"\n"
  | .block =>
    let body := String.ofList (blockHeader text ++ '\n' :: blockBody indent true text)
    if text.getLast?.any isBreak then body else body ++ "\n"

end ProviderGen.Yaml
