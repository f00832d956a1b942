import ProviderGen.Toml.Value

/-!
Numbers, dates and times of a TOML document. Each reader takes what it reads from the start of the
input and returns the rest.
-/

namespace ProviderGen.Toml

def digitRun (isDigit : Char → Bool) : List Char → Option (List Char × List Char)
  | '_' :: c :: rest =>
    if isDigit c then do
      let (digits, rest) ← digitRun isDigit rest
      return (c :: digits, rest)
    else none
  | ['_'] => none
  | c :: rest =>
    if isDigit c then do
      let (digits, rest) ← digitRun isDigit rest
      return (c :: digits, rest)
    else some ([], c :: rest)
  | [] => some ([], [])

def digits (isDigit : Char → Bool) : List Char → Option (List Char × List Char)
  | c :: rest =>
    if isDigit c then do
      let (more, rest) ← digitRun isDigit rest
      return (c :: more, rest)
    else none
  | [] => none

def sign : List Char → Bool × List Char
  | '+' :: rest => (false, rest)
  | '-' :: rest => (true, rest)
  | rest => (false, rest)

/-- Decimal digits with a sign; a zero stands alone. -/
def signedDigits (input : List Char) : Option (Bool × List Char × List Char) :=
  let (negative, input) := sign input
  match input with
  | '0' :: rest => some (negative, ['0'], rest)
  | _ => do
    let (digits, rest) ← digits Char.isDigit input
    return (negative, digits, rest)

def inIntegerRange (n : Int) : Bool :=
  decide (-(Decimal.powerOfTwo 63 : Int) ≤ n) && decide (n < Decimal.powerOfTwo 63)

def hexDigit? (c : Char) : Option Nat :=
  if c.isDigit then some (c.toNat - '0'.toNat)
  else if 'a' ≤ c && c ≤ 'f' then some (c.toNat - 'a'.toNat + 10)
  else if 'A' ≤ c && c ≤ 'F' then some (c.toNat - 'A'.toNat + 10)
  else none

def digitOf (base : Nat) (c : Char) : Bool := (hexDigit? c).any fun n => decide (n < base)

def valueIn (base : Nat) (digits : List Char) : Nat :=
  digits.foldl (fun value c => value * base + (hexDigit? c).getD 0) 0

def markedInteger (base : Nat) (input : List Char) : Option (Value × List Char) := do
  let (digits, rest) ← digits (digitOf base) input
  let number : Int := valueIn base digits
  if inIntegerRange number then return (.integer number, rest) else none

def integer : List Char → Option (Value × List Char)
  | '0' :: 'x' :: rest => markedInteger 16 rest
  | '0' :: 'o' :: rest => markedInteger 8 rest
  | '0' :: 'b' :: rest => markedInteger 2 rest
  | input => do
    let (negative, digits, rest) ← signedDigits input
    let number : Int := valueIn 10 digits
    let number := if negative then -number else number
    if inIntegerRange number then return (.integer number, rest) else none

def exponent? (input : List Char) : Option (Option Int × List Char) :=
  match input with
  | mark :: rest =>
    if mark = 'e' || mark = 'E' then do
      let (negative, rest) := sign rest
      let (digits, rest) ← digits Char.isDigit rest
      let size : Int := valueIn 10 digits
      return (some (if negative then -size else size), rest)
    else some (none, input)
  | [] => some (none, [])

/-- A number with a fraction, an exponent or both. It must not overflow upwards. -/
def decimalFloat (input : List Char) : Option (Value × List Char) := do
  let (negative, whole, rest) ← signedDigits input
  let (fraction, rest) ← match rest with
    | '.' :: rest => digits Char.isDigit rest
    | rest => some ([], rest)
  let (exponent, rest) ← exponent? rest
  if fraction.isEmpty && exponent.isNone then none
  else
    let number := Decimal.Double.ofLiteral
      ⟨negative, valueIn 10 (whole ++ fraction), exponent.getD 0 - fraction.length⟩
    if number = .infinite false then none else return (.float number, rest)

def specialFloat (input : List Char) : Option (Value × List Char) :=
  match sign input with
  | (negative, 'i' :: 'n' :: 'f' :: rest) => some (.float (.infinite negative), rest)
  | (_, 'n' :: 'a' :: 'n' :: rest) => some (.float .nan, rest)
  | _ => none

def fixedDigits (count least most : Nat) (input : List Char) : Option (Nat × List Char) :=
  let digits := input.take count
  let value := valueIn 10 digits
  if digits.length = count && digits.all Char.isDigit && least ≤ value && value ≤ most then
    some (value, input.drop count)
  else none

def character (c : Char) : List Char → Option (List Char)
  | first :: rest => if first = c then some rest else none
  | [] => none

def daysIn (year month : Nat) : Nat :=
  if month = 2 then if year % 4 = 0 && (year % 100 ≠ 0 || year % 400 = 0) then 29 else 28
  else if month = 4 || month = 6 || month = 9 || month = 11 then 30
  else 31

def date (input : List Char) : Option (List Char) := do
  let (year, rest) ← fixedDigits 4 0 9999 input
  let rest ← character '-' rest
  let (month, rest) ← fixedDigits 2 1 12 rest
  let rest ← character '-' rest
  let (_, rest) ← fixedDigits 2 1 (daysIn year month) rest
  return rest

def time (input : List Char) : Option (List Char) := do
  let (_, rest) ← fixedDigits 2 0 23 input
  let rest ← character ':' rest
  let (_, rest) ← fixedDigits 2 0 59 rest
  let rest ← character ':' rest
  let (_, rest) ← fixedDigits 2 0 60 rest
  match rest with
  | '.' :: c :: more => return if c.isDigit then more.dropWhile Char.isDigit else rest
  | _ => return rest

def offset (input : List Char) : Option (List Char) :=
  match input with
  | 'Z' :: rest => some rest
  | 'z' :: rest => some rest
  | c :: rest =>
    if c = '+' || c = '-' then do
      let (_, rest) ← fixedDigits 2 0 23 rest
      let rest ← character ':' rest
      let (_, rest) ← fixedDigits 2 0 59 rest
      return rest
    else some input
  | [] => some []

def dateTime (input : List Char) : Option (Value × List Char) :=
  match date input with
  | some rest =>
    match rest with
    | delimiter :: more =>
      if delimiter = 'T' || delimiter = 't' || delimiter = ' ' then
        match time more with
        | some rest => (offset rest).map fun rest => (.dateTime, rest)
        | none => some (.dateTime, rest)
      else some (.dateTime, rest)
    | [] => some (.dateTime, rest)
  | none => (time input).map fun rest => (.dateTime, rest)

def number (input : List Char) : Option (Value × List Char) :=
  dateTime input <|> decimalFloat input <|> specialFloat input <|> integer input

end ProviderGen.Toml
