import ProviderGen.Decimal.Literal

/-!
Binary floating-point numbers of 64 bits and their shortest decimal text: the fewest digits that
read back as the same number, and of those the nearest.
-/

namespace ProviderGen.Decimal

inductive Double where
  | nan
  | infinite (negative : Bool)
  /-- The number `mantissa * 2 ^ exponent`; the exponent is at least `-1074`, and the mantissa
  has 53 bits unless the exponent is the least. -/
  | finite (negative : Bool) (mantissa : Nat) (exponent : Int)
deriving DecidableEq, Repr

def leastExponent : Int := -1074

def roundScaled (num den : Nat) (exponent : Int) : Nat :=
  let (num, den) := match exponent with
    | .ofNat e => (num, den * powerOfTwo e)
    | .negSucc e => (num * powerOfTwo (e + 1), den)
  let (whole, rest) := (num / den, num % den)
  if 2 * rest < den then whole
  else if 2 * rest > den then whole + 1
  else whole + whole % 2

def nearest (negative : Bool) (num den : Nat) : Double :=
  let guess : Int := (num.log2 : Int) - (den.log2 : Int) - 53
  let exponent := max leastExponent guess
  let mantissa := roundScaled num den exponent
  if mantissa < powerOfTwo 53 then .finite negative mantissa exponent
  else
    let exponent := exponent + 1
    let mantissa := roundScaled num den exponent
    if mantissa < powerOfTwo 53 then .finite negative mantissa exponent
    else .finite negative (mantissa / 2) (exponent + 1)

def Double.ofLiteral (literal : Literal) : Double :=
  if literal.coefficient = 0 || literal.magnitude < -330 then
    .finite literal.negative 0 leastExponent
  else if literal.overflows then .infinite literal.negative
  else
    let (num, den) := literal.quotient
    nearest literal.negative num den

/-- Four times a positive number and the ends of the interval of numbers that round to it, as
natural numbers over one denominator. -/
structure Neighbourhood where
  low : Nat
  value : Nat
  high : Nat
  denominator : Nat
  /-- The ends belong to the interval. -/
  closed : Bool

def neighbourhood (mantissa : Nat) (exponent : Int) : Neighbourhood :=
  let below := if mantissa = powerOfTwo 52 && exponent > leastExponent then 1 else 2
  let scale (n : Nat) : Nat := match exponent with
    | .ofNat e => n * powerOfTwo e
    | .negSucc _ => n
  let denominator := match exponent with
    | .ofNat _ => 4
    | .negSucc e => 4 * powerOfTwo (e + 1)
  { low := scale (4 * mantissa - below)
    value := scale (4 * mantissa)
    high := scale (4 * mantissa + 2)
    denominator
    closed := mantissa % 2 == 0 }

/-- The neighbour of the value on the grid of multiples of `10 ^ position` that lies in the
interval, the nearer one if both do, and the upper one at a tie. -/
def Neighbourhood.onGrid (n : Neighbourhood) (position : Int) : Option Nat :=
  let (unit, den) := match position with
    | .ofNat p => (n.denominator * powerOfTen p, 1)
    | .negSucc p => (n.denominator, powerOfTen (p + 1))
  let (low, value, high) := (n.low * den, n.value * den, n.high * den)
  let below := value / unit
  let inside (k : Nat) : Bool :=
    if n.closed then decide (low ≤ k * unit) && decide (k * unit ≤ high)
    else decide (low < k * unit) && decide (k * unit < high)
  let rest := value % unit
  let first := if 2 * rest < unit then below else below + 1
  let second := if 2 * rest < unit then below + 1 else below
  if inside first then some first else if inside second then some second else none

/-- Tries ever finer grids. The search starts above the leading digit of the value, where only
a power of ten can be hit. -/
def Neighbourhood.digits (n : Neighbourhood) : Nat → Int → Nat × Int
  | 0, position => (n.value * powerOfTen (-position).toNat / n.denominator, position)
  | fuel + 1, position =>
    match n.onGrid position with
    | some k => (k, position)
    | none => n.digits fuel (position - 1)

def leadingPosition (num den : Nat) : Int :=
  if den ≤ num then (digitCount (num / den) : Int) - 1
  else
    let guess := digitCount (den / num)
    if den ≤ num * powerOfTen (guess - 1) then 1 - (guess : Int) else -(guess : Int)

def positional (coefficient : Nat) (position : Int) : String :=
  let digits := Nat.toDigits 10 coefficient
  match position with
  | .ofNat p => String.ofList (digits ++ List.replicate p '0')
  | .negSucc p =>
    let places := p + 1
    let padded := List.replicate (places + 1 - digits.length) '0' ++ digits
    let whole := padded.length - places
    String.ofList (padded.take whole ++ '.' :: padded.drop whole)

def Double.text : Double → String
  | .nan => "NaN"
  | .infinite negative => (if negative then "-" else "") ++ "inf"
  | .finite negative mantissa exponent =>
    (if negative then "-" else "") ++
      if mantissa = 0 then "0.0"
      else
        let n := neighbourhood mantissa exponent
        let (coefficient, position) := n.digits 20 (leadingPosition n.value n.denominator + 1)
        let text := positional coefficient position
        if position < 0 then text else text ++ ".0"

end ProviderGen.Decimal
