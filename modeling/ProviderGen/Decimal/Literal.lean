/-!
Decimal numbers as they are written, and their place among binary floating-point numbers of 64
bits. All arithmetic is exact.
-/

namespace ProviderGen.Decimal

/-- The number `coefficient * 10 ^ exponent`, with its sign. -/
structure Literal where
  negative : Bool
  coefficient : Nat
  exponent : Int
deriving DecidableEq, Repr

def powerOfTwo (n : Nat) : Nat := Nat.pow 2 n

def powerOfTen (n : Nat) : Nat := Nat.pow 10 n

def digitsValue (digits : List Char) : Nat :=
  digits.foldl (fun value digit => value * 10 + (digit.toNat - '0'.toNat)) 0

def digitCount (n : Nat) : Nat := if n = 0 then 0 else (Nat.toDigits 10 n).length

def Literal.quotient (literal : Literal) : Nat × Nat :=
  match literal.exponent with
  | .ofNat e => (literal.coefficient * powerOfTen e, 1)
  | .negSucc e => (literal.coefficient, powerOfTen (e + 1))

def Literal.magnitude (literal : Literal) : Int := digitCount literal.coefficient + literal.exponent

/-- From half a step above the largest finite number on, numbers are rounded to infinity. -/
def overflowBound : Nat := powerOfTwo 1024 - powerOfTwo 970

def Literal.overflows (literal : Literal) : Bool :=
  if literal.coefficient = 0 then false
  else if literal.magnitude > 310 then true
  else if literal.magnitude < 300 then false
  else
    let (num, den) := literal.quotient
    decide (overflowBound * den ≤ num)

end ProviderGen.Decimal
