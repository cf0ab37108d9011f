import SectorDisk.Decimal.Shortest
import SectorDisk.Failure

/-!
# Arithmetic of numbers

Numbers of different kinds are added and compared: truth values count as 0 and 1, a result is a
float as soon as one operand is, and comparisons between an integer and a float are exact.  Only an
integer too large for a float has no sum with one.
-/

namespace SectorDisk.Number

/-! ## §1 Conversions -/

/-- The integer value, unless the number is a float. -/
def toInt? : Number → Option Int
  | .int n => some n
  | .flag b => some (if b then 1 else 0)
  | .real _ => none

/-- The number as a float, unless it is too large. -/
def toFloat? : Number → Option Float
  | .real x => some x
  | .int n => if (Float.ofInt n).isInf then none else some (Float.ofInt n)
  | .flag b => some (if b then 1.0 else 0.0)

/-- The numerator and denominator of a finite number. -/
def fraction? : Number → Option (Int × Int)
  | .int n => some (n, 1)
  | .flag b => some (if b then 1 else 0, 1)
  | .real x =>
    if x.isFinite then
      let parts := Decimal.Binary.ofBits x.toBits
      let signed : Int := if x < 0.0 then -parts.significand else parts.significand
      if 0 ≤ parts.exponent then some (signed * Nat.pow 2 parts.exponent.toNat, 1)
      else some (signed, Nat.pow 2 (-parts.exponent).toNat)
    else none

/-! ## §2 Sums and differences -/

/-- The sum of two numbers. -/
def add (a b : Number) : Except Failure Number :=
  match a.toInt?, b.toInt? with
  | some m, some n => .ok (.int (m + n))
  | _, _ =>
    match a.toFloat?, b.toFloat? with
    | some x, some y => .ok (.real (x + y))
    | _, _ => .error .floatOverflow

/-- What is left between a number and a size. -/
def below (size : Nat) : Number → Number
  | .int n => .int (size - n)
  | .flag b => .int (size - if b then 1 else 0)
  | .real x => .real (Float.ofNat size - x)

/-! ## §3 Comparisons -/

/-- Whether a number is below zero. -/
def isNegative : Number → Bool
  | .int n => n < 0
  | .flag _ => false
  | .real x => x < 0.0

/-- Whether a number is above zero. -/
def isPositive : Number → Bool
  | .int n => 0 < n
  | .flag b => b
  | .real x => 0.0 < x

/-- Whether a number is zero or below. -/
def isAtMostZero : Number → Bool
  | .int n => n ≤ 0
  | .flag b => !b
  | .real x => x ≤ 0.0

/-- Whether a number reaches a size. -/
def reaches (size : Nat) : Number → Bool
  | .int n => (size : Int) ≤ n
  | .flag b => size ≤ (if b then 1 else 0)
  | .real x => Float.ofNat size ≤ x

/-- Whether a number equals an integer. -/
def equals (a : Number) (n : Int) : Bool :=
  match a with
  | .int m => m = n
  | .flag b => (if b then 1 else 0) = n
  | .real x => x == Float.ofInt n

/-- Whether a number is less than another; a float that is no number is neither less nor greater. -/
def less (a b : Number) : Bool :=
  match a, b with
  | .real x, .real y => x < y
  | a, b =>
    match a.fraction?, b.fraction? with
    | some (p, q), some (r, s) => p * s < r * q
    | none, _ => a.isNegative
    | some _, none => b.isPositive

end SectorDisk.Number
