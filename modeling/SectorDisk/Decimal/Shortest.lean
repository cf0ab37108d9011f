/-!
# Shortest decimal text of a binary number

The shortest decimal that reads back as a given `Float`, and of the shortest the nearest to it.

A finite positive number is `m * 2 ^ q`; the reals that round to it form an interval whose ends
count when `m` is even.  For one, two, … up to seventeen digits the two neighbours of the number on
that decimal grid are tried, and the first grid with a neighbour in the interval gives the digits.
All of it is exact arithmetic on naturals.
-/

namespace SectorDisk.Decimal

/-! ## §1 Binary parts -/

/-- A positive rational number. -/
structure Ratio where
  /-- Numerator. -/
  num : Nat
  /-- Denominator, not zero. -/
  den : Nat

/-- Four times the significand and the power of two of a positive number's quarter unit. -/
structure Binary where
  /-- The significand. -/
  significand : Nat
  /-- The power of two of its unit. -/
  exponent : Int
  /-- Whether the neighbour below is only half a unit away. -/
  narrowBelow : Bool

/-- The parts of a finite positive number, read from its bits. -/
def Binary.ofBits (bits : UInt64) : Binary :=
  let fraction : Nat := bits.toNat % Nat.pow 2 52
  let biased : Nat := bits.toNat / Nat.pow 2 52 % Nat.pow 2 11
  if biased = 0 then ⟨fraction, -1074, false⟩
  else ⟨Nat.pow 2 52 + fraction, Int.ofNat biased - 1075, decide (fraction = 0 ∧ 1 < biased)⟩

/-- `quarters` quarter units as a rational. -/
def Binary.ratio (b : Binary) (quarters : Nat) : Ratio :=
  let e := b.exponent - 2
  if 0 ≤ e then ⟨quarters * Nat.pow 2 e.toNat, 1⟩ else ⟨quarters, Nat.pow 2 (-e).toNat⟩

/-- Whether a rational rounds to the number. -/
def Binary.roundsFrom (b : Binary) (r : Ratio) : Bool :=
  let m := 4 * b.significand
  let low := b.ratio (if b.narrowBelow then m - 1 else m - 2)
  let high := b.ratio (m + 2)
  if b.significand % 2 = 0 then
    low.num * r.den ≤ r.num * low.den && r.num * high.den ≤ high.num * r.den
  else
    low.num * r.den < r.num * low.den && r.num * high.den < high.num * r.den

/-! ## §2 Decimal grids -/

/-- `coefficient * 10 ^ exponent`. -/
structure Scaled where
  /-- The digits as a number. -/
  coefficient : Nat
  /-- The power of ten of the last digit. -/
  exponent : Int
  deriving DecidableEq, Repr

/-- The rational that a scaled decimal stands for. -/
def Scaled.ratio (s : Scaled) : Ratio :=
  if 0 ≤ s.exponent then ⟨s.coefficient * Nat.pow 10 s.exponent.toNat, 1⟩
  else ⟨s.coefficient, Nat.pow 10 (-s.exponent).toNat⟩

/-- How many decimal digits a number has. -/
def digitCount (n : Nat) : Nat :=
  (Nat.toDigits 10 n).length

/-- The power of ten of the first significant digit. -/
def leadingExponent (r : Ratio) : Int :=
  if r.den ≤ r.num then (digitCount (r.num / r.den) : Int) - 1
  else
    let d := digitCount (r.den / r.num)
    if r.den ≤ r.num * Nat.pow 10 (d - 1) then -((d : Int) - 1) else -(d : Int)

/-- The neighbour of the number at or below it on the grid with the given power of ten, and twice
the remainder against the unit of the grid: how far up the number lies. -/
def gridFloor (r : Ratio) (exponent : Int) : Nat × Ordering :=
  let num := if 0 ≤ exponent then r.num else r.num * Nat.pow 10 (-exponent).toNat
  let den := if 0 ≤ exponent then r.den * Nat.pow 10 exponent.toNat else r.den
  (num / den, compare (2 * (num % den)) den)

/-- The shortest decimal from a grid of at least `count` digits; `tries` bounds the search. -/
def shortestFrom (b : Binary) (value : Ratio) (lead : Int) (count : Nat) : Nat → Scaled
  | 0 => ⟨(gridFloor value (lead - count + 1)).1, lead - count + 1⟩
  | tries + 1 =>
    let exponent := lead - count + 1
    let (floor, lies) := gridFloor value exponent
    let below : Scaled := ⟨floor, exponent⟩
    let above : Scaled := ⟨floor + 1, exponent⟩
    match b.roundsFrom below.ratio, b.roundsFrom above.ratio with
    | true, true =>
      match lies with
      | .lt => below
      | .gt => above
      | .eq => if floor % 2 = 0 then below else above
    | true, false => below
    | false, true => above
    | false, false => shortestFrom b value lead (count + 1) tries

/-- The shortest decimal that rounds to the number. -/
def shortest (b : Binary) : Scaled :=
  let value := b.ratio (4 * b.significand)
  shortestFrom b value (leadingExponent value) 1 17

/-! ## §3 Digits and point -/

/-- Drops zeros at the end of a list of digits. -/
def dropTrailingZeros (digits : List Char) : List Char :=
  (digits.reverse.dropWhile (· = '0')).reverse

/-- The significant digits and the power of ten of the first of them. -/
def Scaled.digits (s : Scaled) : List Char × Int :=
  let all := Nat.toDigits 10 s.coefficient
  (dropTrailingZeros all, s.exponent + all.length - 1)

end SectorDisk.Decimal
