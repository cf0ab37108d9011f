import SectorDisk.Decimal.Shortest

/-!
# Texts of floating-point numbers

Two ways of writing a number with its shortest digits.  `plain` is positional for numbers from
`10 ^ -4` up to `10 ^ 16` and scientific elsewhere; `sample`, used in metrics, turns to scientific
notation from `10 ^ 6` on and spells the infinities `+Inf` and `-Inf`.
-/

namespace SectorDisk.Decimal

/-! ## §1 Plain text -/

/-- Digits with the point after the digit of power zero. -/
def positional (digits : List Char) (lead : Int) : List Char :=
  if lead < 0 then
    '0' :: '.' :: List.replicate (-lead - 1).toNat '0' ++ digits
  else
    let whole := lead.toNat + 1
    if digits.length ≤ whole then
      digits ++ List.replicate (whole - digits.length) '0' ++ ['.', '0']
    else digits.take whole ++ '.' :: digits.drop whole

/-- An exponent with its sign and at least two digits. -/
def exponentText (e : Int) : List Char :=
  let ds := Nat.toDigits 10 e.natAbs
  (if e < 0 then '-' else '+') :: (if ds.length < 2 then '0' :: ds else ds)

/-- One digit, the others behind a point, and the exponent. -/
def scientific (digits : List Char) (lead : Int) : List Char :=
  let mantissa :=
    match digits with
    | [] => ['0']
    | [d] => [d]
    | d :: rest => d :: '.' :: rest
  mantissa ++ 'e' :: exponentText lead

/-- The text of a finite positive number. -/
def positive (b : Binary) : List Char :=
  let (digits, lead) := (shortest b).digits
  if -4 ≤ lead ∧ lead < 16 then positional digits lead else scientific digits lead

/-- The text of a number: shortest digits that read back, a point or an exponent always shown. -/
def plain (x : Float) : String :=
  if x.isNaN then "nan"
  else
    let bits := x.toBits
    let sign := if bits.toNat / Nat.pow 2 63 = 1 then ['-'] else []
    if x.isInf then String.ofList (sign ++ ['i', 'n', 'f'])
    else
      let magnitude := bits.toNat % Nat.pow 2 63
      if magnitude = 0 then String.ofList (sign ++ ['0', '.', '0'])
      else String.ofList (sign ++ positive (Binary.ofBits (UInt64.ofNat magnitude)))

/-! ## §2 Text of a sample -/

/-- Whether the character is dropped from the end of a mantissa. -/
def isIdleEnd (c : Char) : Bool :=
  c = '0' || c = '.'

/-- The text of a sample's value. -/
def sample (x : Float) : String :=
  if x.isNaN then "NaN"
  else if x.isInf then (if 0 < x then "+Inf" else "-Inf")
  else
    let text := (plain x).toList
    let whole := text.takeWhile (· ≠ '.')
    if 0 < x ∧ 6 < whole.length ∧ whole.length < text.length then
      let mantissa := whole.take 1 ++ '.' :: whole.drop 1 ++ text.drop (whole.length + 1)
      let trimmed := (mantissa.reverse.dropWhile isIdleEnd).reverse
      String.ofList (trimmed ++ 'e' :: exponentText (whole.length - 1))
    else plain x

end SectorDisk.Decimal
