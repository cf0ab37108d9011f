import SectorDisk.Text.Blank

/-!
# Hexadecimal text

Digits of numbers and bytes in base sixteen, and reading bytes back from pairs of digits with
blanks between the pairs.
-/

namespace SectorDisk.Text.Hex

/-! ## §1 Writing -/

/-- The digit of a value below sixteen. -/
def digit (n : Nat) : Char :=
  if n < 10 then Char.ofNat (48 + n) else Char.ofNat (87 + n)

/-- The digits of a number, without leading zeros. -/
def digits (n : Nat) : List Char :=
  if n < 16 then [digit n] else digits (n / 16) ++ [digit (n % 16)]
termination_by n

/-- Digits filled up with zeros on the left to at least `width`. -/
def padded (width n : Nat) : List Char :=
  let ds := digits n
  List.replicate (width - ds.length) '0' ++ ds

/-- A signed number with at least `width` places, the sign being one of them. -/
def signed (width : Nat) : Int → List Char
  | .ofNat n => padded width n
  | .negSucc n => '-' :: padded (width - 1) (n + 1)

/-- The two digits of a byte. -/
def byte (b : UInt8) : List Char :=
  [digit (b.toNat / 16), digit (b.toNat % 16)]

/-- The digits of bytes, with a blank between bytes. -/
def spaced (bytes : List UInt8) : List Char :=
  List.intercalate [' '] (bytes.map byte)

/-- The digits of bytes, run together. -/
def joined (bytes : List UInt8) : List Char :=
  bytes.flatMap byte

/-! ## §2 Reading -/

/-- The value of a digit, in either case. -/
def digitValue? (c : Char) : Option Nat :=
  let n := c.toNat
  if 48 ≤ n ∧ n < 58 then some (n - 48)
  else if 65 ≤ n ∧ n < 71 then some (n - 55)
  else if 97 ≤ n ∧ n < 103 then some (n - 87)
  else none

/-- Reads pairs of digits with ASCII blanks between them, from position `position` on.  The error
is the position of the first character that is out of place; an unfinished pair at the end is out
of place at the end. -/
def readFrom (position : Nat) : List Char → Except Nat (List UInt8)
  | [] => .ok []
  | c :: rest =>
    if isAsciiBlank c then readFrom (position + 1) rest
    else
      match digitValue? c, rest with
      | none, _ => .error position
      | some _, [] => .error (position + 1)
      | some high, d :: rest =>
        match digitValue? d with
        | none => .error (position + 1)
        | some low => (readFrom (position + 2) rest).map ((16 * high + low).toUInt8 :: ·)

/-- The bytes that pairs of digits spell, or the position of a defect: of the first character
beyond ASCII if there is one, else of the first that is out of place. -/
def read (s : List Char) : Except Nat (List UInt8) :=
  match s.findIdx? fun c => decide (128 ≤ c.toNat) with
  | some position => .error position
  | none => readFrom 0 s

end SectorDisk.Text.Hex
