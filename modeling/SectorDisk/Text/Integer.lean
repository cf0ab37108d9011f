import SectorDisk.Text.Blank

/-!
# Integers in text

Reading an integer: blanks around it, an optional sign, then decimal digits of any script with
single underscores between them, at most 4300 digits.
-/

namespace SectorDisk.Text

/-! ## §1 Digits -/

/-- The zeros of the scripts that have decimal digits; the nine other digits follow each. -/
def zeroDigits : List Nat :=
  [
    0x30, 0x660, 0x6f0, 0x7c0, 0x966, 0x9e6, 0xa66, 0xae6, 0xb66, 0xbe6, 0xc66, 0xce6, 0xd66,
    0xde6, 0xe50, 0xed0, 0xf20, 0x1040, 0x1090, 0x17e0, 0x1810, 0x1946, 0x19d0, 0x1a80, 0x1a90,
    0x1b50, 0x1bb0, 0x1c40, 0x1c50, 0xa620, 0xa8d0, 0xa900, 0xa9d0, 0xa9f0, 0xaa50, 0xabf0,
    0xff10, 0x104a0, 0x10d30, 0x11066, 0x110f0, 0x11136, 0x111d0, 0x112f0, 0x11450, 0x114d0,
    0x11650, 0x116c0, 0x11730, 0x118e0, 0x11950, 0x11c50, 0x11d50, 0x11da0, 0x16a60, 0x16ac0,
    0x16b50, 0x1d7ce, 0x1d7d8, 0x1d7e2, 0x1d7ec, 0x1d7f6, 0x1e140, 0x1e2f0, 0x1e950, 0x1fbf0]

/-- The value of a decimal digit of any script. -/
def digitValue? (c : Char) : Option Nat :=
  (zeroDigits.find? fun first => decide (first ≤ c.toNat ∧ c.toNat < first + 10)).map (c.toNat - ·)

/-- Blank characters that may surround a number: the ASCII ones, and those beyond ASCII. -/
def isNumberBlank (c : Char) : Bool :=
  isAsciiBlank c || (127 ≤ c.toNat && isBlank c)

/-! ## §2 Reading -/

/-- The longest run of digits that is read as a number. -/
def digitLimit : Nat := 4300

/-- The values of a run of digits with single underscores between them. -/
def readDigits : List Char → Option (List Nat)
  | [] => none
  | [c] => (digitValue? c).map ([·])
  | c :: '_' :: rest => do
    let d ← digitValue? c
    return d :: (← readDigits rest)
  | c :: rest => do
    let d ← digitValue? c
    return d :: (← readDigits rest)

/-- The number that digits stand for, the first being the most significant. -/
def ofDigits (digits : List Nat) : Nat :=
  digits.foldl (fun n d => 10 * n + d) 0

/-- Reads an unsigned number of at most `digitLimit` digits. -/
def readNatural (s : List Char) : Option Nat := do
  let digits ← readDigits s
  guard (digits.length ≤ digitLimit)
  return ofDigits digits

/-- Reads an integer. -/
def readInteger (s : String) : Option Int :=
  match trimWith isNumberBlank s.toList with
  | '-' :: rest => (readNatural rest).map fun n => -(n : Int)
  | '+' :: rest => (readNatural rest).map Int.ofNat
  | rest => (readNatural rest).map Int.ofNat

end SectorDisk.Text
