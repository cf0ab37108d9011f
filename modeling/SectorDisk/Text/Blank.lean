/-!
# Blank characters

The characters that stand for white space (`isBlank`, 29 of them), and stripping them from both
ends of a text.
-/

namespace SectorDisk.Text

/-- Blank characters: white space and the separators that Unicode counts as such. -/
def isBlank (c : Char) : Bool :=
  let n := c.toNat
  (9 ≤ n && n ≤ 13) || (28 ≤ n && n ≤ 32) || n == 0x85 || n == 0xa0 || n == 0x1680
    || (0x2000 ≤ n && n ≤ 0x200a) || n == 0x2028 || n == 0x2029 || n == 0x202f || n == 0x205f
    || n == 0x3000

/-- The six blank characters of ASCII text that numbers and hexadecimal digits may stand between. -/
def isAsciiBlank (c : Char) : Bool :=
  c.toNat == 32 || (9 ≤ c.toNat && c.toNat ≤ 13)

/-- Drops from both ends what `drop` holds of. -/
def trimWith {α : Type} (drop : α → Bool) (s : List α) : List α :=
  ((s.dropWhile drop).reverse.dropWhile drop).reverse

/-- The text without the blank characters at its ends. -/
def strip (s : List Char) : List Char :=
  trimWith isBlank s

end SectorDisk.Text
