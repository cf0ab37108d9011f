/-!
# Small letters

Lower case as far as it leads into ASCII: names and words are compared without regard to case.
-/

namespace SectorDisk.Text

/-- The small form of a letter where that is a letter of ASCII: A to Z, and the sign for kelvin. -/
def lowerLetter (c : Char) : Char :=
  if c.toNat = 0x212a then 'k' else c.toLower

/-- The text with small letters. -/
def lowerAscii (s : String) : String :=
  String.ofList (s.toList.map lowerLetter)

end SectorDisk.Text
