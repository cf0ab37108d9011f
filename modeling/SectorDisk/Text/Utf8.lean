/-!
# UTF-8

Writing text as bytes (`Utf8.encode`) and reading it back (`Utf8.decode`).  Bytes that are not
UTF-8 are refused with the place, extent and nature of the first defect: the defective stretch is
a lead byte with the continuation bytes after it that still fit.
-/

namespace SectorDisk.Text.Utf8

/-! ## §1 Writing -/

/-- The bytes of one character, one to four of them. -/
def encodeChar (c : Char) : List UInt8 :=
  let n := c.toNat
  if n < 0x80 then [n.toUInt8]
  else if n < 0x800 then [(0xc0 + n / 64).toUInt8, (0x80 + n % 64).toUInt8]
  else if n < 0x10000 then
    [(0xe0 + n / 4096).toUInt8, (0x80 + n / 64 % 64).toUInt8, (0x80 + n % 64).toUInt8]
  else
    [(0xf0 + n / 262144).toUInt8, (0x80 + n / 4096 % 64).toUInt8, (0x80 + n / 64 % 64).toUInt8,
      (0x80 + n % 64).toUInt8]

/-- The bytes of a text. -/
def encode (s : String) : List UInt8 :=
  s.toList.flatMap encodeChar

/-! ## §2 Reading -/

/-- What is wrong at the place where bytes stop being UTF-8. -/
inductive Defect where
  /-- The byte cannot begin a character. -/
  | badLead
  /-- A byte follows that cannot continue the character. -/
  | badContinuation
  /-- The bytes end inside the character. -/
  | endsEarly
  deriving DecidableEq, Repr

/-- The first stretch of bytes that is not UTF-8. -/
structure Malformed where
  /-- Where the stretch begins. -/
  position : Nat
  /-- How many bytes it has. -/
  extent : Nat
  /-- Its first byte. -/
  lead : UInt8
  /-- What is wrong with it. -/
  defect : Defect
  deriving DecidableEq, Repr

/-- A range of bytes, both ends included. -/
structure ByteRange where
  /-- The least byte. -/
  low : UInt8
  /-- The greatest byte. -/
  high : UInt8
  deriving DecidableEq, Repr

/-- Whether the byte lies in the range. -/
def ByteRange.holds (r : ByteRange) (b : UInt8) : Bool :=
  r.low ≤ b && b ≤ r.high

/-- The range of a continuation byte where nothing narrower is asked. -/
def tail : ByteRange := ⟨0x80, 0xbf⟩

/-- What a lead byte announces: its own bits of the code point and the bytes to follow.  The
narrower ranges leave out overlong forms, surrogates and code points past the last plane. -/
def lead? (b : UInt8) : Option (Nat × List ByteRange) :=
  if b < 0x80 then some (b.toNat, [])
  else if b < 0xc2 then none
  else if b < 0xe0 then some (b.toNat - 0xc0, [tail])
  else if b = 0xe0 then some (0, [⟨0xa0, 0xbf⟩, tail])
  else if b = 0xed then some (0xd, [⟨0x80, 0x9f⟩, tail])
  else if b < 0xf0 then some (b.toNat - 0xe0, [tail, tail])
  else if b = 0xf0 then some (0, [⟨0x90, 0xbf⟩, tail, tail])
  else if b < 0xf4 then some (b.toNat - 0xf0, [tail, tail, tail])
  else if b = 0xf4 then some (4, [⟨0x80, 0x8f⟩, tail, tail])
  else none

/-- A character of which the lead byte has been read. -/
structure Begun where
  /-- Where its lead byte stands. -/
  position : Nat
  /-- Its lead byte. -/
  lead : UInt8
  /-- Bytes read of it so far. -/
  extent : Nat
  /-- Bits of its code point read so far. -/
  bits : Nat
  /-- The continuation byte it needs next. -/
  next : ByteRange
  /-- The continuation bytes it needs after that. -/
  due : List ByteRange

/-- The stretch of a character that was begun and not finished. -/
def Begun.malformed (p : Begun) (defect : Defect) : Malformed :=
  ⟨p.position, p.extent, p.lead, defect⟩

/-- Reads characters from a position on, the first of which may have been begun. -/
def decodeFrom (position : Nat) : Option Begun → List UInt8 → Except Malformed (List Char)
  | none, [] => .ok []
  | some p, [] => .error (p.malformed .endsEarly)
  | none, b :: rest =>
    match lead? b with
    | none => .error ⟨position, 1, b, .badLead⟩
    | some (bits, []) => (decodeFrom (position + 1) none rest).map (Char.ofNat bits :: ·)
    | some (bits, next :: due) =>
      decodeFrom (position + 1) (some ⟨position, b, 1, bits, next, due⟩) rest
  | some p, b :: rest =>
    if p.next.holds b then
      let bits := 64 * p.bits + (b.toNat - 0x80)
      match p.due with
      | [] => (decodeFrom (position + 1) none rest).map (Char.ofNat bits :: ·)
      | next :: due =>
        decodeFrom (position + 1)
          (some { p with extent := p.extent + 1, bits := bits, next := next, due := due }) rest
    else .error (p.malformed .badContinuation)

/-- The text that the bytes spell, or the first defect. -/
def decode (bytes : List UInt8) : Except Malformed String :=
  (decodeFrom 0 none bytes).map String.ofList

end SectorDisk.Text.Utf8
