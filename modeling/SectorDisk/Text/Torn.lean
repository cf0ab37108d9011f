import SectorDisk.Text.Quoted
import SectorDisk.Text.Utf8

/-!
# Torn texts

A text is a row of code points.  All but 2048 of them are characters; the others are the halves of
surrogate pairs, which mean something only to an encoding that writes one character as two of them.
A text with a lone half in it is torn: UTF-8 has no bytes for it, unless the half escapes a byte of
a path that is no UTF-8 itself.
-/

namespace SectorDisk.Text

/-! ## §1 Code points -/

/-- A half of a surrogate pair: a code point from U+D800 to U+DFFF. -/
structure Surrogate where
  /-- The place among the halves. -/
  index : Fin 2048
  deriving DecidableEq, Repr

/-- The number of the code point. -/
def Surrogate.code (s : Surrogate) : Nat :=
  0xD800 + s.index.val

/-- The byte that the half escapes in a path: U+DC80 to U+DCFF stand for the bytes that are not
ASCII. -/
def Surrogate.byte? (s : Surrogate) : Option UInt8 :=
  if 0xDC80 ≤ s.code ∧ s.code ≤ 0xDCFF then some (s.code - 0xDC00).toUInt8 else none

/-- A code point. -/
inductive Point where
  /-- A character. -/
  | char (c : Char)
  /-- A half of a surrogate pair. -/
  | half (s : Surrogate)
  deriving DecidableEq, Repr

namespace Point

/-- The character, if the code point is one. -/
def char? : Point → Option Char
  | char c => some c
  | half _ => none

/-- Whether the code point is no character. -/
def isHalf (p : Point) : Bool :=
  p.char?.isNone

/-- Whether the code point is a character that a test holds of. -/
def isCharWith (test : Char → Bool) (p : Point) : Bool :=
  p.char?.any test

/-- The escape of a code point by its number. -/
def numericEscape : Point → List Char
  | char c => Text.numericEscape c
  | half s => backslash :: 'u' :: Hex.padded 4 s.code

/-- How a code point reads in a message: a half has no other form than its escape. -/
def shown : Point → List Char
  | char c => [c]
  | half s => (half s).numericEscape

/-- One code point between quotes. -/
def escape (quote : Char) : Point → List Char
  | char c => escapeChar quote isPrintable c
  | half s => (half s).numericEscape

end Point

/-- Code points as they read in a message. -/
def shownPoints (points : List Point) : String :=
  String.ofList (points.flatMap Point.shown)

/-- Code points between quotes. -/
def quotedPoints (points : List Point) : String :=
  let quote := quoteFor (points.filterMap Point.char?)
  String.ofList (quote :: points.flatMap (Point.escape quote) ++ [quote])

/-! ## §2 Texts with a lone half -/

/-- A text that has a lone half of a surrogate pair. -/
structure Torn where
  /-- The characters before the first half. -/
  before : List Char
  /-- The first half. -/
  first : Surrogate
  /-- The code points behind it. -/
  after : List Point
  deriving DecidableEq, Repr

namespace Torn

/-- The code points of the text. -/
def points (t : Torn) : List Point :=
  t.before.map Point.char ++ .half t.first :: t.after

/-- The text with a character put in front of it. -/
def behind (c : Char) (t : Torn) : Torn :=
  { t with before := c :: t.before }

/-- The characters that code points are, or the torn text that they are. -/
def ofPoints : List Point → Except Torn (List Char)
  | [] => .ok []
  | .half s :: rest => .error ⟨[], s, rest⟩
  | .char c :: rest =>
    match ofPoints rest with
    | .ok cs => .ok (c :: cs)
    | .error t => .error (t.behind c)

end Torn

/-! ## §3 Writing as bytes -/

/-- The first stretch of a text that UTF-8 has no bytes for. -/
structure Utf8.Unwritable where
  /-- Where the stretch begins. -/
  position : Nat
  /-- Its first half. -/
  first : Surrogate
  /-- How many halves follow. -/
  more : Nat
  deriving DecidableEq, Repr

/-- The stretch of halves that begins at a position. -/
def Utf8.Unwritable.at (position : Nat) (first : Surrogate) (rest : List Point) :
    Utf8.Unwritable :=
  ⟨position, first, (rest.takeWhile Point.isHalf).length⟩

/-- Why UTF-8 has no bytes for the text. -/
def Torn.unwritable (t : Torn) : Utf8.Unwritable :=
  .at t.before.length t.first t.after

/-- The bytes of code points from a position on, where halves may escape bytes. -/
def escapedFrom (position : Nat) : List Point → Except Utf8.Unwritable (List UInt8)
  | [] => .ok []
  | .char c :: rest => (escapedFrom (position + 1) rest).map (Utf8.encodeChar c ++ ·)
  | .half s :: rest =>
    match s.byte? with
    | some b => (escapedFrom (position + 1) rest).map (b :: ·)
    | none => .error (.at position s rest)

/-- The bytes of a torn text as a path. -/
def Torn.escaped (t : Torn) : Except Utf8.Unwritable (List UInt8) :=
  escapedFrom 0 t.points

end SectorDisk.Text
