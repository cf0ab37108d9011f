import SectorDisk.Failure
import SectorDisk.Text.Integer
import SectorDisk.Text.LowerCase

/-!
# Reading what is typed

The texts that a user types for data and keys, the hex dump that shows data, and the words that end
a session or ask for help.
-/

namespace SectorDisk.Console

/-! ## §1 Data and keys -/

/-- What introduces bytes in hexadecimal. -/
def hexMark : List Char := ['h', 'e', 'x', ':']

/-- The bytes that a text stands for: behind `hex:` pairs of digits, else the text in UTF-8. -/
def readData (s : String) : Except Failure Bytes :=
  if hexMark.isPrefixOf s.toList then
    match Text.Hex.read (s.toList.drop hexMark.length) with
    | .ok bytes => .ok bytes
    | .error position => .error (.hexData position)
  else .ok (Text.Utf8.encode s)

/-- What introduces a key behind another. -/
def isComma (c : Char) : Bool :=
  c = ','

/-- The pieces of a row between its marks. -/
def piecesBetween {α : Type} (isMark : α → Bool) : List α → List (List α)
  | [] => [[]]
  | a :: rest =>
    if isMark a then [] :: piecesBetween isMark rest
    else
      match piecesBetween isMark rest with
      | [] => [[a]]
      | piece :: pieces => (a :: piece) :: pieces

/-- The keys in a row with marks between them: blanks around a key and empty places do not count.
The error is the first that is no single element. -/
def keyPieces {α : Type} (isMark isBlank : α → Bool) (row : List α) :
    Except (List α) (List (List α)) :=
  let pieces := ((piecesBetween isMark row).map (Text.trimWith isBlank)).filter (!·.isEmpty)
  match pieces.find? fun piece => decide (piece.length ≠ 1) with
  | some piece => .error piece
  | none => .ok pieces

/-- The keys of a list with commas. -/
def readKeyList (s : String) : Except Failure (List String) :=
  match keyPieces isComma Text.isBlank s.toList with
  | .ok pieces => .ok (pieces.map String.ofList)
  | .error piece => .error (.optionKey (.string (String.ofList piece)))

/-! ## §2 Hex dump -/

/-- Consecutive pieces of `width` elements, the last of which may be shorter. -/
def chunks {α : Type} (width : Nat) (xs : List α) : List (List α) :=
  match xs with
  | [] => []
  | x :: rest => (x :: rest.take (width - 1)) :: chunks width (rest.drop (width - 1))
termination_by xs.length
decreasing_by simp only [List.length_drop, List.length_cons]; omega

/-- One line of a dump: the address in eight or more places, then the bytes. -/
def dumpLine (address : Int) (bytes : Bytes) : String :=
  String.ofList (Text.Hex.signed 8 address ++ [' ', ' '] ++ Text.Hex.spaced bytes)

/-- The lines of a dump whose first address is `base`, with `width` bytes a line. -/
def dumpLines (base : Int) (width : Nat) (bytes : Bytes) : List String :=
  (chunks width bytes).zipIdx.map fun entry => dumpLine (base + entry.2 * width) entry.1

/-- A dump as text.  No line is shown for a negative width, and a width of zero is refused. -/
def hexDump (bytes : Bytes) (base width : Int) : Except Failure String :=
  if width = 0 then .error .zeroWidth
  else if width < 0 then .ok ""
  else .ok ("\n".intercalate (dumpLines base width.toNat bytes))

/-- The address at which a dump begins, judged when its first line is written. -/
def dumpBase (v : Value) : Except Failure Int :=
  match v with
  | .int n => .ok n
  | .bool b => .ok (if b then 1 else 0)
  | .number n => .error (.unhexable n.typeName)
  | v => .error (.unaddable v.typeName "int")

/-- The width of a dump. -/
def dumpWidth (v : Value) : Except Failure Int :=
  match v with
  | .int n => .ok n
  | .bool b => .ok (if b then 1 else 0)
  | v => .error (.notIndex v.typeName)

/-- The lines of a dump of items of several bytes, with `width` items a line. -/
def itemLines (base : Int) (width : Nat) (items : List Bytes) : List String :=
  (chunks width items).zipIdx.map fun entry =>
    dumpLine (base + entry.2 * width) entry.1.flatten

/-- A dump of an argument of any type that has elements: only bytes have a hexadecimal form, but
what shows no line needs none. -/
def hexDumpValue (data base width : Value) : Except Failure String := do
  match data.elements? with
  | none => .error (.noLength data.typeName)
  | some elements =>
    let width ← dumpWidth width
    if width = 0 then .error .zeroWidth
    else if width < 0 ∨ elements.isEmpty then .ok ""
    else
      let base ← dumpBase base
      match data with
      | .bytes _ bytes => hexDump bytes base width
      | .view v => .ok ("\n".intercalate (itemLines base width.toNat (v.items.map Vector.toList)))
      | _ => .error (.lacking data.typeName "hex")

/-! ## §3 Words of a session -/

/-- Whether a line ends the session. -/
def isExit (line : String) : Bool :=
  Text.lowerAscii line = "exit" || Text.lowerAscii line = "quit"

/-- Whether a line asks for help. -/
def isHelp (line : String) : Bool :=
  Text.lowerAscii line = "help" || Text.lowerAscii line = "?" || Text.lowerAscii line = "h"

/-! ## §4 Arguments that are no text -/

/-- Why a torn text stands for no bytes: behind `hex:` the first character beyond ASCII is out of
place, and otherwise it has no UTF-8. -/
def tornData (t : Text.Torn) : Failure :=
  if hexMark.isPrefixOf t.before then
    let cs := t.before.drop hexMark.length
    .hexData ((cs.findIdx? fun c => decide (128 ≤ c.toNat)).getD cs.length)
  else .unwritable t.unwritable

/-- The bytes that an argument stands for, which has to be a text. -/
def readDataValue : Value → Except Failure Bytes
  | .string s => readData s
  | .torn t => .error (tornData t)
  | .bytes .view _ => .error (.lacking BytesKind.view.typeName "startswith")
  | .bytes _ _ => .error .textAtStart
  | v => .error (.lacking v.typeName "startswith")

/-- The keys of a torn text. -/
def tornKeys (t : Text.Torn) : Except Failure (List Value) :=
  match keyPieces (Text.Point.isCharWith isComma) (Text.Point.isCharWith Text.isBlank) t.points with
  | .ok pieces => .ok (pieces.map Value.ofPoints)
  | .error piece => .error (.optionKey (.ofPoints piece))

/-- The keys of an argument, which has to be a text. -/
def readKeyListValue : Value → Except Failure (List Value)
  | .string s => (readKeyList s).map (·.map Value.string)
  | .torn t => tornKeys t
  | .bytes .view _ => .error (.lacking BytesKind.view.typeName "split")
  | .bytes _ _ => .error (.bytesNeeded "str")
  | v => .error (.lacking v.typeName "split")

/-- Whether an argument is a text as asked; byte strings are none. -/
def isText (asked : String → Bool) : Value → Except Failure Bool
  | .string s => .ok (asked s)
  | .torn _ => .ok false
  | .bytes .view _ => .error (.lacking BytesKind.view.typeName "lower")
  | .bytes _ _ => .ok false
  | v => .error (.lacking v.typeName "lower")

end SectorDisk.Console
