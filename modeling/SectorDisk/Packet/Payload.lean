import SectorDisk.Key
import SectorDisk.Packet.Integer

/-!
# Control payloads

The four fixed layouts in which arguments of control commands travel: a sector index, an unlock
request, the protection of all sectors, and the path of a backup file.  Each has an encoder and a
decoder; a decoder takes any byte string of the right size and refuses everything else.
-/

namespace SectorDisk.Packet

/-! ## §1 Sizes -/

/-- Lets a byte string or view pass that has as many items as the layout has bytes. -/
def checkSize (layout : Layout) (v : Value) : Except Failure Unit :=
  match v.itemCount? with
  | none => .error (.payloadType layout v.typeName)
  | some count => if count = layout.size then .ok () else .error (.payloadSize layout count)

/-- The bytes from which a record of the given layout is read: they have to lie in one piece and to
fill the record. -/
def recordBytes (layout : Layout) (v : Value) : Except Failure Bytes :=
  match v.bytes? with
  | none => .error .payloadSpaced
  | some data => if data.length = layout.size then .ok data else .error (.payloadWide layout)

/-- The bytes of a payload of the given layout. -/
def payload (layout : Layout) (v : Value) : Except Failure Bytes := do
  checkSize layout v
  recordBytes layout v

/-! ## §2 Sector index -/

/-- The payload of an integer. -/
def Index.encodeInt (n : Int) : Except Failure Bytes :=
  if n < -9223372036854775808 ∨ 9223372036854775807 < n then
    .error (.sectorUnencodable .outside64)
  else if n < -2147483648 ∨ 2147483647 < n then .error (.sectorUnencodable .outside32)
  else .ok (int32Bytes n)

/-- The payload of a sector index; truth values count as 0 and 1. -/
def Index.encode : Value → Except Failure Bytes
  | .int n => Index.encodeInt n
  | .bool b => Index.encodeInt (if b then 1 else 0)
  | _ => .error (.sectorUnencodable .notInteger)

/-- The sector index of a payload. -/
def Index.decode (v : Value) : Except Failure Int :=
  (payload .sector v).map int32OfBytes

/-! ## §3 Unlock request -/

/-- A sector and the key to unlock it with. -/
structure Unlock where
  /-- The sector. -/
  sector : Sector
  /-- The key. -/
  key : Key
  deriving DecidableEq

/-- The key of an unlock request. -/
def Unlock.readKey (v : Value) : Except Failure Key :=
  match v.onlyPoint? with
  | none => .error .unlockKeyShape
  | some p =>
    match Key.ofPoint? p with
    | none => .error (.unlockKeyWide p)
    | some k => .ok k

/-- The request for a sector and a key of any type; the sector is judged first. -/
def Unlock.make (sector key : Value) : Except Failure Unlock :=
  match sector with
  | .int n =>
    match Sector.ofIndex? n with
    | some s => (Unlock.readKey key).map fun k => ⟨s, k⟩
    | none => .error (.unlockSectorRange n)
  | _ => .error .unlockSectorType

/-- The payload of a request: sector, key and two idle bytes. -/
def Unlock.encode (r : Unlock) : Bytes :=
  [r.sector.val.toUInt8, r.key.byte, 0, 0]

/-- The request of a payload; the idle bytes may hold anything. -/
def Unlock.decode (v : Value) : Except Failure Unlock := do
  let data ← payload .unlock v
  match data with
  | s :: k :: _ => Unlock.make (.int s.toNat) (.string (String.singleton (Key.ofByte k).char))
  | _ => .error (.payloadSize .unlock data.length)

/-! ## §4 Protection of all sectors -/

/-- One byte per truth value. -/
def flagBytes (flags : List Bool) : Bytes :=
  flags.map fun b => if b then 1 else 0

/-- The payload of eight truth values of any type. -/
def Protection.encode (v : Value) : Except Failure Bytes :=
  match v.elements? with
  | none => .error (.noLength v.typeName)
  | some items =>
    if items.length = 8 then .ok (flagBytes (items.map Value.isTrue))
    else .error (.bitmapSize items.length)

/-- The eight truth values of a payload; every byte but zero is true. -/
def Protection.decode (v : Value) : Except Failure (List Bool) :=
  (payload .lockInfo v).map fun data => data.map (· != 0)

/-! ## §5 Path of a backup file -/

/-- One byte from a list of numbers. -/
def readByte : Value → Except Failure UInt8
  | .int n => if 0 ≤ n ∧ n < 256 then .ok n.toNat.toUInt8 else .error .byteRange
  | .bool b => .ok (if b then 1 else 0)
  | v => .error (.notIndex v.typeName)

/-- The bytes from a list of numbers. -/
def readBytes : List Value → Except Failure Bytes
  | [] => .ok []
  | v :: rest => do
    let b ← readByte v
    return b :: (← readBytes rest)

/-- The most bytes that a byte string can have. -/
def longestBytes : Nat := 9223372036854775774

/-- How many bytes there is room for. -/
def byteRoom : Nat := Nat.pow 2 35

/-- The zeros that a number stands for, cut down to one, which is enough to refuse a path. -/
def zeroBytes (n : Int) : Except Failure Bytes :=
  if n < -9223372036854775808 ∨ 9223372036854775807 < n then .error .countOverflow
  else if n < 0 then .error .negativeCount
  else if longestBytes < n then .error .sizeOverflow
  else if byteRoom ≤ n then .error .noRoom
  else .ok (if n = 0 then [] else [0])

/-- The bytes that a path of any type stands for: a text in UTF-8, a byte string or view as it is, a
list of numbers, and a number as zeros. -/
def Path.bytes : Value → Except Failure Bytes
  | .string s => .ok (Text.Utf8.encode s)
  | .torn t => .error (.unwritable t.unwritable)
  | .path s => .ok (Text.Utf8.encode s)
  | .bytes _ data => .ok data
  | .view v => .ok v.content
  | .list items => readBytes items
  | .int n => zeroBytes n
  | .bool b => zeroBytes (if b then 1 else 0)
  | v => .error (.notBytes v.typeName)

/-- The payload of a path: its bytes, then zeros, at least one. -/
def Path.encodeBytes (raw : Bytes) : Except Failure Bytes :=
  if raw.contains 0 then .error .encodedNul
  else if Layout.backupPath.size ≤ raw.length then .error .encodedLength
  else .ok (raw ++ List.replicate (Layout.backupPath.size - raw.length) 0)

/-- The payload of a path of any type. -/
def Path.encode (v : Value) : Except Failure Bytes := do
  Path.encodeBytes (← Path.bytes v)

/-- The text before the first zero of bytes. -/
def Path.text (data : Bytes) : Except Failure String :=
  if data.contains 0 then
    match Text.Utf8.decode (data.takeWhile (· ≠ 0)) with
    | .ok s => .ok s
    | .error defect => .error (.pathMalformed defect)
  else .error .pathUnterminated

/-- The path of a payload.  No record is read here, so that the bytes need not lie in one piece. -/
def Path.decode (v : Value) : Except Failure String := do
  checkSize .backupPath v
  Path.text (v.held?.getD [])

end SectorDisk.Packet
