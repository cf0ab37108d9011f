import SectorDisk.Lock
import SectorDisk.Report
import SectorDisk.Text.Json

/-!
# Failures

Everything that can go wrong, by cause.  `Failure.report` words each cause; nothing else does.
-/

namespace SectorDisk

/-! ## §1 Causes -/

/-- The layouts of control payloads. -/
inductive Layout where
  /-- A sector index. -/
  | sector
  /-- A sector and a key. -/
  | unlock
  /-- The protection of all sectors. -/
  | lockInfo
  /-- The path of a backup file. -/
  | backupPath
  deriving DecidableEq, Repr

/-- The size of a payload in bytes. -/
def Layout.size : Layout → Nat
  | .sector => 4
  | .unlock => 4
  | .lockInfo => 8
  | .backupPath => 256

/-- What a payload is called in messages. -/
def Layout.title : Layout → String
  | .sector => "sector"
  | .unlock => "unlock request"
  | .lockInfo => "lock info"
  | .backupPath => "backup path"

/-- The changes that a protected sector refuses. -/
inductive Change where
  /-- Writing bytes. -/
  | write
  /-- Filling with zeros. -/
  | erase
  deriving DecidableEq, Repr

/-- Why a value does not fit the four bytes of a sector index. -/
inductive Unencodable where
  /-- It is no integer. -/
  | notInteger
  /-- It does not fit 64 bits. -/
  | outside64
  /-- It does not fit 32 bits. -/
  | outside32
  deriving DecidableEq, Repr

/-- Ways to compare two values. -/
inductive Comparison where
  /-- The first is less. -/
  | less
  /-- The first is not greater. -/
  | atMost
  /-- The first is not less. -/
  | atLeast
  deriving DecidableEq, Repr

/-- The sign of a comparison. -/
def Comparison.sign : Comparison → String
  | .less => "<"
  | .atMost => "<="
  | .atLeast => ">="

/-- Why something failed. -/
inductive Failure where
  /-- The sector is no integer but of the named type. -/
  | sectorType (type : String)
  /-- The disk has no such sector. -/
  | sectorRange (sector : Int)
  /-- The sector is protected. -/
  | locked (sector : Sector) (change : Change)
  /-- The key unlocks nothing. -/
  | keyRefused (sector : Sector)
  /-- The write begins past the end. -/
  | noSpace (offset : Nat)
  /-- A wait for a lock was given up. -/
  | interrupted (why : Refusal) (lock : String) (operation : Option String)
  /-- The lock is taken by the very party that asks for it. -/
  | reentered (lock : String)
  /-- The lock is not the party's to release. -/
  | notOwner (lock : String)
  /-- The named argument is no integer. -/
  | notInteger (argument : String)
  /-- The named argument is negative. -/
  | negative (argument : String)
  /-- The data to write is of the named type. -/
  | writeType (type : String)
  /-- The data to write does not lie in one piece. -/
  | writeSpaced
  /-- The data to mirror is of the named type. -/
  | mirrorType (type : String)
  /-- The data to mirror has too few bytes. -/
  | mirrorSize (size : Nat)
  /-- The data to mirror does not lie in one piece. -/
  | mirrorSpaced
  /-- No path was given for a backup. -/
  | emptyPath
  /-- The path of a backup is of the named type. -/
  | pathType (type : String)
  /-- A path, given as text, has a NUL character. -/
  | pathNul
  /-- A path for the named request, given as bytes, has a NUL. -/
  | pathNulByte (request : String)
  /-- The backup file could not be opened. -/
  | openFailed (path cause : Value)
  /-- The backup file could not be written. -/
  | writeFailed (path cause : Value)
  /-- The backup file took only `written` bytes. -/
  | incomplete (path : Value) (written : Nat)
  /-- The payload is of the named type. -/
  | payloadType (layout : Layout) (type : String)
  /-- The payload has the wrong size. -/
  | payloadSize (layout : Layout) (size : Nat)
  /-- The payload does not lie in one piece. -/
  | payloadSpaced
  /-- The payload has as many items as its layout has bytes, but not as many bytes. -/
  | payloadWide (layout : Layout)
  /-- The query for lock information came with a payload. -/
  | payloadExcess
  /-- The sector index does not fit its payload. -/
  | sectorUnencodable (why : Unencodable)
  /-- The list of protections has the wrong length. -/
  | bitmapSize (size : Nat)
  /-- The named type has no length. -/
  | noLength (type : String)
  /-- The path to encode has a NUL byte. -/
  | encodedNul
  /-- The path to encode is too long. -/
  | encodedLength
  /-- The payload of a path does not end its path. -/
  | pathUnterminated
  /-- The payload of a path is no text. -/
  | pathMalformed (defect : Text.Utf8.Malformed)
  /-- The sector of an unlock request is no integer. -/
  | unlockSectorType
  /-- The sector of an unlock request does not fit. -/
  | unlockSectorRange (sector : Int)
  /-- The key of an unlock request is no single character. -/
  | unlockKeyShape
  /-- The key of an unlock request is wider than a byte. -/
  | unlockKeyWide (key : Text.Point)
  /-- More keys than may be configured. -/
  | keyCount (count : Nat)
  /-- A configured key is no single character. -/
  | keyShape (key : Value)
  /-- A configured key is wider than a byte. -/
  | keyWide (key : Text.Point)
  /-- The named type has no elements. -/
  | notIterable (type : String)
  /-- The device is closed. -/
  | deviceClosed
  /-- The handle is closed. -/
  | handleClosed
  /-- The cursor cannot be moved from there. -/
  | whence (origin : Value)
  /-- The cursor would become negative. -/
  | cursorNegative
  /-- The two named types have no order. -/
  | unordered (comparison : Comparison) (left right : String)
  /-- The two named types cannot be added. -/
  | unaddable (left right : String)
  /-- The named type cannot be divided by an integer. -/
  | indivisible (type : String)
  /-- An integer too large to become a float. -/
  | floatOverflow
  /-- The command is none of the six. -/
  | unsupported (command : Value)
  /-- The named type does not convert to bytes. -/
  | notBytes (type : String)
  /-- UTF-8 has no bytes for a text. -/
  | unwritable (stretch : Text.Utf8.Unwritable)
  /-- The named type does not stand for an integer. -/
  | notIndex (type : String)
  /-- A number outside the range of bytes. -/
  | byteRange
  /-- A negative number of bytes. -/
  | negativeCount
  /-- A number of bytes that does not fit 64 bits. -/
  | countOverflow
  /-- A number of bytes that no byte string can have. -/
  | sizeOverflow
  /-- More bytes than there is room for. -/
  | noRoom
  /-- The count of a waiting error does not fit 64 bits. -/
  | waitingCount
  /-- Text for bytes has a misplaced character. -/
  | hexData (position : Nat)
  /-- A key on the command line is no single character. -/
  | optionKey (key : Value)
  /-- A dump without width. -/
  | zeroWidth
  /-- Numbers of the named type have no hexadecimal form. -/
  | unhexable (type : String)
  /-- The named type lacks a feature. -/
  | lacking (type feature : String)
  /-- A text is asked for at the beginning of a byte string. -/
  | textAtStart
  /-- A byte string is needed where the named type is given. -/
  | bytesNeeded (type : String)
  /-- The name of a log level that does not exist. -/
  | unknownLevel (name : String)
  /-- A line with an open quote. -/
  | openQuote
  /-- A line that ends with an escape. -/
  | openEscape
  /-- The setting of the keys cannot be read. -/
  | unreadableKeys (flaw : Text.Json.Flaw)
  /-- The demonstration read back other bytes than it wrote. -/
  | readBack

/-! ## §2 Wording of nested causes -/

/-- A code point as a hexadecimal escape. -/
def pointEscape (p : Text.Point) : String :=
  String.ofList p.numericEscape

/-- The text on a code point that does not fit a byte. -/
def narrowText (p : Text.Point) : String :=
  "'latin-1' codec can't encode character '" ++ pointEscape p
    ++ "' in position 0: ordinal not in range(256)"

/-- The text on a stretch that UTF-8 has no bytes for. -/
def unwritableText (u : Text.Utf8.Unwritable) : String :=
  let place :=
    if u.more = 0 then
      " '" ++ pointEscape (.half u.first) ++ "' in position " ++ toString u.position
    else "s in position " ++ toString u.position ++ "-" ++ toString (u.position + u.more)
  "'utf-8' codec can't encode character" ++ place ++ ": surrogates not allowed"

/-- The text on bytes that are no UTF-8. -/
def malformedText (m : Text.Utf8.Malformed) : String :=
  let place :=
    if m.extent = 1 then
      "byte 0x" ++ String.ofList (Text.Hex.byte m.lead) ++ " in position " ++ toString m.position
    else
      "bytes in position " ++ toString m.position ++ "-" ++ toString (m.position + m.extent - 1)
  let nature :=
    match m.defect with
    | .badLead => "invalid start byte"
    | .badContinuation => "invalid continuation byte"
    | .endsEarly => "unexpected end of data"
  "'utf-8' codec can't decode " ++ place ++ ": " ++ nature

/-- The text on a value that needs to be a byte string. -/
def bytesNeededText (type : String) : String :=
  "memoryview: a bytes-like object is required, not '" ++ type ++ "'"

/-- The text on a view whose bytes do not lie in one piece, where it is to be taken for bytes. -/
def spacedText : String :=
  "memoryview: casts are restricted to C-contiguous views"

/-- The text on two types that an operator does not join. -/
def unsupportedText (operator left right : String) : String :=
  "unsupported operand type(s) for " ++ operator ++ ": '" ++ left ++ "' and '" ++ right ++ "'"

/-- The text on two types that cannot be added; texts, lists and byte strings are joined only with
their like. -/
def unaddableText (left right : String) : String :=
  if left = "str" ∨ left = "list" then
    "can only concatenate " ++ left ++ " (not \"" ++ right ++ "\") to " ++ left
  else if left = "bytes" ∨ left = "bytearray" then "can't concat " ++ right ++ " to " ++ left
  else unsupportedText "+" left right

/-- The text on a count that does not fit 64 bits. -/
def wideCountText : String :=
  "cannot fit 'int' into an index-sized integer"

/-- The text on a value that does not fit a sector index. -/
def Unencodable.text : Unencodable → String
  | .notInteger => "required argument is not an integer"
  | .outside64 => "argument out of range"
  | .outside32 => "'i' format requires -2147483648 <= number <= 2147483647"

/-- What is said on a given-up wait. -/
def Refusal.text : Refusal → String
  | .cancelled => "Cancelled"
  | .interrupted => "Interrupted"

/-! ## §3 Reports -/

/-- A report of a malformed argument. -/
def invalidArgument (message argument : String) (cause : Option String) : Report :=
  .of .invalidArgument message
    [.string argument, match cause with | none => .none | some text => .string text]

/-- The report of a cause. -/
def Failure.report : Failure → Report
  | sectorType type => .of .invalidSector ("Sector index must be an integer, got " ++ type) []
  | sectorRange sector => .of .invalidSector "Sector index out of range [0, 8)" [.int sector]
  | locked sector .write =>
    .of .sectorLocked "Sector is locked" [.int sector.val, .string "write"]
  | locked sector .erase =>
    .of .sectorLocked "Cannot erase locked sector" [.int sector.val, .string "erase"]
  | keyRefused sector => .of .permissionDenied "Invalid unlock key" [.int sector.val]
  | noSpace offset => .of .outOfSpace "No space left on device" [.int offset]
  | interrupted why lock operation =>
    .of .interrupted (why.text ++ " while waiting for " ++ lock)
      [match operation with | none => .none | some name => .string name]
  | reentered lock => .of .misuse (lock ++ " is not reentrant") []
  | notOwner lock => .of .misuse ("Cannot release " ++ lock ++ ": not the owner") []
  | notInteger argument => invalidArgument (argument ++ " must be an integer") argument none
  | negative argument => invalidArgument (argument ++ " must not be negative") argument none
  | writeType type =>
    invalidArgument "Write data must be a bytes-like object" "data" (bytesNeededText type)
  | writeSpaced =>
    invalidArgument "Write data must be a bytes-like object" "data" spacedText
  | mirrorType type =>
    invalidArgument "Mirror data must be a bytes-like object" "data" (bytesNeededText type)
  | mirrorSize size =>
    invalidArgument ("Mirror data must hold 512 bytes, got " ++ toString size) "data" none
  | mirrorSpaced => .of .wrongType spacedText []
  | emptyPath => invalidArgument "Backup path must not be empty" "path" none
  | pathType type =>
    .of .wrongType ("expected str, bytes or os.PathLike object, not " ++ type) []
  | pathNul => .of .wrongValue "embedded null byte" []
  | pathNulByte request =>
    .of .wrongValue (request ++ ": embedded null character in path") []
  | openFailed path cause => .of .storageIO "Failed to open backup file" [path, cause]
  | writeFailed path cause => .of .storageIO "Failed to write backup file" [path, cause]
  | incomplete path written =>
    .of .incompleteWrite "Backup file write incomplete" [path, .int written, .int diskSize]
  | payloadType layout type =>
    invalidArgument (layout.title ++ " payload must be bytes, got " ++ type) "payload" none
  | payloadSize layout size =>
    invalidArgument
      (layout.title ++ " payload must be " ++ toString layout.size ++ " bytes, got "
        ++ toString size) "payload" none
  | payloadSpaced => .of .unsolid "memoryview: underlying buffer is not C-contiguous" []
  | payloadWide layout =>
    .of .unfilled ("unpack requires a buffer of " ++ toString layout.size ++ " bytes") []
  | payloadExcess => invalidArgument "GET_LOCK_INFO takes no input payload" "payload" none
  | sectorUnencodable why =>
    invalidArgument "Sector index does not fit the payload" "sector" why.text
  | bitmapSize size =>
    invalidArgument ("Lock bitmap must have 8 entries, got " ++ toString size) "bitmap" none
  | noLength type => .of .wrongType ("object of type '" ++ type ++ "' has no len()") []
  | encodedNul => invalidArgument "Backup path must not contain NUL bytes" "path" none
  | encodedLength => invalidArgument "Backup path must be shorter than 256 bytes" "path" none
  | pathUnterminated => invalidArgument "Backup path payload is not NUL terminated" "path" none
  | pathMalformed defect =>
    invalidArgument "Backup path is not valid UTF-8" "path" (malformedText defect)
  | unlockSectorType => invalidArgument "UnlockRequest sector must be an integer" "sector" none
  | unlockSectorRange sector =>
    invalidArgument ("UnlockRequest sector " ++ toString sector ++ " does not fit in 3 bits")
      "sector" none
  | unlockKeyShape =>
    invalidArgument "UnlockRequest key must be a single character" "key" none
  | unlockKeyWide key =>
    invalidArgument "UnlockRequest key must be a single byte character" "key" (narrowText key)
  | keyCount count =>
    invalidArgument ("At most 8 keys may be configured, got " ++ toString count) "keys" none
  | keyShape key =>
    invalidArgument ("Key " ++ key.quoted ++ " is not a single character") "keys" none
  | keyWide key =>
    invalidArgument
      ("Key " ++ Text.quotedPoints [key] ++ " does not fit in a single byte") "keys"
      (narrowText key)
  | notIterable type => .of .wrongType ("'" ++ type ++ "' object is not iterable") []
  | deviceClosed => invalidArgument "Storage device is closed" "device" none
  | handleClosed => invalidArgument "Device handle is closed" "handle" none
  | whence origin => invalidArgument ("Invalid whence " ++ origin.text) "whence" none
  | cursorNegative => invalidArgument "Resulting position must not be negative" "offset" none
  | unordered comparison left right =>
    .of .wrongType
      ("'" ++ comparison.sign ++ "' not supported between instances of '" ++ left ++ "' and '"
        ++ right ++ "'") []
  | unaddable left right => .of .wrongType (unaddableText left right) []
  | indivisible type => .of .wrongType (unsupportedText "//" type "int") []
  | floatOverflow => .of .overflow "int too large to convert to float" []
  | unsupported command => .of .unsupportedOperation "Unsupported control command" [command]
  | notBytes type => .of .wrongType ("cannot convert '" ++ type ++ "' object to bytes") []
  | unwritable stretch => .of .unwritable (unwritableText stretch) []
  | notIndex type =>
    .of .wrongType ("'" ++ type ++ "' object cannot be interpreted as an integer") []
  | byteRange => .of .wrongValue "bytes must be in range(0, 256)" []
  | negativeCount => .of .wrongValue "negative count" []
  | countOverflow => .of .overflow wideCountText []
  | sizeOverflow => .of .overflow "byte string is too large" []
  | noRoom => .of .memory "" []
  | waitingCount => .of .wrongValue wideCountText []
  | hexData position =>
    .of .badOption
      ("Invalid hex data: non-hexadecimal number found in fromhex() arg at position "
        ++ toString position) []
  | optionKey key => .of .badOption ("Key " ++ key.quoted ++ " is not a single character") []
  | zeroWidth => .of .wrongValue "range() arg 3 must not be zero" []
  | unhexable type =>
    .of .wrongValue ("Unknown format code 'x' for object of type '" ++ type ++ "'") []
  | lacking type feature =>
    .of .lacking ("'" ++ type ++ "' object has no attribute '" ++ feature ++ "'") []
  | textAtStart =>
    .of .wrongType "startswith first arg must be bytes or a tuple of bytes, not str" []
  | bytesNeeded type =>
    .of .wrongType ("a bytes-like object is required, not '" ++ type ++ "'") []
  | unknownLevel name => .of .wrongValue ("Unknown level: " ++ Text.quoted name) []
  | openQuote => .of .wrongValue "No closing quotation" []
  | openEscape => .of .wrongValue "No escaped character" []
  | unreadableKeys (.tooDeep nest) =>
    .of .exhausted
      ("maximum recursion depth exceeded while decoding a JSON " ++ nest.name
        ++ " from a unicode string") []
  | unreadableKeys .malformed =>
    .of .badSetting "error parsing value for field \"keys\" from source \"EnvSettingsSource\"" []
  | readBack => .of .misuse "Sector 0 read back does not match" []

/-- The text of a cause. -/
def Failure.message (f : Failure) : String :=
  f.report.text

/-- The kind of a cause. -/
def Failure.kind (f : Failure) : Kind :=
  f.report.kind

end SectorDisk
