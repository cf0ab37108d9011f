import SectorDisk.Value

/-!
# Failure reports

A report tells a caller what went wrong: its kind, a message, and the context that kind carries.
Its text is the message followed by the context that is present, as in
`Sector is locked (sector=2, operation=write)`.
-/

namespace SectorDisk

/-! ## §1 Kinds -/

/-- The kinds of failure that a caller can tell apart. -/
inductive Kind where
  /-- A sector that the disk does not have. -/
  | invalidSector
  /-- A change of a protected sector. -/
  | sectorLocked
  /-- A key that unlocks nothing. -/
  | permissionDenied
  /-- A write that begins past the end. -/
  | outOfSpace
  /-- A wait that was given up. -/
  | interrupted
  /-- An argument, path or setting that is malformed. -/
  | invalidArgument
  /-- A backup file that could not be opened or written. -/
  | storageIO
  /-- A backup file that took only part of the image. -/
  | incompleteWrite
  /-- A command that the disk does not know. -/
  | unsupportedOperation
  /-- A value of the wrong type. -/
  | wrongType
  /-- A value of the right type that cannot be used. -/
  | wrongValue
  /-- A number too large for its use. -/
  | overflow
  /-- A lock used against its rules. -/
  | misuse
  /-- An option whose text cannot be read. -/
  | badOption
  /-- A setting whose text cannot be read. -/
  | badSetting
  /-- A text that nests too deeply to be read. -/
  | exhausted
  /-- More bytes than there is room for. -/
  | memory
  /-- A value that lacks what is asked of it. -/
  | lacking
  /-- Bytes that are asked for in one piece and do not lie so. -/
  | unsolid
  /-- Bytes that do not fill the record that is to be read from them. -/
  | unfilled
  /-- A text that an encoding has no bytes for. -/
  | unwritable
  deriving DecidableEq, Repr

namespace Kind

/-- The name that callers and metrics know the kind by. -/
def name : Kind → String
  | invalidSector => "InvalidSectorException"
  | sectorLocked => "SectorLockedException"
  | permissionDenied => "PermissionDeniedException"
  | outOfSpace => "OutOfSpaceException"
  | interrupted => "InterruptedException"
  | invalidArgument => "InvalidArgumentException"
  | storageIO => "StorageIOException"
  | incompleteWrite => "IncompleteWriteException"
  | unsupportedOperation => "UnsupportedOperationException"
  | wrongType => "TypeError"
  | wrongValue => "ValueError"
  | overflow => "OverflowError"
  | misuse => "RuntimeError"
  | badOption => "ArgumentTypeError"
  | badSetting => "SettingsError"
  | exhausted => "RecursionError"
  | memory => "MemoryError"
  | lacking => "AttributeError"
  | unsolid => "BufferError"
  | unfilled => "error"
  | unwritable => "UnicodeEncodeError"

/-- The kinds that the disk itself reports. -/
def documented : List Kind :=
  [invalidSector, sectorLocked, permissionDenied, outOfSpace, interrupted, invalidArgument,
    storageIO, incompleteWrite, unsupportedOperation]

/-- The documented kind with a name. -/
def ofName? (s : String) : Option Kind :=
  documented.find? fun k => decide (k.name = s)

/-- Whether failures of the kind concern the writing of a backup file. -/
def concernsFile : Kind → Bool
  | storageIO => true
  | incompleteWrite => true
  | _ => false

/-- The names of the context that reports of the kind carry, in the order in which it is shown. -/
def fields : Kind → List String
  | invalidSector => ["sector"]
  | sectorLocked => ["sector", "operation"]
  | permissionDenied => ["sector"]
  | outOfSpace => ["offset"]
  | interrupted => ["operation"]
  | invalidArgument => ["argument", "cause"]
  | storageIO => ["path", "cause"]
  | incompleteWrite => ["path", "written", "expected"]
  | unsupportedOperation => ["command"]
  | _ => []

end Kind

/-! ## §2 Reports -/

/-- A report of a failure. -/
structure Report where
  /-- What kind of failure it is. -/
  kind : Kind
  /-- What happened; a text in every report of the disk itself. -/
  message : Value
  /-- The context by name; a value of `none` counts as absent. -/
  context : List (String × Value)

namespace Report

/-- A report with the given context values, in the order of the kind's fields. -/
def of (kind : Kind) (message : String) (values : List Value) : Report :=
  ⟨kind, .string message,
    kind.fields.zip (values ++ List.replicate kind.fields.length Value.none)⟩

/-- The detail of one context value, if it is present. -/
def detail? : String × Value → Option String
  | (_, .none) => none
  | (field, value) => some (field ++ "=" ++ value.text)

/-- The details of a report. -/
def details (report : Report) : List String :=
  report.context.filterMap detail?

/-- The whole text of a report. -/
def text (report : Report) : String :=
  match report.details with
  | [] => report.message.text
  | details => report.message.text ++ " (" ++ commaSeparated details ++ ")"

/-- Everything that can be asked of a report by name. -/
def attributes (report : Report) : List (String × Value) :=
  let cause : List (String × Value) :=
    if report.kind = .incompleteWrite then [("cause", Value.none)] else []
  ("message", report.message) :: report.context ++ cause

end Report

/-! ## §3 Reports from arguments -/

/-- Why arguments of any type make no report, or one without a text. -/
inductive Misfit where
  /-- There is no argument of that name. -/
  | unexpected (name : String)
  /-- The named argument is given twice. -/
  | repeated (name : String)
  /-- There are too many arguments. -/
  | excess (given : Nat)
  /-- There is no message. -/
  | silent
  /-- The message, of the named type, is no text and stands alone. -/
  | textless (type : String)
  deriving DecidableEq, Repr

/-- The name under which reports of a kind are made. -/
def Kind.maker (kind : Kind) : String :=
  kind.name ++ ".__init__()"

/-- The names of what reports of a kind are made from, the report itself the first. -/
def Kind.parameters (kind : Kind) : List String :=
  "self" :: "message" :: kind.fields

/-- The text on arguments for a report of a kind. -/
def Misfit.text (kind : Kind) : Misfit → String
  | unexpected name => kind.maker ++ " got an unexpected keyword argument '" ++ name ++ "'"
  | repeated name => kind.maker ++ " got multiple values for argument '" ++ name ++ "'"
  | excess given =>
    kind.maker ++ " takes from 2 to " ++ toString kind.parameters.length
      ++ " positional arguments but " ++ toString (given + 1) ++ " were given"
  | silent => kind.maker ++ " missing 1 required positional argument: 'message'"
  | textless type => "__str__ returned non-string (type " ++ type ++ ")"

/-- The report on arguments for a report of a kind. -/
def Misfit.report (kind : Kind) (m : Misfit) : Report :=
  .of .wrongType (m.text kind) []

namespace Report

/-- What is wrong with a named argument beside `given` arguments without names. -/
def misnamed? (kind : Kind) (given : Nat) (name : String) : Option Misfit :=
  match kind.parameters.idxOf? name with
  | none => some (.unexpected name)
  | some place => if place ≤ given then some (.repeated name) else none

/-- The report of a kind from arguments without and with names.  Names are judged first, in their
order, then the number of arguments. -/
def make (kind : Kind) (positional : List Value) (named : List (String × Value)) :
    Except Misfit Report :=
  match named.findSome? fun entry => misnamed? kind positional.length entry.1 with
  | some misfit => .error misfit
  | none =>
    if kind.parameters.length < positional.length + 1 then .error (.excess positional.length)
    else
      match positional.head? <|> named.lookup "message" with
      | none => .error .silent
      | some message =>
        let rest := positional.drop 1
        let value (place : String × Nat) : String × Value :=
          (place.1, (rest[place.2]? <|> named.lookup place.1).getD .none)
        .ok ⟨kind, message, kind.fields.zipIdx.map value⟩

/-- The text of a report that was made from arguments: a message alone must be a text. -/
def spoken (report : Report) : Except Misfit String :=
  match report.message, report.details with
  | .string s, [] => .ok s
  | .torn t, [] => .ok (Value.torn t).text
  | message, [] => .error (.textless message.typeName)
  | _, _ => .ok report.text

end Report

end SectorDisk
