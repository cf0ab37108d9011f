import SectorDisk.Command
import SectorDisk.Decimal.Text
import SectorDisk.Extent
import SectorDisk.SystemError
import SectorDisk.Text.Torn
import SectorDisk.View

/-!
# Values that callers pass

The disk is called with arguments of any type and refuses the wrong ones itself, naming the type it
got.  `Value` is the type of such arguments; `Value.text` is how one reads inside a message and
`Value.quoted` how it reads inside a list or where its type should show.
-/

namespace SectorDisk

/-! ## §1 Types -/

/-- A number: an integer of any size, a truth value standing for 0 or 1, or a float. -/
inductive Number where
  /-- An integer. -/
  | int (n : Int)
  /-- A truth value. -/
  | flag (b : Bool)
  /-- A floating-point number. -/
  | real (x : Float)

/-- The kinds of byte strings. -/
inductive BytesKind where
  /-- Immutable bytes. -/
  | fixed
  /-- Mutable bytes. -/
  | mutable
  /-- A view of bytes held elsewhere. -/
  | view
  deriving DecidableEq, Repr

/-- An argument of any type. -/
inductive Value where
  /-- No value. -/
  | none
  /-- A number. -/
  | number (n : Number)
  /-- A text. -/
  | string (s : String)
  /-- A text with a lone half of a surrogate pair. -/
  | torn (t : Text.Torn)
  /-- A byte string. -/
  | bytes (kind : BytesKind) (data : Bytes)
  /-- A view that is no byte string. -/
  | view (v : View)
  /-- A list. -/
  | list (items : List Value)
  /-- A path object, which is not a text. -/
  | path (s : String)
  /-- A control command. -/
  | command (c : Command)
  /-- An error object with the name of its type and its arguments. -/
  | error (type : String) (arguments : List Value)
  deriving Inhabited

/-- An integer argument. -/
@[match_pattern] abbrev Value.int (n : Int) : Value := .number (.int n)

/-- A truth value as argument. -/
@[match_pattern] abbrev Value.bool (b : Bool) : Value := .number (.flag b)

/-- Plain bytes as argument. -/
@[match_pattern] abbrev Value.octets (data : Bytes) : Value := .bytes .fixed data

/-! ## §2 Reading an argument -/

/-- The name of a number's type. -/
def Number.typeName : Number → String
  | .int _ => "int"
  | .flag _ => "bool"
  | .real _ => "float"

/-- The name of a byte string's type. -/
def BytesKind.typeName : BytesKind → String
  | .fixed => "bytes"
  | .mutable => "bytearray"
  | .view => "memoryview"

/-- The type of an error object.  A general system error that is given a number and a text, and at
most three arguments more, has the type of its number. -/
def errorTypeName (type : String) : List Value → String
  | .number (.int code) :: _ :: more =>
    if type = SystemError.generalName ∧ more.length ≤ 3 then SystemError.nameOf code else type
  | .number (.flag b) :: _ :: more =>
    if type = SystemError.generalName ∧ more.length ≤ 3 then
      SystemError.nameOf (if b then 1 else 0)
    else type
  | _ => type

/-- The name of a value's type. -/
def Value.typeName : Value → String
  | .none => "NoneType"
  | .number n => n.typeName
  | .string _ => "str"
  | .torn _ => "str"
  | .bytes kind _ => kind.typeName
  | .view _ => BytesKind.view.typeName
  | .list _ => "list"
  | .path _ => "PosixPath"
  | .command _ => "ControlCommand"
  | .error type arguments => errorTypeName type arguments

/-- Whether a number counts as true: all but zero. -/
def Number.isTrue : Number → Bool
  | .int n => n != 0
  | .flag b => b
  | .real x => x != 0.0

/-- Whether a value counts as true: no empty text, bytes or list, no zero, not `none`. -/
def Value.isTrue : Value → Bool
  | .none => false
  | .number n => n.isTrue
  | .string s => s.toList != []
  | .bytes _ data => data != []
  | .view v => !v.items.isEmpty
  | .list items => !items.isEmpty
  | _ => true

/-- The bytes of a byte string or view, which need not lie in one piece. -/
def Value.held? : Value → Option Bytes
  | .bytes _ data => some data
  | .view v => some v.content
  | _ => Option.none

/-- The bytes of a byte string or view that lie in one piece. -/
def Value.bytes? : Value → Option Bytes
  | .bytes _ data => some data
  | .view v => if v.isSolid then some v.content else Option.none
  | _ => Option.none

/-- How many items a byte string or view has. -/
def Value.itemCount? : Value → Option Nat
  | .bytes _ data => some data.length
  | .view v => some v.items.length
  | _ => Option.none

/-- The text of code points. -/
def Value.ofPoints (points : List Text.Point) : Value :=
  match Text.Torn.ofPoints points with
  | .ok cs => .string (String.ofList cs)
  | .error t => .torn t

/-- The code points of a text. -/
def Value.points? : Value → Option (List Text.Point)
  | .string s => some (s.toList.map .char)
  | .torn t => some t.points
  | _ => Option.none

/-- The only code point of a text that has just one. -/
def Value.onlyPoint? (v : Value) : Option Text.Point :=
  match v.points? with
  | some [p] => some p
  | _ => Option.none

/-- The elements of a value that has a length: those of a list, the code points of a text, the
numbers of a byte string or view. -/
def Value.elements? : Value → Option (List Value)
  | .list items => some items
  | .string s => some (s.toList.map fun c => .string (String.singleton c))
  | .torn t => some (t.points.map fun p => .ofPoints [p])
  | .bytes _ data => some (data.map fun b => .int b.toNat)
  | .view v => some (v.numbers.map fun n : Nat => .int n)
  | _ => Option.none

/-- The path that a text names: empty and `.` components are left out, and two leading slashes are
kept apart from one and three. -/
def Value.ofPath (s : String) : Value :=
  let parts := (s.splitOn "/").filter fun part => part ≠ "" && part ≠ "."
  let slashes := (s.toList.takeWhile (· = '/')).length
  let root := if slashes = 0 then "" else if slashes = 2 then "//" else "/"
  let joined := root ++ "/".intercalate parts
  .path (if joined = "" then "." else joined)

/-! ## §3 Text -/

/-- The text of a number. -/
def Number.text : Number → String
  | .int n => toString n
  | .flag true => "True"
  | .flag false => "False"
  | .real x => Decimal.plain x

/-- The text of a byte string. -/
def BytesKind.text (kind : BytesKind) (data : Bytes) : String :=
  match kind with
  | .fixed => Text.quotedBytes data
  | .mutable => "bytearray(" ++ Text.quotedMutableBytes data ++ ")"
  | .view => "<memory>"

/-- Texts with commas between them. -/
def commaSeparated (items : List String) : String :=
  ", ".intercalate items

/-- Whether an error object reports a number and a text: a system error with two to five
arguments. -/
def reportsNumber (type : String) (arguments : List Value) : Bool :=
  SystemError.isName type && 2 ≤ arguments.length && arguments.length ≤ 5

/-- Whether the third argument of an error object that reports a number is a file it concerns.
Where something would have to wait, a number there is a count instead. -/
def concernsFile (type : String) (arguments : List Value) : Bool :=
  match arguments with
  | _ :: _ :: .none :: _ => false
  | _ :: _ :: .number _ :: _ => errorTypeName type arguments ≠ SystemError.blockingName
  | _ :: _ :: _ :: _ => true
  | _ => false

/-- Whether the fifth argument of an error object that concerns a file is a second file. -/
def concernsTwoFiles (arguments : List Value) : Bool :=
  match arguments with
  | [_, _, _, _, .none] => false
  | [_, _, _, _, _] => true
  | _ => false

/-- The type of errors about a missing key, which show the key quoted. -/
def missingKeyName : String := "KeyError"

/-- The text of an error object from its arguments, their texts, and their quoted texts. -/
def errorText (type : String) (arguments : List Value) (plain shown : List String) : String :=
  match plain with
  | [] => ""
  | [text] => if type = missingKeyName then shown.headD text else text
  | code :: reason :: _ =>
    if reportsNumber type arguments then
      let report := "[Errno " ++ code ++ "] " ++ reason
      if concernsFile type arguments then
        let report := report ++ ": " ++ shown.getD 2 ""
        if concernsTwoFiles arguments then report ++ " -> " ++ shown.getD 4 "" else report
      else report
    else "(" ++ commaSeparated shown ++ ")"

/-- The text of an error object where its type should show.  Of one that concerns a file only the
number and the text are shown. -/
def shownError (type : String) (arguments : List Value) (shown : List String) : String :=
  let kept :=
    if reportsNumber type arguments && concernsFile type arguments then shown.take 2 else shown
  errorTypeName type arguments ++ "(" ++ commaSeparated kept ++ ")"

mutual

/-- The text of a value inside a message. -/
def Value.text : Value → String
  | .none => "None"
  | .number n => n.text
  | .string s => s
  | .torn t => Text.shownPoints t.points
  | .bytes kind data => kind.text data
  | .view v => BytesKind.view.text v.content
  | .list items => "[" ++ commaSeparated (quotedAll items) ++ "]"
  | .path s => s
  | .command c => "ControlCommand." ++ c.name
  | .error type arguments => errorText type arguments (textAll arguments) (quotedAll arguments)

/-- The text of a value where its type should show. -/
def Value.quoted : Value → String
  | .none => "None"
  | .number n => n.text
  | .string s => Text.quoted s
  | .torn t => Text.quotedPoints t.points
  | .bytes kind data => kind.text data
  | .view v => BytesKind.view.text v.content
  | .list items => "[" ++ commaSeparated (quotedAll items) ++ "]"
  | .path s => "PosixPath(" ++ Text.quoted s ++ ")"
  | .command c => "<ControlCommand." ++ c.name ++ ": " ++ toString c.code ++ ">"
  | .error type arguments => shownError type arguments (quotedAll arguments)

/-- The texts of values. -/
def textAll : List Value → List String
  | [] => []
  | item :: rest => item.text :: textAll rest

/-- The quoted texts of values. -/
def quotedAll : List Value → List String
  | [] => []
  | item :: rest => item.quoted :: quotedAll rest

end

end SectorDisk
