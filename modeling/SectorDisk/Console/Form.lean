import SectorDisk.Console.Reading
import SectorDisk.Value

/-!
# Forms of commands

A form says what may stand on the command line of one command: arguments in a fixed order, and
options that may stand anywhere before a word `--`.  It also carries the texts that explain it.
Reading a command line against a form ends early with a `Stop`, which is a request for help or a
misuse.
-/

namespace SectorDisk.Console

/-! ## §1 Arguments and options -/

/-- How the text of an argument is read. -/
inductive Reader where
  /-- As an integer. -/
  | integer
  /-- As data, which is text or hexadecimal. -/
  | data
  /-- As it is. -/
  | text
  deriving DecidableEq, Repr

/-- Why the text of an argument cannot be read. -/
inductive Misread where
  /-- It is no integer. -/
  | notInteger (text : String)
  /-- Its reader refuses it. -/
  | refused (why : Failure)

/-- The text on a misread argument. -/
def Misread.text : Misread → String
  | .notInteger text => "invalid int value: " ++ Text.quoted text
  | .refused why => why.message

/-- Reads the text of an argument. -/
def Reader.read (reader : Reader) (text : String) : Except Misread Value :=
  match reader with
  | .integer =>
    match Text.readInteger text with
    | some n => .ok (.int n)
    | none => .error (.notInteger text)
  | .data =>
    match readData text with
    | .ok bytes => .ok (.octets bytes)
    | .error why => .error (.refused why)
  | .text => .ok (.string text)

/-- An argument that has to be given. -/
structure Argument where
  /-- Its name. -/
  name : String
  /-- How it is read. -/
  reader : Reader
  deriving DecidableEq, Repr

/-- An option. -/
inductive Switch where
  /-- The request for help. -/
  | help
  /-- An option with a value. -/
  | valued (spelling : String)
  deriving DecidableEq, Repr

/-- The spellings of an option. -/
def Switch.spellings : Switch → List String
  | .help => ["-h", "--help"]
  | .valued spelling => [spelling]

/-- The name of an option in messages. -/
def Switch.name (s : Switch) : String :=
  "/".intercalate s.spellings

/-! ## §2 Forms -/

/-- An explained item of a form. -/
structure Explained where
  /-- How far it is indented. -/
  indent : Nat
  /-- The item. -/
  item : String
  /-- The lines of its explanation. -/
  lines : List String

/-- The form of a command. -/
structure Form where
  /-- What the command is called. -/
  title : String
  /-- How to use it, in lines. -/
  usage : List String
  /-- What it is about. -/
  about : List String := []
  /-- The explained arguments. -/
  explainedArguments : List Explained := []
  /-- The explained options. -/
  explainedOptions : List Explained
  /-- The column at which explanations begin. -/
  column : Nat
  /-- The arguments. -/
  arguments : List Argument := []
  /-- The options with values; every form has the request for help. -/
  valued : List String := []

namespace Form

/-- The options of a form, the request for help first. -/
def switches (f : Form) : List Switch :=
  .help :: f.valued.map Switch.valued

/-- Every spelling of every option. -/
def spellings (f : Form) : List (String × Switch) :=
  f.switches.flatMap fun s => s.spellings.map fun spelling => (spelling, s)

/-- Blanks. -/
def blanks (n : Nat) : String :=
  String.ofList (List.replicate n ' ')

/-- The lines of an explained item: on one line where the item ends early enough. -/
def explainedLines (column : Nat) (e : Explained) : List String :=
  let item := blanks e.indent ++ e.item
  let width := e.indent + e.item.length
  match e.lines with
  | [] => [item]
  | line :: more =>
    let below := more.map (blanks column ++ ·)
    if width + 2 ≤ column then (item ++ blanks (column - width) ++ line) :: below
    else item :: (blanks column ++ line) :: below

/-- A titled section; an empty one is left out. -/
def sectionLines (f : Form) (title : String) (items : List Explained) : List String :=
  if items.isEmpty then []
  else "" :: title :: items.flatMap (explainedLines f.column)

/-- The lines that explain a form. -/
def helpLines (f : Form) : List String :=
  f.usage ++ f.about ++ f.sectionLines "positional arguments:" f.explainedArguments
    ++ f.sectionLines "options:" f.explainedOptions

end Form

/-- Lines as text, each ended. -/
def ended (lines : List String) : String :=
  String.join (lines.map (· ++ "\n"))

/-! ## §3 Ends of reading -/

/-- How a command line misuses a form. -/
inductive Misuse where
  /-- A word begins several options. -/
  | ambiguous (word : String) (spellings : List String)
  /-- An option stands without its value. -/
  | needsValue (option : Switch)
  /-- An option without value got one. -/
  | ignoredValue (option : Switch) (value : String)
  /-- An argument or the value of an option cannot be read. -/
  | misread (name : String) (why : Misread)
  /-- There is no such command. -/
  | unknownCommand (word : String) (known : List String)
  /-- Arguments are missing. -/
  | missing (names : List String)
  /-- Words are left over. -/
  | unrecognized (words : List String)

/-- The text on a misuse. -/
def Misuse.text : Misuse → String
  | ambiguous word spellings =>
    "ambiguous option: " ++ word ++ " could match " ++ commaSeparated spellings
  | needsValue option => "argument " ++ option.name ++ ": expected one argument"
  | ignoredValue option value =>
    "argument " ++ option.name ++ ": ignored explicit argument " ++ Text.quoted value
  | misread name why => "argument " ++ name ++ ": " ++ why.text
  | unknownCommand word known =>
    "argument command: invalid choice: " ++ Text.quoted word ++ " (choose from "
      ++ commaSeparated (known.map Text.quoted) ++ ")"
  | missing names => "the following arguments are required: " ++ commaSeparated names
  | unrecognized words => "unrecognized arguments: " ++ " ".intercalate words

/-- Why reading a command line ended early. -/
inductive Stop where
  /-- Help on a form was asked for. -/
  | help (form : Form)
  /-- The command line misuses a form. -/
  | misuse (form : Form) (how : Misuse)

namespace Stop

/-- What is printed as the answer. -/
def out : Stop → String
  | help form => ended form.helpLines
  | misuse .. => ""

/-- What is printed as a complaint. -/
def err : Stop → String
  | help _ => ""
  | misuse form how => ended (form.usage ++ [form.title ++ ": error: " ++ how.text])

/-- The exit code. -/
def code : Stop → Nat
  | help _ => 0
  | misuse .. => 2

end Stop

end SectorDisk.Console
