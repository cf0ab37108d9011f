import SectorDisk.Console.Form

/-!
# The manual

The commands of the console and their forms.
-/

namespace SectorDisk.Console

/-! ## §1 Commands -/

/-- The commands of the console. -/
inductive Verb where
  /-- Show bytes. -/
  | read
  /-- Write bytes. -/
  | write
  /-- Protect a sector. -/
  | lock
  /-- Lift the protection of a sector. -/
  | unlock
  /-- Show the protection of all sectors. -/
  | lockInfo
  /-- Fill a sector with zeros. -/
  | erase
  /-- Copy a sector into the mirror. -/
  | mirror
  /-- Write the mirror to a file. -/
  | backup
  /-- Show a sector. -/
  | dump
  /-- Show the metrics. -/
  | metrics
  /-- Show all at work. -/
  | demo
  deriving DecidableEq, Repr

namespace Verb

/-- The commands in the order of the manual. -/
def all : List Verb :=
  [read, write, lock, unlock, lockInfo, erase, mirror, backup, dump, metrics, demo]

/-- The word for a command. -/
def word : Verb → String
  | read => "read"
  | write => "write"
  | lock => "lock"
  | unlock => "unlock"
  | lockInfo => "lock-info"
  | erase => "erase"
  | mirror => "mirror"
  | backup => "backup"
  | dump => "dump"
  | metrics => "metrics"
  | demo => "demo"

/-- The command with a word. -/
def ofWord? (word : String) : Option Verb :=
  all.find? fun v => decide (v.word = word)

/-- What a command does, in lines. -/
def summary : Verb → List String
  | read => ["Read bytes from the device"]
  | write => ["Write bytes to the device"]
  | lock => ["Lock a sector against writes and erase"]
  | unlock => ["Unlock a sector with a key"]
  | lockInfo => ["Show the lock state of every sector"]
  | erase => ["Zero-fill a sector"]
  | mirror => ["Copy a sector into the mirror buffer"]
  | backup => ["Write the mirror buffer to a file"]
  | dump => ["Hex dump one sector of the primary buffer"]
  | metrics => ["Print control command metrics"]
  | demo => ["Run the reference lock/unlock/mirror/backup/erase", "scenario"]

end Verb

/-! ## §2 Forms -/

/-- The name of the program. -/
def programName : String := "sectorstore"

/-- The explanation of the request for help. -/
def explainedHelp : Explained :=
  ⟨2, "-h, --help", ["show this help message and exit"]⟩

/-- The option for keys. -/
def keysOption : String := "--keys"

/-- The option for the path of a demonstration's backup. -/
def backupOption : String := "--backup-path"

/-- All words for commands between braces. -/
def verbChoice : String :=
  "\x7b" ++ ",".intercalate (Verb.all.map Verb.word) ++ "\x7d"

/-- The form of the program. -/
def programForm : Form where
  title := programName
  usage :=
    ["usage: sectorstore [-h] [--keys KEYS]", Form.blanks 19 ++ verbChoice,
      Form.blanks 19 ++ "..."]
  about :=
    ["", "SectorStore CLI: read, write, lock, unlock, erase, mirror and back up sectors"]
  explainedArguments :=
    ⟨2, verbChoice, []⟩ :: Verb.all.map fun v => ⟨4, v.word, v.summary⟩
  explainedOptions :=
    [explainedHelp,
      ⟨2, "--keys KEYS",
        ["Comma-separated unlock keys (default: SECTORSTORE_KEYS", "or A-H)"]⟩]
  column := 24
  valued := [keysOption]

/-- An argument with its explanation. -/
abbrev ManualArgument := Argument × String

namespace Verb

/-- The arguments of a command. -/
def arguments : Verb → List ManualArgument
  | read =>
    [(⟨"offset", .integer⟩, "Byte offset"), (⟨"length", .integer⟩, "Number of bytes")]
  | write =>
    [(⟨"offset", .integer⟩, "Byte offset"),
      (⟨"data", .data⟩, "Text, or hex:<digits> for raw bytes")]
  | lock => [(⟨"sector", .integer⟩, "Sector index")]
  | unlock =>
    [(⟨"sector", .integer⟩, "Sector index"), (⟨"key", .text⟩, "Single-character unlock key")]
  | lockInfo => []
  | erase => [(⟨"sector", .integer⟩, "Sector index")]
  | mirror => [(⟨"sector", .integer⟩, "Sector index")]
  | backup => [(⟨"path", .text⟩, "Destination file")]
  | dump => [(⟨"sector", .integer⟩, "Sector index")]
  | metrics => []
  | demo => []

/-- The options of a command beside the request for help, each with what its value is called and its
explanation. -/
def options : Verb → List (String × String × String)
  | demo => [(backupOption, "BACKUP_PATH", "Backup destination (default: settings)")]
  | _ => []

/-- The title of a command. -/
def title (v : Verb) : String :=
  programName ++ " " ++ v.word

/-- The line on how to use a command. -/
def usageLine (v : Verb) : String :=
  let options := v.options.map fun o => " [" ++ o.1 ++ " " ++ o.2.1 ++ "]"
  let arguments := v.arguments.map fun a => " " ++ a.1.name
  "usage: " ++ v.title ++ " [-h]" ++ String.join (options ++ arguments)

/-- The form of a command. -/
def form (v : Verb) : Form where
  title := v.title
  usage := [v.usageLine]
  explainedArguments := v.arguments.map fun a => ⟨2, a.1.name, [a.2]⟩
  explainedOptions :=
    explainedHelp :: v.options.map fun o => ⟨2, o.1 ++ " " ++ o.2.1, [o.2.2]⟩
  column := if v.options.isEmpty then 14 else 24
  arguments := v.arguments.map (·.1)
  valued := v.options.map (·.1)

end Verb

end SectorDisk.Console
