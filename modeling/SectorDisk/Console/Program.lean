import SectorDisk.Console.Session

/-!
# The program

What the program does with its command line, its input and its environment.  A command line that
begins with a command carries it out on a new device; any other begins a dialogue, in which each
line of the input is a command line for one device.
-/

namespace SectorDisk.Console

/-! ## §1 Ends -/

/-- How the program ends. -/
inductive Ending where
  /-- It ran to its end. -/
  | finished
  /-- It exits with a code. -/
  | exit (code : Nat)
  /-- It fails. -/
  | failed (why : Failure)
  /-- Its settings are wrong. -/
  | misconfigured (why : SettingsFailure)

/-- What the program leaves behind. -/
structure Outcome where
  /-- What was written to the first stream. -/
  out : String
  /-- What was written to the second stream. -/
  err : String
  /-- The files. -/
  files : Files
  /-- How it ended. -/
  ending : Ending

/-- What a session leaves behind, once its device is closed. -/
def Session.outcome (s : Session) (ending : Ending) : Outcome :=
  let s := s.close
  ⟨s.out, s.err, s.host.files, ending⟩

/-! ## §2 Beginning -/

/-- What the program is run with. -/
structure Launch where
  /-- The words of its command line. -/
  words : List String
  /-- Its environment. -/
  env : List (String × String)
  /-- The files. -/
  files : Files
  /-- How backup files behave. -/
  sink : Sink := Sink.ample

namespace Launch

/-- Whether the command line begins with a command. -/
def isDirect (l : Launch) : Bool :=
  match l.words with
  | [] => false
  | word :: _ => word.toList.head? ≠ some '-'

/-- A session for the given keys, or for those of the settings. -/
def session (l : Launch) (keys : Option (List String)) : Except Ending Session := do
  let settings ←
    match Settings.load [] l.env with
    | .ok settings => .ok settings
    | .error why => .error (.misconfigured why)
  let shown ←
    match Shown.ofLevel settings.logLevel with
    | .ok shown => .ok shown
    | .error why => .error (.failed why)
  match Host.start (textList (keys.getD settings.keys)) l.files with
  | .ok host => .ok (Session.start host settings.backupPath shown l.sink)
  | .error why => .error (.failed why)

/-- What begins a dialogue. -/
def greeting : String :=
  "Entering interactive mode (type 'help' for commands, 'exit' to quit)"

/-- What asks for a line. -/
def prompt : String := "sectorstore> "

/-- What ends a dialogue. -/
def farewell : String := "Bye!"

/-- How the program goes on from its command line. -/
inductive Course where
  /-- It is over. -/
  | over (outcome : Outcome)
  /-- It carries out one request. -/
  | once (s : Session) (r : Request)
  /-- It begins a dialogue. -/
  | dialogue (s : Session)

/-- An outcome without a device. -/
def early (l : Launch) (out err : String) (ending : Ending) : Course :=
  .over ⟨out, err, l.files, ending⟩

/-- How the program goes on. -/
def course (l : Launch) : Course :=
  match Invocation.read l.words with
  | .error stop => l.early stop.out stop.err (.exit stop.code)
  | .ok invocation =>
    if l.isDirect then
      match invocation.request with
      | none => l.early (ended programForm.helpLines) "" (.exit 0)
      | some r =>
        match l.session invocation.keys with
        | .error ending => l.early "" "" ending
        | .ok s => .once s r
    else
      match l.session invocation.keys with
      | .error ending => l.early (ended [greeting]) "" ending
      | .ok s => .dialogue (s.print (ended [greeting]))

end Launch

/-! ## §3 Running -/

/-- The outcome of a dialogue that is over. -/
def Session.farewell (s : Session) : Outcome :=
  (s.print (ended [Launch.farewell])).outcome .finished

/-- A dialogue over the lines of the input. -/
def Session.dialogue (s : Session) : List String → Outcome
  | [] => (s.print Launch.prompt).farewell
  | line :: rest =>
    match (s.print Launch.prompt).line line with
    | .again s => s.dialogue rest
    | .over s => s.farewell
    | .leave s => s.outcome (.exit 0)
    | .fail s why => s.outcome (.failed why)

/-- The lines of an input: each ends at a line break, and the last may lack it. -/
def inputLines (input : String) : List String :=
  let pieces := (input.toList.splitOn '\n').map String.ofList
  if pieces.getLast? = some "" then pieces.dropLast else pieces

/-- Runs the program with an input. -/
def Launch.run (l : Launch) (input : String) : Outcome :=
  match l.course with
  | .over outcome => outcome
  | .once s r => (s.execute r).outcome .finished
  | .dialogue s => s.dialogue (inputLines input)

end SectorDisk.Console
