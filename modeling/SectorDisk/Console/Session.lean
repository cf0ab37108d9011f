import SectorDisk.Console.Act
import SectorDisk.Settings
import SectorDisk.Text.Words

/-!
# Sessions

A device in use from a console, with what was written to the two output streams.  Notices of the
device go to the second stream, as far as their level is shown, and so do reports of failures: a
request that fails is reported and does not end the session.
-/

namespace SectorDisk.Console

/-! ## §1 Levels of logging -/

/-- The names of levels and their ranks. -/
def levelRanks : List (String × Nat) :=
  [("CRITICAL", 50), ("FATAL", 50), ("ERROR", 40), ("WARN", 30), ("WARNING", 30), ("INFO", 20),
    ("DEBUG", 10), ("NOTSET", 0)]

/-- Which notices are shown. -/
inductive Shown where
  /-- None. -/
  | none
  /-- Those whose level has at least the given rank. -/
  | atLeast (rank : Nat)
  deriving DecidableEq, Repr

/-- Whether a notice is shown. -/
def Shown.shows (shown : Shown) (n : Notice) : Bool :=
  match shown with
  | .none => false
  | .atLeast rank => decide (rank ≤ n.level.rank)

/-- The notices shown at a level with the given name. -/
def Shown.ofLevel (name : String) : Except Failure Shown :=
  match levelRanks.lookup name with
  | some rank => .ok (.atLeast rank)
  | Option.none => .error (.unknownLevel name)

/-- A notice as a line. -/
def noticeLine (n : Notice) : String :=
  n.level.name ++ " " ++ n.origin ++ ": " ++ n.text

/-! ## §2 Sessions -/

/-- A device in use from a console. -/
structure Session where
  /-- The device and its host. -/
  host : Host
  /-- Where a demonstration writes its backup. -/
  defaultPath : String
  /-- Which notices are shown. -/
  shown : Shown
  /-- How backup files behave. -/
  sink : Sink := Sink.ample
  /-- What was written to the first stream. -/
  out : String := ""
  /-- What was written to the second stream. -/
  err : String := ""

namespace Session

/-- The session with more on the first stream. -/
def print (s : Session) (text : String) : Session :=
  { s with out := s.out ++ text }

/-- The session with more on the second stream. -/
def complain (s : Session) (text : String) : Session :=
  { s with err := s.err ++ text }

/-- The session with its host moved on; the new notices are shown. -/
def moved (s : Session) (host : Host) : Session :=
  let new := (host.notices.drop s.host.notices.length).filter s.shown.shows
  { s with host := host }.complain (ended (new.map noticeLine))

/-- A session with a new device. -/
def start (host : Host) (defaultPath : String) (shown : Shown) (sink : Sink) : Session :=
  { host := host, defaultPath := defaultPath, shown := shown, sink := sink
    err := ended ((host.notices.filter shown.shows).map noticeLine) }

/-- The report of a failure. -/
def failureLine (e : Failure) : String :=
  "Error: " ++ e.message

/-- Carries out a request and reports its failure, if it fails. -/
def execute (s : Session) (r : Request) : Session :=
  let (result, stage) := r.act s.defaultPath { host := s.host, sink := s.sink }
  let s := (s.moved stage.host).print (ended stage.printed)
  match result with
  | .ok () => s
  | .error e => s.complain (ended [failureLine e])

/-- Closes the device. -/
def close (s : Session) : Session :=
  s.moved s.host.closed

/-! ## §3 Lines of a dialogue -/

/-- What became of the words of a command line. -/
inductive Reply where
  /-- Reading them ended early. -/
  | stopped (stop : Stop)
  /-- They hold no command. -/
  | idle
  /-- Their request was carried out. -/
  | done

/-- Carries out the words of a command line.  The keys that they give are read and not used. -/
def obey (s : Session) (words : List String) : Reply × Session :=
  match Invocation.read words with
  | .error stop => (.stopped stop, (s.print stop.out).complain stop.err)
  | .ok invocation =>
    match invocation.request with
    | none => (.idle, s)
    | some r => (.done, s.execute r)

/-- What follows a line. -/
inductive Next where
  /-- The dialogue goes on. -/
  | again (s : Session)
  /-- The dialogue is over. -/
  | over (s : Session)
  /-- The program ends, because help was asked for. -/
  | leave (s : Session)
  /-- The program fails. -/
  | fail (s : Session) (why : Failure)

/-- The answer to a line without command. -/
def noCommandLine : String :=
  "No command given. Type 'help' for commands."

/-- The failure of a line without words because of its quotes. -/
def unfinishedFailure : Text.Words.Unfinished → Failure
  | .quote => .openQuote
  | .escape => .openEscape

/-- Carries out the words of a line. -/
def words (s : Session) (words : List String) : Next :=
  match s.obey words with
  | (.stopped stop, s) =>
    if stop.code = 0 then .leave s
    else .again (s.complain (ended ["Error: " ++ toString stop.code]))
  | (.idle, s) => .again (s.print (ended [noCommandLine]))
  | (.done, s) => .again s

/-- Carries out a line.  A blank line and the words for leaving end the dialogue. -/
def line (s : Session) (raw : String) : Next :=
  let line := String.ofList (Text.strip raw.toList)
  if line.isEmpty || isExit line then .over s
  else if isHelp line then .again (s.print (ended programForm.helpLines))
  else
    match Text.Words.split line with
    | .error unfinished => .fail s (unfinishedFailure unfinished)
    | .ok ws => s.words ws

end Session

end SectorDisk.Console
