import SectorDisk.Console.Program

/-!
# The command line

The program as it runs: it takes its words, environment and input from the host, prints what a
session writes, and keeps the files of the host and of the session in step.  What is done with all
of that is decided in `Console.Program` and `Console.Session`.
-/

namespace SectorDisk.Console

/-! ## §1 Files of the host -/

/-- The path of a place on the host. -/
def hostPath (place : Location) : String :=
  match Text.Utf8.decode (slashByte :: Files.joined place) with
  | .ok path => path
  | .error _ => ""

/-- Whether the host can open a path. -/
def canOpen (path : String) : IO Bool := do
  try
    let _ ← IO.FS.Handle.mk path .read
    return true
  catch _ => return false

/-- The files with what the host has at a place. -/
def lookAt (files : Files) (place : Location) : IO Files := do
  if ← canOpen (hostPath place ++ "/.") then return files.addDirectory place
  else if ← canOpen (hostPath place) then return files.put place []
  else return files

/-- The places that a walk passes. -/
def placesOnWay (place : Location) : List FileName → List Location
  | [] => []
  | name :: rest =>
    if name = hereName then placesOnWay place rest
    else if name = aboveName then placesOnWay place.dropLast rest
    else (place ++ [name]) :: placesOnWay (place ++ [name]) rest

/-- The files with what the host has along a path. -/
def lookAlong (files : Files) (path : String) : IO Files := do
  let parts := PathParts.ofBytes (Text.Utf8.encode path)
  let names := parts.parents ++ parts.last.toList
  (placesOnWay (files.origin parts) names).foldlM lookAt files

/-- The tree of the host as far as it is known before any path is used. -/
def hostFiles : IO Files := do
  let home := (PathParts.ofBytes (Text.Utf8.encode (toString (← IO.currentDir))))
  let home := home.parents ++ home.last.toList
  return ⟨[[], home], [], home⟩

/-- Writes the files that differ from what was known before. -/
def store (before after : Files) : IO Unit := do
  for (place, content) in after.contents do
    if before.content? place ≠ some content then
      IO.FS.writeBinFile (hostPath place) (ByteArray.mk content.toArray)

/-! ## §2 Sessions on the host -/

/-- The path that a request writes to. -/
def Request.path? (defaultPath : String) : Request → Option String
  | .backup (.string path) => some path
  | .demo given => some (demoPath given defaultPath)
  | _ => none

/-- The path that the words of a line write to. -/
def pathOfWords? (defaultPath : String) (words : List String) : Option String :=
  match Invocation.read words with
  | .ok invocation => invocation.request.bind fun r => r.path? defaultPath
  | .error _ => none

/-- The session with what the host has along a path. -/
def Session.lookAlong (s : Session) : Option String → IO Session
  | none => return s
  | some path => do
    let files ← Console.lookAlong s.host.files path
    return { s with host := { s.host with files := files } }

/-- Prints what a session has written, which it then forgets. -/
def Session.flush (s : Session) : IO Session := do
  IO.print s.out
  IO.eprint s.err
  (← IO.getStdout).flush
  return { s with out := "", err := "" }

/-- Prints what the program leaves behind and gives its exit code. -/
def conclude (outcome : Outcome) : IO UInt32 := do
  IO.print outcome.out
  IO.eprint outcome.err
  match outcome.ending with
  | .finished => return 0
  | .exit code => return UInt32.ofNat code
  | .failed why =>
    IO.eprintln (why.kind.name ++ ": " ++ why.message)
    return 1
  | .misconfigured (.unreadable why) =>
    IO.eprintln (why.kind.name ++ ": " ++ why.message)
    return 1
  | .misconfigured (.invalid problems) =>
    for problem in problems do
      IO.eprintln (problem.field ++ ": " ++ problem.defect.message)
    return 1

/-- Carries out one request. -/
def runOnce (s : Session) (r : Request) : IO UInt32 := do
  let s ← s.lookAlong (r.path? s.defaultPath)
  let outcome := (s.execute r).outcome .finished
  store s.host.files outcome.files
  conclude outcome

/-- A line without its line break. -/
def withoutBreak (line : String) : String :=
  String.ofList (withoutLastBreak line.toList)

/-- Holds a dialogue with the input. -/
partial def converse (s : Session) : IO UInt32 := do
  let s ← (s.print Launch.prompt).flush
  let input ← (← IO.getStdin).getLine
  if input.isEmpty then conclude s.farewell
  else
    let line := withoutBreak input
    let path? :=
      match Text.Words.split line with
      | .ok words => pathOfWords? s.defaultPath words
      | .error _ => none
    let s ← s.lookAlong path?
    match s.line line with
    | .again after =>
      store s.host.files after.host.files
      converse (← after.flush)
    | .over after => conclude after.farewell
    | .leave after => conclude (after.outcome (.exit 0))
    | .fail after why => conclude (after.outcome (.failed why))

/-- The environment variables of the settings. -/
def settingsEnvironment : IO (List (String × String)) := do
  let names := settingsFields.map SettingsField.environmentName
  (names ++ names.map Text.upper).filterMapM fun name => do
    return (← IO.getEnv name).map fun text => (name, text)

/-- Runs the program with the words of its command line. -/
def run (words : List String) : IO UInt32 := do
  let launch : Launch := { words, env := ← settingsEnvironment, files := ← hostFiles }
  match launch.course with
  | .over outcome => conclude outcome
  | .once s r => runOnce s r
  | .dialogue s => converse s

end SectorDisk.Console

/-- The program. -/
def main (words : List String) : IO UInt32 :=
  SectorDisk.Console.run words
