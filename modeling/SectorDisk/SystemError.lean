/-!
# System errors

Errors that the operating system reports by number.  Some numbers have an error type of their own,
and the others share the general one.
-/

namespace SectorDisk.SystemError

/-- The general type. -/
def generalName : String := "OSError"

/-- The type of errors about something that would have to wait. -/
def blockingName : String := "BlockingIOError"

/-- The types that numbers have of their own. -/
def namedCodes : List (Int × String) :=
  [(1, "PermissionError"), (2, "FileNotFoundError"), (3, "ProcessLookupError"),
    (4, "InterruptedError"), (10, "ChildProcessError"), (11, blockingName),
    (13, "PermissionError"), (17, "FileExistsError"), (20, "NotADirectoryError"),
    (21, "IsADirectoryError"), (32, "BrokenPipeError"), (103, "ConnectionAbortedError"),
    (104, "ConnectionResetError"), (108, "BrokenPipeError"), (110, "TimeoutError"),
    (111, "ConnectionRefusedError"), (114, blockingName), (115, blockingName)]

/-- The type of the errors with a number. -/
def nameOf (code : Int) : String :=
  (namedCodes.lookup code).getD generalName

/-- Whether errors of a type are reported by number. -/
def isName (type : String) : Bool :=
  type = generalName || (namedCodes.map (·.2)).contains type

end SectorDisk.SystemError
