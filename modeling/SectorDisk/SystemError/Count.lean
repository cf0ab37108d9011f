import SectorDisk.Failure

/-!
# Counts in system errors

An error about something that would have to wait takes a number in place of a file: how much was
done before.  Such a count has to be an integer of 64 bits, or else the error cannot be made.
-/

namespace SectorDisk

/-- Why a number is no count. -/
def countFlaw? : Number → Option Failure
  | .int n =>
    if n < -9223372036854775808 ∨ 9223372036854775807 < n then some .waitingCount else none
  | .flag _ => none
  | n => some (.notIndex n.typeName)

/-- Why an error object with the given arguments cannot be made. -/
def errorFlaw? (type : String) (arguments : List Value) : Option Failure :=
  match arguments with
  | _ :: _ :: .number n :: _ =>
    if reportsNumber type arguments ∧ errorTypeName type arguments = SystemError.blockingName then
      countFlaw? n
    else none
  | _ => none

mutual

/-- Why a value cannot be made; the first flaw inside it comes before its own. -/
def Value.flaw? : Value → Option Failure
  | .list items => flawOf? items
  | .error type arguments => flawOf? arguments <|> errorFlaw? type arguments
  | _ => none

/-- The first flaw among values. -/
def flawOf? : List Value → Option Failure
  | [] => none
  | item :: rest => item.flaw? <|> flawOf? rest

end

end SectorDisk
