import SectorDisk.Number

/-!
# Sector arguments

Judging an argument of any type as a sector of the disk, as an offset or length, or as a command,
and two arguments as a stretch of bytes.
-/

namespace SectorDisk

/-! ## §1 Single arguments -/

/-- The sector that an argument names. -/
def Sector.ofValue (v : Value) : Except Failure Sector :=
  match v with
  | .int n =>
    match ofIndex? n with
    | some s => .ok s
    | none => .error (.sectorRange n)
  | v => .error (.sectorType v.typeName)

/-- The natural number that an argument gives under the given name. -/
def natural (argument : String) (v : Value) : Except Failure Nat :=
  match v with
  | .int n => if n < 0 then .error (.negative argument) else .ok n.toNat
  | _ => .error (.notInteger argument)

/-- The command that an argument names or whose code it is. -/
def Command.ofValue (v : Value) : Except Failure Command :=
  match v with
  | .command c => .ok c
  | .int n =>
    match Command.ofCode? n with
    | some c => .ok c
    | none => .error (.unsupported v)
  | _ => .error (.unsupported v)

/-! ## §2 Stretches of bytes -/

/-- The sectors that hold a byte of the stretch that two arguments give.  The length is judged
first, and an empty stretch asks nothing of its offset. -/
def Span.ofValues (offset length : Value) : Except Failure Span :=
  match length, offset with
  | .number n, .number o =>
    if n.isAtMostZero then .ok ⟨0, 0⟩
    else do
      let _ ← o.add n
      match o.toInt?, n.toInt? with
      | some first, some count => .ok (span first count)
      | _, _ => .error (.notIndex "float")
  | .number n, v => if n.isAtMostZero then .ok ⟨0, 0⟩ else .error (.indivisible v.typeName)
  | v, _ => .error (.unordered .atMost v.typeName "int")

/-- The greatest length up to the given one with which a stretch does not pass the end of the disk,
for arguments of any type. -/
def fittingValue (offset length : Value) : Except Failure Number :=
  match offset with
  | .number o =>
    if o.reaches diskSize then .ok (.int 0)
    else
      let room := o.below diskSize
      match length with
      | .number n => .ok (if room.less n then room else n)
      | v => .error (.unordered .less room.typeName v.typeName)
  | v => .error (.unordered .atLeast v.typeName "int")

end SectorDisk
