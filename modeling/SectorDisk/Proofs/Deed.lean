import SectorDisk.Proofs.Image
import SectorDisk.Proofs.Status

/-!
# Deeds

What an operation that succeeded did to a device, as far as it can be told from outside: from the
operation, its arguments, its result and the cursor or sector that it found.  An operation that
failed did nothing.

`Store.did` says what a deed makes of a store and `Store.Allows` when a store admits the deed: the
protected sectors are out of reach, and only a key lifts protection.
-/

namespace SectorDisk

/-! ## §1 What can be done to a device -/

/-- Something that was done to a device. -/
inductive Deed where
  /-- Bytes were written from `offset` on. -/
  | wrote (offset : Nat) (data : Bytes)
  /-- A sector was erased. -/
  | erased (s : Sector)
  /-- A sector was protected. -/
  | locked (s : Sector)
  /-- The protection of a sector was lifted with a key. -/
  | unlocked (s : Sector) (key : Value)
  /-- A sector of the primary buffer was copied into the mirror. -/
  | captured (s : Sector) (content : Block)
  /-- Given bytes were stored in the mirror. -/
  | stored (s : Sector) (content : Block)
  /-- A handle was opened. -/
  | opened
  /-- The cursor of a handle was moved on by what was transferred. -/
  | advanced (index count : Nat)
  /-- The cursor of a handle was set. -/
  | sought (index : Nat) (cursor : Number)
  /-- A handle was closed. -/
  | released (index : Nat)
  /-- The device was closed. -/
  | closed

/-- A handle whose cursor moved on; a cursor that is no integer stays. -/
def Handle.advanced (handle : Handle) (count : Nat) : Handle :=
  match handle.cursor.toInt? with
  | some cursor => { handle with cursor := .int (cursor + count) }
  | none => handle

namespace Deed

/-- The primary buffer after a deed. -/
def onPrimary (image : Image) : Deed → Image
  | wrote offset data => image.splice offset data
  | erased s => image.splice s.start Storage.zeros
  | _ => image

/-- The mirror after a deed. -/
def onMirror (image : Image) : Deed → Image
  | captured s content => image.splice s.start content
  | stored s content => image.splice s.start content
  | _ => image

/-- The protection after a deed. -/
def onProtection (flags : Flags) : Deed → Flags
  | locked s => flags.setBit s true
  | unlocked s _ => flags.setBit s false
  | _ => flags

/-- The handles after a deed. -/
def onHandles (handles : List Handle) : Deed → List Handle
  | opened => handles ++ [{}]
  | advanced index count => handles.modify index (·.advanced count)
  | sought index cursor => handles.modify index fun e => { e with cursor := cursor }
  | released index => handles.modify index fun e => { e with isClosed := true }
  | _ => handles

/-- Whether a deed closes the device. -/
def closes : Deed → Bool
  | closed => true
  | _ => false

end Deed

namespace Store

/-- The store after a deed; no deed changes the keys. -/
def did (k : Store) (x : Deed) : Store where
  primary := x.onPrimary k.primary
  mirror := x.onMirror k.mirror
  protection := x.onProtection k.protection
  keys := k.keys
  handles := x.onHandles k.handles

@[simp] theorem did_primary (k : Store) (x : Deed) :
    (k.did x).primary = x.onPrimary k.primary := rfl

@[simp] theorem did_protection (k : Store) (x : Deed) :
    (k.did x).protection = x.onProtection k.protection := rfl

@[simp] theorem did_handles (k : Store) (x : Deed) :
    (k.did x).handles = x.onHandles k.handles := rfl

/-- The store after deeds, one after the other. -/
def after (k : Store) (ds : List Deed) : Store :=
  ds.foldl did k

@[simp] theorem after_nil (k : Store) : k.after [] = k := rfl

@[simp] theorem after_cons (k : Store) (x : Deed) (ds : List Deed) :
    k.after (x :: ds) = (k.did x).after ds := rfl

theorem after_append (k : Store) (ds more : List Deed) :
    k.after (ds ++ more) = (k.after ds).after more :=
  List.foldl_append

theorem after_keys (k : Store) (ds : List Deed) : (k.after ds).keys = k.keys := by
  induction ds generalizing k with
  | nil => rfl
  | cons x ds ih => exact ih (k.did x)

/-- Whether a store admits a deed: no byte of a protected sector is written or erased, and
protection is lifted only with one of the keys. -/
def Allows (k : Store) : Deed → Prop
  | .wrote offset data =>
    ∀ (s : Sector) (i : Nat), offset ≤ i → i < offset + data.length → s.Covers i →
      k.protection.bit s = false
  | .erased s => k.protection.bit s = false
  | .unlocked _ key => k.keys.accepts key = true
  | _ => True

/-- Whether a store admits deeds, one after the other. -/
def Permits (k : Store) : List Deed → Prop
  | [] => True
  | x :: ds => k.Allows x ∧ (k.did x).Permits ds

theorem permits_append (k : Store) (ds more : List Deed) :
    k.Permits (ds ++ more) ↔ k.Permits ds ∧ (k.after ds).Permits more := by
  induction ds generalizing k with
  | nil => simp only [List.nil_append, Permits, after_nil, true_and]
  | cons x ds ih => simp only [List.cons_append, Permits, ih, after_cons, and_assoc]

end Store

/-! ## §2 Deeds and status -/

namespace Status

/-- The status after a deed: nobody takes a lock or lets one go. -/
def did (k : Status) (x : Deed) : Status :=
  { k with toStore := k.toStore.did x, isClosed := x.closes || k.isClosed }

/-- The status after deeds, one after the other. -/
def after (k : Status) (ds : List Deed) : Status :=
  ds.foldl did k

@[simp] theorem after_nil (k : Status) : k.after [] = k := rfl

@[simp] theorem after_cons (k : Status) (x : Deed) (ds : List Deed) :
    k.after (x :: ds) = (k.did x).after ds := rfl

/-- Writing no bytes changes nothing. -/
theorem after_wrote_nil (k : Status) (offset : Nat) : k.after [.wrote offset []] = k := by
  simp only [after_cons, after_nil, did, Store.did, Deed.onPrimary, Image.splice_nil]
  rfl

theorem after_append (k : Status) (ds more : List Deed) :
    k.after (ds ++ more) = (k.after ds).after more :=
  List.foldl_append

theorem after_toStore (k : Status) (ds : List Deed) :
    (k.after ds).toStore = k.toStore.after ds := by
  induction ds generalizing k with
  | nil => rfl
  | cons x ds ih => exact ih (k.did x)

/-- Deeds leave the locks in the hands of their owners. -/
theorem after_owner (k : Status) (ds : List Deed) (b : Buffer) :
    (k.after ds).owner b = k.owner b := by
  induction ds generalizing k with
  | nil => rfl
  | cons x ds ih =>
    rw [after_cons, ih]
    cases b <;> rfl

/-- What is done under a lock does not depend on who owns it. -/
theorem owned_after (k : Status) (ds : List Deed) (b : Buffer) (party : Option Party) :
    (k.owned b party).after ds = (k.after ds).owned b party := by
  induction ds generalizing k with
  | nil => rfl
  | cons x ds ih =>
    rw [after_cons, after_cons, ← ih]
    cases b <;> rfl

/-- Deeds under a lock that was free leave it free when it is let go. -/
theorem owned_after_owned {k : Status} {b : Buffer} (hfree : k.owner b = none) (ds : List Deed)
    (party : Option Party) : ((k.owned b party).after ds).owned b none = k.after ds := by
  rw [owned_after, owned_owned]
  exact owned_self ((k.after_owner ds b).trans hfree)

end Status

/-! ## §3 The deeds of operations -/

namespace Deed

/-- What a write did that returned `count`: the first `count` bytes of the data are there. -/
def ofWrite (offset data : Value) (count : Int) : List Deed :=
  match offset, data.bytes? with
  | .int start, some bytes => [.wrote start.toNat (bytes.take count.toNat)]
  | _, _ => []

/-- What was done to the sector that an argument names. -/
def onSector (sector : Value) (deed : Sector → Deed) : List Deed :=
  match Sector.ofValue sector with
  | .ok s => [deed s]
  | .error _ => []

/-- What was done to the sector that a payload names. -/
def onPayload (payload : Value) (deed : Sector → Deed) : List Deed :=
  match Control.sectorArgument payload with
  | .ok sector => onSector sector deed
  | .error _ => []

/-- What storing given bytes in the mirror did. -/
def ofStore (sector data : Value) : List Deed :=
  match data.bytes?.bind Block.first? with
  | some content => onSector sector fun s => .stored s content
  | none => []

end Deed

/-- What a command that succeeded did to a device. -/
def Command.deeds (d : Device) (payload : Value) : Command → List Deed
  | .lockSector => Deed.onPayload payload .locked
  | .unlockSector =>
    match Packet.Unlock.decode payload with
    | .ok request => [.unlocked request.sector (.string (String.singleton request.key.char))]
    | .error _ => []
  | .getLockInfo => []
  | .eraseSector => Deed.onPayload payload .erased
  | .mirrorSector => Deed.onPayload payload fun s => .captured s (d.primary.block s)
  | .backupToFile => []

/-- What a command of any name or code that succeeded did to a device. -/
def Deed.ofCommand (d : Device) (command payload : Value) : List Deed :=
  match Command.ofValue command with
  | .ok c => c.deeds d payload
  | .error _ => []

/-- What an operation of a handle that succeeded with the given result did to a device. -/
def HandleOperation.deeds (d : Device) (index : Nat) : HandleOperation → Value → List Deed
  | .read _, .octets data => [.advanced index data.length]
  | .write data, .int count =>
    Deed.ofWrite (.number (d.handle index).cursor) data count ++ [.advanced index count.toNat]
  | .pwrite data offset, .int count => Deed.ofWrite offset data count
  | .seek _ _, .number cursor => [.sought index cursor]
  | .close, _ => [.released index]
  | .useOnce, _ => [.released index]
  | _, _ => []

/-- What an operation that succeeded with the given result did to a device. -/
def Operation.deeds (d : Device) : Operation → Value → List Deed
  | .openHandle, _ => [.opened]
  | .control command payload, _ => Deed.ofCommand d command payload
  | .dispatch command payload, _ => Deed.ofCommand d command payload
  | .close, _ => [.closed]
  | .useOnce, _ => [.closed]
  | .handle index op, result => op.deeds d index result
  | .write offset data, .int count => Deed.ofWrite offset data count
  | .lock sector, _ => Deed.onSector sector .locked
  | .unlock sector key, _ => Deed.onSector sector fun s => .unlocked s key
  | .erase sector, _ => Deed.onSector sector .erased
  | .capture sector, _ => Deed.onSector sector fun s => .captured s (d.primary.block s)
  | .store sector data, _ => Deed.ofStore sector data
  | _, _ => []

/-! ## §4 What is true of all deeds -/

namespace Deed

variable {P : Deed → Prop} {d : Device}

theorem forall_onSector {sector : Value} {deed : Sector → Deed} (hdeed : ∀ s, P (deed s)) :
    ∀ x ∈ onSector sector deed, P x := by
  unfold onSector
  cases Sector.ofValue sector with
  | error e => exact List.forall_mem_nil _
  | ok s => exact List.forall_mem_singleton.mpr (hdeed s)

theorem forall_onPayload {payload : Value} {deed : Sector → Deed} (hdeed : ∀ s, P (deed s)) :
    ∀ x ∈ onPayload payload deed, P x := by
  unfold onPayload
  cases Control.sectorArgument payload with
  | error e => exact List.forall_mem_nil _
  | ok sector => exact forall_onSector hdeed

theorem forall_ofWrite {offset data : Value} {count : Int}
    (hwrote : ∀ start bytes, P (.wrote start bytes)) : ∀ x ∈ ofWrite offset data count, P x := by
  unfold ofWrite
  split
  · exact List.forall_mem_singleton.mpr (hwrote _ _)
  · exact List.forall_mem_nil _

theorem forall_ofStore {sector data : Value} (hstored : ∀ s content, P (.stored s content)) :
    ∀ x ∈ ofStore sector data, P x := by
  unfold ofStore
  split
  · exact forall_onSector fun s => hstored s _
  · exact List.forall_mem_nil _

/-- What a command may do. -/
theorem forall_ofCommand {command payload : Value} (hlocked : ∀ s, P (.locked s))
    (hunlocked : ∀ s key, P (.unlocked s key)) (herased : ∀ s, P (.erased s))
    (hcaptured : ∀ s, P (.captured s (d.primary.block s))) :
    ∀ x ∈ ofCommand d command payload, P x := by
  unfold ofCommand
  cases Command.ofValue command with
  | error e => exact List.forall_mem_nil _
  | ok known =>
    cases known with
    | lockSector => exact forall_onPayload hlocked
    | unlockSector =>
      simp only [Command.deeds]
      split
      · exact List.forall_mem_singleton.mpr (hunlocked _ _)
      · exact List.forall_mem_nil _
    | getLockInfo => exact List.forall_mem_nil _
    | eraseSector => exact forall_onPayload herased
    | mirrorSector => exact forall_onPayload hcaptured
    | backupToFile => exact List.forall_mem_nil _

end Deed

/-- What the operations of a handle may do. -/
theorem HandleOperation.forall_deeds_of_handle {P : Deed → Prop} {d : Device} {index : Nat}
    {op : HandleOperation} {result : Value} (hwrote : ∀ start bytes, P (.wrote start bytes))
    (hadvanced : ∀ count, P (.advanced index count)) (hsought : ∀ cursor, P (.sought index cursor))
    (hreleased : P (.released index)) : ∀ x ∈ op.deeds d index result, P x := by
  fun_cases deeds d index op result
  case case1 => exact List.forall_mem_singleton.mpr (hadvanced _)
  case case2 =>
    -- a write at the cursor also moves it
    exact List.forall_mem_append.mpr
      ⟨Deed.forall_ofWrite hwrote, List.forall_mem_singleton.mpr (hadvanced _)⟩
  case case3 => exact Deed.forall_ofWrite hwrote
  case case4 => exact List.forall_mem_singleton.mpr (hsought _)
  case case5 => exact List.forall_mem_singleton.mpr hreleased
  case case6 => exact List.forall_mem_singleton.mpr hreleased
  case case7 => exact List.forall_mem_nil _

/-- What anything but the operations of a handle may do. -/
theorem Operation.forall_deeds_of_device {P : Deed → Prop} {d : Device} {op : Operation}
    {result : Value} (hother : ∀ index hop, op ≠ .handle index hop) (hopened : P .opened)
    (hclosed : P .closed) (hwrote : ∀ start bytes, P (.wrote start bytes))
    (hlocked : ∀ s, P (.locked s)) (hunlocked : ∀ s key, P (.unlocked s key))
    (herased : ∀ s, P (.erased s)) (hcaptured : ∀ s, P (.captured s (d.primary.block s)))
    (hstored : ∀ sector data, op = .store sector data → ∀ s content, P (.stored s content)) :
    ∀ x ∈ op.deeds d result, P x := by
  have hcommand {command payload : Value} : ∀ x ∈ Deed.ofCommand d command payload, P x :=
    Deed.forall_ofCommand hlocked hunlocked herased hcaptured
  cases op with
  | openHandle => exact List.forall_mem_singleton.mpr hopened
  | control command payload => exact hcommand
  | dispatch command payload => exact hcommand
  | close => exact List.forall_mem_singleton.mpr hclosed
  | useOnce => exact List.forall_mem_singleton.mpr hclosed
  | handle index hop => exact absurd rfl (hother index hop)
  | write offset data =>
    cases result with
    | number count =>
      cases count with
      | int n => exact Deed.forall_ofWrite hwrote
      | _ => exact List.forall_mem_nil _
    | _ => exact List.forall_mem_nil _
  | lock sector => exact Deed.forall_onSector hlocked
  | unlock sector key => exact Deed.forall_onSector fun s => hunlocked s key
  | erase sector => exact Deed.forall_onSector herased
  | capture sector => exact Deed.forall_onSector hcaptured
  | store sector data => exact Deed.forall_ofStore (hstored sector data rfl)
  | _ => exact List.forall_mem_nil _

end SectorDisk
