import SectorDisk.Proofs.Contention.Operation
import SectorDisk.Proofs.Control.Metrics
import SectorDisk.Proofs.Packet
import SectorDisk.Proofs.Requests

/-!
# What commands stand for

A command with a well-formed payload stands for one operation of the device, with arguments that the
payload spells (`Command.Orders`).  Dispatching the command does what that operation does and counts
it; without a well-formed payload nothing is done but the counting.

`Command.errand` is the decoding of payloads by itself.  That it accepts just the well-formed ones
is one half of the argument (`errand_eq_ok_iff`), and that a command is carried out by its operation
is the other (`carryOut_of_errand`).
-/

namespace SectorDisk

variable {cmd : Command} {command payload : Value} {op : Operation} {e : Failure}

/-! ## §1 Commands and their codes -/

/-- The value is the command itself or its code. -/
inductive Command.Named (cmd : Command) : Value → Prop
  | command : Named cmd (.command cmd)
  | code : Named cmd (.int cmd.code)

namespace Command

theorem ofCode?_eq_some {n : Int} : ofCode? n = some cmd ↔ (cmd.code : Int) = n := by
  constructor
  · intro hfound
    have hcode := List.find?_some hfound
    exact of_decide_eq_true hcode
  · rintro rfl
    cases cmd <;> rfl

theorem ofValue_eq_ok_iff : Command.ofValue command = .ok cmd ↔ cmd.Named command := by
  constructor
  · intro hname
    unfold Command.ofValue at hname
    split at hname
    · cases hname
      exact .command
    · split at hname
      · rename_i n found hfound
        cases hname
        rw [← ofCode?_eq_some.mp hfound]
        exact .code
      · cases hname
    · cases hname
  · intro hname
    cases hname with
    | command => rfl
    | code => simp only [Command.ofValue, ofCode?_eq_some.mpr rfl]

theorem Named.unique {other : Command} (hname : cmd.Named command) (hother : other.Named command) :
    cmd = other :=
  Except.ok.inj ((ofValue_eq_ok_iff.mpr hname).symm.trans (ofValue_eq_ok_iff.mpr hother))

theorem ofValue_error (hname : Command.ofValue command = .error e) : e = .unsupported command := by
  unfold Command.ofValue at hname
  split at hname
  · cases hname
  · split at hname
    · cases hname
    · cases hname
      rfl
  · cases hname
    rfl

/-! ## §2 Well-formed payloads -/

/-- The well-formed payloads of the commands, and the operation that each of them orders: four bytes
for a sector, four bytes for a sector below eight and a key, nothing that counts as true, and 256
bytes with a zero that spell a path in UTF-8 before it. -/
inductive Orders : Command → Value → Operation → Prop
  | lockSector {kind data} (hsize : data.length = 4) :
    Orders .lockSector (.bytes kind data) (.lock (.int (Packet.int32OfBytes data)))
  | unlockSector {kind s k p q} (hs : s.toNat < 8) :
    Orders .unlockSector (.bytes kind [s, k, p, q])
      (.unlock (.int s.toNat) (.string (String.singleton (Key.ofByte k).char)))
  | getLockInfo {payload : Value} (hfalse : payload.isTrue = false) :
    Orders .getLockInfo payload .protections
  | eraseSector {kind data} (hsize : data.length = 4) :
    Orders .eraseSector (.bytes kind data) (.erase (.int (Packet.int32OfBytes data)))
  | mirrorSector {kind data} (hsize : data.length = 4) :
    Orders .mirrorSector (.bytes kind data) (.capture (.int (Packet.int32OfBytes data)))
  | backupToFile {payload : Value} {data path} (hcount : payload.itemCount? = some 256)
    (hheld : payload.held? = some data) (hnul : 0 ∈ data)
    (htext : data.takeWhile (· ≠ 0) = Text.Utf8.encode path) :
    Orders .backupToFile payload (.backup (.string path))

/-- The operation that a payload of the command decodes to. -/
def errand (payload : Value) : Command → Except Failure Operation
  | lockSector => (Packet.Index.decode payload).map fun n => .lock (.int n)
  | unlockSector =>
    (Packet.Unlock.decode payload).map fun r =>
      .unlock (.int r.sector.val) (.string (String.singleton r.key.char))
  | getLockInfo => if payload.isTrue then .error .payloadExcess else .ok .protections
  | eraseSector => (Packet.Index.decode payload).map fun n => .erase (.int n)
  | mirrorSector => (Packet.Index.decode payload).map fun n => .capture (.int n)
  | backupToFile => (Packet.Path.decode payload).map fun p => .backup (.string p)

theorem Orders.errand_eq (horders : cmd.Orders payload op) : cmd.errand payload = .ok op := by
  have hindex {kind : BytesKind} {data : Bytes} (hsize : data.length = 4) :
      Packet.Index.decode (.bytes kind data) = .ok (Packet.int32OfBytes data) :=
    Packet.Index.decode_eq_ok_iff.mpr ⟨kind, data, rfl, hsize, rfl⟩
  cases horders with
  | lockSector hsize | eraseSector hsize | mirrorSector hsize =>
    rw [errand, hindex hsize]
    rfl
  | unlockSector hs =>
    rw [errand, Packet.Unlock.decode_four, dif_pos hs]
    rfl
  | getLockInfo hfalse => rw [errand, hfalse, if_neg Bool.false_ne_true]
  | backupToFile hcount hheld hnul htext =>
    rw [errand, Packet.Path.decode_eq_ok_iff.mpr ⟨_, hcount, hheld, hnul, htext⟩]
    rfl

theorem Orders.unique {other : Operation} (horders : cmd.Orders payload op)
    (hother : cmd.Orders payload other) : op = other :=
  Except.ok.inj (horders.errand_eq.symm.trans hother.errand_eq)

/-- **Decoding accepts the well-formed payloads** and no others. -/
theorem errand_eq_ok_iff : cmd.errand payload = .ok op ↔ cmd.Orders payload op := by
  constructor
  · intro herrand
    -- the payload of a decoder that succeeds is one of its layout
    cases cmd with
    | lockSector =>
      obtain ⟨n, hn, rfl⟩ := exists_of_map_ok herrand
      obtain ⟨kind, data, rfl, hsize, rfl⟩ := Packet.Index.decode_eq_ok_iff.mp hn
      exact .lockSector hsize
    | unlockSector =>
      obtain ⟨r, hr, rfl⟩ := exists_of_map_ok herrand
      obtain ⟨kind, p, q, rfl⟩ := Packet.Unlock.decode_eq_ok_iff.mp hr
      have hs : r.sector.val.toUInt8.toNat < 8 := by
        rw [Packet.Unlock.toNat_toUInt8_val]
        exact r.sector.isLt
      have horders := @Orders.unlockSector kind _ r.key.byte p q hs
      rw [Packet.Unlock.toNat_toUInt8_val, Packet.Unlock.ofByte_byte] at horders
      exact horders
    | getLockInfo =>
      rw [errand] at herrand
      split at herrand
      · cases herrand
      · rename_i hfalse
        cases herrand
        exact .getLockInfo (Bool.eq_false_iff.mpr hfalse)
    | eraseSector =>
      obtain ⟨n, hn, rfl⟩ := exists_of_map_ok herrand
      obtain ⟨kind, data, rfl, hsize, rfl⟩ := Packet.Index.decode_eq_ok_iff.mp hn
      exact .eraseSector hsize
    | mirrorSector =>
      obtain ⟨n, hn, rfl⟩ := exists_of_map_ok herrand
      obtain ⟨kind, data, rfl, hsize, rfl⟩ := Packet.Index.decode_eq_ok_iff.mp hn
      exact .mirrorSector hsize
    | backupToFile =>
      obtain ⟨p, hp, rfl⟩ := exists_of_map_ok herrand
      obtain ⟨data, hcount, hheld, hnul, htext⟩ := Packet.Path.decode_eq_ok_iff.mp hp
      exact .backupToFile hcount hheld hnul htext
  · exact Orders.errand_eq

/-- The layout of the record that the decoder of a command reads. -/
def record? : Command → Option Layout
  | lockSector | eraseSector | mirrorSector => some .sector
  | unlockSector => some .unlock
  | getLockInfo | backupToFile => none

/-- The payload passes for one of the command's by the number of its items, and has no record. -/
def Misleads (cmd : Command) (payload : Value) : Prop :=
  ∃ layout, cmd.record? = some layout ∧ Packet.Misleads layout payload

/-- A payload that misleads is refused where its record is read. -/
theorem errand_of_misleads (hmisleads : cmd.Misleads payload) :
    ∃ e, cmd.errand payload = .error e ∧ (e.kind = .unsolid ∨ e.kind = .unfilled) := by
  -- only a view misleads, and its items are as many as the record has bytes
  obtain ⟨layout, hrecord, w, rfl, hcount⟩ := hmisleads
  have hpayload := Packet.payload_view hcount
  refine ⟨_, ?_, Packet.misleadingEnd_kind layout w⟩
  cases cmd with
  | lockSector | eraseSector | mirrorSector =>
    cases hrecord
    rw [errand, Packet.Index.decode, hpayload]
    rfl
  | unlockSector =>
    cases hrecord
    rw [errand, Packet.Unlock.decode_of_error hpayload]
    rfl
  | getLockInfo | backupToFile => cases hrecord

theorem Orders.not_misleads (horders : cmd.Orders payload op) : ¬ cmd.Misleads payload := by
  intro hmisleads
  obtain ⟨e, herror, -⟩ := errand_of_misleads hmisleads
  cases horders.errand_eq.symm.trans herror

/-- How a payload that orders nothing is refused: as an argument, or raw where it misleads. -/
structure Refusal (cmd : Command) (payload : Value) (e : Failure) : Prop where
  plain : ¬ cmd.Misleads payload → e.kind = .invalidArgument
  raw : cmd.Misleads payload → e.kind = .unsolid ∨ e.kind = .unfilled

theorem errand_kind (herror : cmd.errand payload = .error e) (hplain : ¬ cmd.Misleads payload) :
    e.kind = .invalidArgument := by
  have hmap {α : Type} {r : Except Failure α} {f : α → Operation}
      (hkind : ∀ e, r = .error e → e.kind = .invalidArgument) (hr : r.map f = .error e) :
      e.kind = .invalidArgument := by
    cases r with
    | error e' =>
      cases hr
      exact hkind _ rfl
    | ok a => cases hr
  cases cmd with
  | lockSector | eraseSector | mirrorSector =>
    exact hmap (fun _ hr => Packet.Index.decode_kind hr fun hbad => hplain ⟨_, rfl, hbad⟩) herror
  | unlockSector =>
    exact hmap (fun _ hr => Packet.Unlock.decode_kind hr fun hbad => hplain ⟨_, rfl, hbad⟩) herror
  | getLockInfo =>
    rw [errand] at herror
    split at herror
    · cases herror
      rfl
    · cases herror
  | backupToFile => exact hmap (fun _ => Packet.Path.decode_kind) herror

theorem errand_refusal (herror : cmd.errand payload = .error e) : cmd.Refusal payload e where
  plain := errand_kind herror
  raw hmisleads := by
    obtain ⟨e', herror', hraw⟩ := errand_of_misleads hmisleads
    cases herror.symm.trans herror'
    exact hraw

/-- What refuses a payload is never that there is no such command. -/
theorem Refusal.supported (hrefusal : cmd.Refusal payload e) : e.kind ≠ .unsupportedOperation := by
  intro hkind
  by_cases hmisleads : cmd.Misleads payload
  · rcases hrefusal.raw hmisleads with hraw | hraw <;> cases hraw.symm.trans hkind
  · cases (hrefusal.plain hmisleads).symm.trans hkind

/-! ## §3 Carrying out a command -/

/-- What a command answers where its operation ends with a value: the protection of the sectors as a
payload, and nothing otherwise. -/
def answer : Command → Value → Value
  | getLockInfo, .list flags => .octets (Packet.flagBytes (flags.map Value.isTrue))
  | _, v => v

end Command

variable {c : Circumstance} {h : Host}

theorem Op.giving_giving {α : Type} (op : Op α) (f : α → Value) (g : Value → Value) :
    (op.giving f).giving g = op.giving (fun a => g (f a)) := by
  funext c h
  rw [giving_run, giving_run, giving_run]
  cases (op c h).1 <;> rfl

namespace Control

/-- A command with an argument and no answer does what its operation does. -/
theorem carryOut_unit {α : Type} {r : Except Failure α} {a : α} (hr : r = .ok a)
    (next : α → Op Unit) (hnone : cmd.answer .none = .none) :
    (do
      let x ← r
      next x
      return Value.none : Op Value) c h = ((next a).giving unitValue).giving cmd.answer c h := by
  have hanswer : (fun x => cmd.answer (unitValue x)) = unitValue := funext fun _ => hnone
  rw [hr, Op.lift_ok_bind_run, Op.giving_giving, hanswer]
  rfl

/-- A command whose payload decodes is carried out by its operation. -/
theorem carryOut_of_errand (herrand : cmd.errand payload = .ok op) :
    carryOut cmd payload c h = op.perform.giving cmd.answer c h := by
  have hsector {n : Int} (hn : Packet.Index.decode payload = .ok n) :
      sectorArgument payload = .ok (.int n) := by
    rw [sectorArgument, hn]
    rfl
  cases cmd with
  | lockSector =>
    obtain ⟨n, hn, rfl⟩ := exists_of_map_ok herrand
    exact carryOut_unit (hsector hn) Storage.lock rfl
  | unlockSector =>
    obtain ⟨r, hr, rfl⟩ := exists_of_map_ok herrand
    exact carryOut_unit hr (fun r => Storage.unlock _ _) rfl
  | getLockInfo =>
    rw [Command.errand] at herrand
    split at herrand
    · cases herrand
    · rename_i hfalse
      cases herrand
      -- the answer is made of the flags, which the operation gives as values
      have hanswer : (fun flags : List Bool =>
          Command.getLockInfo.answer (.list (flags.map Value.bool))) =
          fun flags => .octets (Packet.flagBytes flags) := by
        funext flags
        have hself (b : Bool) : (Value.bool b).isTrue = b := rfl
        simp only [Command.answer, List.map_map, Function.comp_def, hself, List.map_id']
      unfold carryOut
      rw [if_neg hfalse]
      change Storage.protections.giving _ c h = (Storage.protections.giving _).giving _ c h
      rw [Op.giving_giving, hanswer]
  | eraseSector =>
    obtain ⟨n, hn, rfl⟩ := exists_of_map_ok herrand
    exact carryOut_unit (hsector hn) Storage.erase rfl
  | mirrorSector =>
    obtain ⟨n, hn, rfl⟩ := exists_of_map_ok herrand
    exact carryOut_unit (hsector hn) Mirror.capture rfl
  | backupToFile =>
    obtain ⟨p, hp, rfl⟩ := exists_of_map_ok herrand
    exact carryOut_unit hp (fun p => Mirror.backup (.string p)) rfl

theorem carryOut_of_error (herror : cmd.errand payload = .error e) :
    carryOut cmd payload c h = (.error e, h) := by
  have hmap {α : Type} {r : Except Failure α} {f : α → Operation} {next : α → Op Value}
      (hr : r.map f = .error e) : (liftM r >>= next : Op Value) c h = (.error e, h) := by
    cases r with
    | error e' =>
      cases hr
      rfl
    | ok a => cases hr
  have hsector {f : Int → Operation} {next : Value → Op Value}
      (hr : (Packet.Index.decode payload).map f = .error e) :
      (liftM (sectorArgument payload) >>= next : Op Value) c h = (.error e, h) := by
    unfold sectorArgument
    cases hn : Packet.Index.decode payload with
    | error e' =>
      rw [hn] at hr
      cases hr
      rfl
    | ok n =>
      rw [hn] at hr
      cases hr
  cases cmd with
  | lockSector | eraseSector | mirrorSector => exact hsector herror
  | unlockSector => exact hmap herror
  | getLockInfo =>
    rw [Command.errand] at herror
    split at herror
    · rename_i htrue
      cases herror
      unfold carryOut
      rw [if_pos htrue]
      rfl
    · cases herror
  | backupToFile => exact hmap herror

/-- What is done for commands does not look at the metrics. -/
theorem errand_unmetered (herrand : cmd.errand payload = .ok op) : op.perform.Unmetered := by
  have hother : op ≠ .metrics ∧ op.command? = none := by
    cases Command.errand_eq_ok_iff.mp herrand <;> exact ⟨Operation.noConfusion, rfl⟩
  exact Operation.unmetered hother.1 hother.2

/-! ## §4 Dispatching a command -/

/-- From one host to the other a command was counted: nothing else differs but what the operator was
told. -/
structure Registers (h h' : Host) : Prop where
  device : ∃ m, h'.device = h.device.withMetrics m
  files : h'.files = h.files
  tells : h.Tells h'

theorem Registers.record (f : Metrics → Metrics) (h : Host) : Registers h (record f h) :=
  ⟨⟨_, rfl⟩, rfl, .refl h⟩

theorem Registers.tell (n : Notice) (h : Host) : Registers h (h.tell n) :=
  ⟨⟨h.device.metrics, rfl⟩, rfl, .tell h n⟩

theorem Registers.trans {h h' h'' : Host} (hfirst : Registers h h') (hthen : Registers h' h'') :
    Registers h h'' := by
  obtain ⟨⟨m, hdevice⟩, hfiles, htells⟩ := hfirst
  obtain ⟨⟨m', hdevice'⟩, hfiles', htells'⟩ := hthen
  refine ⟨⟨m', ?_⟩, hfiles'.trans hfiles, htells.trans htells'⟩
  rw [hdevice', hdevice, Device.withMetrics, Device.withMetrics, Device.withMetrics]

theorem registers_recorded (latency : Float) (r : Except Failure Value) (h : Host) :
    Registers h (recorded cmd latency r h) := by
  unfold recorded
  cases r with
  | ok answer => exact .record _ h
  | error e => exact ((Registers.record _ h).trans (.tell _ _)).trans (.record _ _)

theorem dispatch_of_named (hname : cmd.Named command) :
    dispatch command payload = counted cmd payload := by
  unfold dispatch
  rw [Command.ofValue_eq_ok_iff.mpr hname]

/-- **A well-formed command** ends as its operation does and counts it. -/
theorem dispatch_of_orders (hname : cmd.Named command) (horders : cmd.Orders payload op) :
    (dispatch command payload c h).1 = (op.perform c h).1.map cmd.answer ∧
      Registers (op.perform c h).2 (dispatch command payload c h).2 := by
  have herrand := horders.errand_eq
  -- the command is counted as started before it is carried out
  have hrun := carryOut_of_errand (c := c) (h := record (·.started cmd) h) herrand
  rw [Op.giving_run, errand_unmetered herrand] at hrun
  rw [dispatch_of_named hname, counted_eq, hrun]
  exact ⟨rfl, (Registers.record _ _).trans (registers_recorded _ _ _)⟩

/-- **A command without a well-formed payload** is refused and counted. -/
theorem dispatch_of_malformed (hname : cmd.Named command)
    (hnone : ∀ op, ¬ cmd.Orders payload op) :
    (∃ e, (dispatch command payload c h).1 = .error e ∧ cmd.Refusal payload e) ∧
      Registers h (dispatch command payload c h).2 := by
  cases herrand : cmd.errand payload with
  | ok op => exact absurd (Command.errand_eq_ok_iff.mp herrand) (hnone op)
  | error e =>
    rw [dispatch_of_named hname, counted_eq, carryOut_of_error herrand]
    exact ⟨⟨e, rfl, Command.errand_refusal herrand⟩,
      (Registers.record (·.started cmd) h).trans (registers_recorded c.latency (.error e) _)⟩

/-- **A value that is no command** is refused as such. -/
theorem dispatch_of_unnamed (hnone : ∀ cmd : Command, ¬ cmd.Named command) :
    dispatch command payload c h =
      (.error (.unsupported command), h.tell (.unsupported command)) := by
  cases hname : Command.ofValue command with
  | ok cmd => exact absurd (Command.ofValue_eq_ok_iff.mp hname) (hnone cmd)
  | error e =>
    unfold dispatch
    rw [hname, Command.ofValue_error hname]
    rfl

end Control

end SectorDisk
