import SectorDisk.Proofs.Atomicity
import SectorDisk.Proofs.Control.Errand

/-!
# The wire and the device

A command whose payload was made by one of the encoders does what the operation of the same
arguments does, on every open device: what is encoded comes back (`Packet`), and a payload that is
well-formed orders that operation (`Command.Orders`).  Neither the code that stands for a command
nor the kind of byte string that holds its payload makes a difference.  A view with gaps between its
items does, although it holds the same bytes: no record is read from it (`Command.Misleads`).
-/

namespace SectorDisk

variable {c : Circumstance} {h : Host} {cmd : Command} {command command' payload : Value}
  {kind kind' : BytesKind} {data : Bytes} {op : Operation}

/-! ## §1 What encoders make -/

namespace Command.Orders

theorem sector (kind : BytesKind) {n : Int} (hlow : -2147483648 ≤ n) (hhigh : n ≤ 2147483647) :
    Orders .lockSector (.bytes kind (Packet.int32Bytes n)) (.lock (.int n)) ∧
      Orders .eraseSector (.bytes kind (Packet.int32Bytes n)) (.erase (.int n)) ∧
      Orders .mirrorSector (.bytes kind (Packet.int32Bytes n)) (.capture (.int n)) := by
  -- the three commands on a sector share one layout
  simp only [← errand_eq_ok_iff, errand, Packet.Index.decode_int32Bytes kind hlow hhigh]
  exact ⟨rfl, rfl, rfl⟩

theorem unlock (kind : BytesKind) (r : Packet.Unlock) :
    Orders .unlockSector (.bytes kind r.encode)
      (.unlock (.int r.sector.val) (.string (String.singleton r.key.char))) := by
  rw [← errand_eq_ok_iff, errand, Packet.Unlock.decode_encode]
  rfl

theorem backup (kind : BytesKind) {p : String} (hnul : 0 ∉ Text.Utf8.encode p)
    (hshort : (Text.Utf8.encode p).length < 256) :
    Orders .backupToFile (.bytes kind (Packet.Path.padded p)) (.backup (.string p)) := by
  rw [← errand_eq_ok_iff, errand, Packet.Path.decode_padded kind hnul hshort]
  rfl

end Command.Orders

/-! ## §2 What does not matter -/

variable {payload' : Value}

theorem Command.errand_of_same (hsame : payload.SameItems payload')
    (hplain : ¬ cmd.Misleads payload) (hplain' : ¬ cmd.Misleads payload') :
    cmd.errand payload = cmd.errand payload' := by
  have hrecord {layout : Layout} (hlayout : cmd.record? = some layout) :
      Packet.payload layout payload = Packet.payload layout payload' :=
    Packet.payload_of_same hsame (fun hbad => hplain ⟨layout, hlayout, hbad⟩)
      fun hbad => hplain' ⟨layout, hlayout, hbad⟩
  cases cmd with
  | lockSector | eraseSector | mirrorSector =>
    rw [errand, errand, Packet.Index.decode, Packet.Index.decode, hrecord rfl]
  | unlockSector => rw [errand, errand, Packet.Unlock.decode, Packet.Unlock.decode, hrecord rfl]
  | getLockInfo =>
    -- this one only asks whether there are items
    obtain ⟨data, count, -, -, hcount, hcount'⟩ := hsame
    rw [errand, errand, Value.isTrue_of_itemCount? hcount, Value.isTrue_of_itemCount? hcount']
  | backupToFile => rw [errand, errand, Packet.Path.decode_of_same hsame]

/-- Neither the code of a command matters nor what holds its payload, unless that misleads. -/
theorem Control.dispatch_of_same (hname : cmd.Named command) (hname' : cmd.Named command')
    (hsame : payload.SameItems payload') (hplain : ¬ cmd.Misleads payload)
    (hplain' : ¬ cmd.Misleads payload') :
    dispatch command payload = dispatch command' payload' := by
  rw [dispatch_of_named hname, dispatch_of_named hname']
  funext c h
  rw [counted_eq, counted_eq]
  have herrands := Command.errand_of_same hsame hplain hplain'
  cases herrand : cmd.errand payload' with
  | ok op => rw [carryOut_of_errand (herrands.trans herrand), carryOut_of_errand herrand]
  | error e => rw [carryOut_of_error (herrands.trans herrand), carryOut_of_error herrand]

/-! ## §3 Commands on an open device -/

/-- A command ends as an operation does and does the same, but for counting the command and telling
its operator of a failure. -/
structure Control.Follows (direct out : Except Failure Value × Host) : Prop where
  result : out.1 = direct.1
  registers : Registers direct.2 out.2

theorem Device.control_of_open (hopen : h.device.isClosed = false) :
    control command payload c h = Control.dispatch command payload c h := by
  have hrun : check c h = (.ok (), h) := by
    rw [check_run, if_neg (by rw [hopen]; exact Bool.false_ne_true)]
  unfold control
  rw [Op.bind_of_ok (congrArg Prod.fst hrun), hrun]

/-- All commands but one answer nothing, so that their results are those of their operations. -/
theorem Control.follows_of_orders (hname : cmd.Named command) (horders : cmd.Orders payload op)
    (hother : cmd ≠ .getLockInfo) (hopen : h.device.isClosed = false) :
    Follows (op.perform c h) ((Operation.control command payload).perform c h) := by
  have hrun : (Operation.control command payload).perform c h = dispatch command payload c h :=
    Device.control_of_open hopen
  obtain ⟨hresult, hregisters⟩ := dispatch_of_orders (c := c) (h := h) hname horders
  have hanswer : cmd.answer = id := by
    funext v
    cases cmd with
    | getLockInfo => exact absurd rfl hother
    | _ => rfl
  rw [hrun]
  refine ⟨?_, hregisters⟩
  rw [hresult, hanswer]
  cases (op.perform c h).1 <;> rfl

/-- The answer to the query for protection is decoded to the protection of all sectors. -/
theorem Control.protections_of_query (hname : Command.Named .getLockInfo command)
    (hfalse : payload.isTrue = false) (hopen : h.device.isClosed = false) :
    ((Operation.control command payload).perform c h).1.bind Packet.Protection.decode =
        (Storage.protections c h).1 ∧
      Registers (Storage.protections c h).2
        ((Operation.control command payload).perform c h).2 := by
  have hrun : (Operation.control command payload).perform c h = dispatch command payload c h :=
    Device.control_of_open hopen
  obtain ⟨hresult, hregisters⟩ :=
    dispatch_of_orders (c := c) (h := h) hname (.getLockInfo hfalse)
  change Registers (Storage.protections.giving _ c h).2 _ at hregisters
  change _ = Except.map _ (Storage.protections.giving _ c h).1 at hresult
  rw [Op.giving_run] at hresult hregisters
  rw [hrun, hresult]
  refine ⟨?_, hregisters⟩
  cases hflags : (Storage.protections c h).1 with
  | error e => rfl
  | ok flags =>
    have hlist : flags = h.device.store.protection.toList :=
      Op.inspect_ok (fun k => k.protection.toList) hflags
    have hsize : flags.length = 8 := by rw [hlist, Vector.length_toList]
    -- the flags go through the answer of the command and come back
    have hself : (flags.map Value.bool).map Value.isTrue = flags := by
      rw [List.map_map]
      exact List.map_id' flags
    change Packet.Protection.decode
      (.octets (Packet.flagBytes ((flags.map Value.bool).map Value.isTrue))) = _
    rw [hself, Packet.Protection.decode_flagBytes hsize]

/-- **The wire refines the device.**  On an open device every command whose payload was encoded from
arguments ends as the operation of these arguments and does the same: for every integer that an
index has room for, every sector and character of a request, every path that a payload has room for;
and the answer to the query for protection is decoded to what the device tells of it.  It makes no
difference whether the command or its code is given, and in which byte string or view the payload,
unless a view misleads.  Then the command fails and only is counted. -/
theorem Device.control_refines (c : Circumstance) (h : Host) (hopen : h.device.isClosed = false)
    (kind : BytesKind) :
    (∀ n : Int, -2147483648 ≤ n → n ≤ 2147483647 →
      ∃ data, Packet.Index.encode (.int n) = .ok data ∧ ∀ command,
        (Command.Named .lockSector command → Control.Follows ((Operation.lock (.int n)).perform c h)
          ((Operation.control command (.bytes kind data)).perform c h)) ∧
        (Command.Named .eraseSector command →
          Control.Follows ((Operation.erase (.int n)).perform c h)
            ((Operation.control command (.bytes kind data)).perform c h)) ∧
        (Command.Named .mirrorSector command →
          Control.Follows ((Operation.capture (.int n)).perform c h)
            ((Operation.control command (.bytes kind data)).perform c h))) ∧
    (∀ (s : Sector) (k : Key),
      ∃ r, Packet.Unlock.make (.int s.val) (.string (String.singleton k.char)) = .ok r ∧
        ∀ command, Command.Named .unlockSector command →
          Control.Follows
            ((Operation.unlock (.int s.val) (.string (String.singleton k.char))).perform c h)
            ((Operation.control command (.bytes kind r.encode)).perform c h)) ∧
    (∀ command payload, Command.Named .getLockInfo command → payload.isTrue = false →
      ((Operation.control command payload).perform c h).1.bind Packet.Protection.decode =
          (Storage.protections c h).1 ∧
        Control.Registers (Storage.protections c h).2
          ((Operation.control command payload).perform c h).2) ∧
    (∀ p : String, (∀ x ∈ p.toList, x.toNat ≠ 0) → (Text.Utf8.encode p).length < 256 →
      ∃ data, Packet.Path.encode (.string p) = .ok data ∧
        ∀ command, Command.Named .backupToFile command →
          Control.Follows ((Operation.backup (.string p)).perform c h)
            ((Operation.control command (.bytes kind data)).perform c h)) ∧
    (∀ (cmd : Command) (command command' payload payload' : Value),
      cmd.Named command → cmd.Named command' → payload.SameItems payload' →
        ¬ cmd.Misleads payload → ¬ cmd.Misleads payload' →
          (Operation.control command payload).perform c h =
            (Operation.control command' payload').perform c h) ∧
    ∀ (cmd : Command) (command payload : Value), cmd.Named command → cmd.Misleads payload →
      (∃ e, ((Operation.control command payload).perform c h).1 = .error e ∧
        (e.kind = .unsolid ∨ e.kind = .unfilled)) ∧
      Control.Registers h ((Operation.control command payload).perform c h).2 := by
  refine ⟨?index, ?unlock, ?query, ?path, ?spelling, ?misled⟩
  case index =>
    intro n hlow hhigh
    obtain ⟨hlock, herase, hmirror⟩ := Command.Orders.sector kind hlow hhigh
    refine ⟨_, Packet.Index.encodeInt_eq hlow hhigh, fun command => ⟨?_, ?_, ?_⟩⟩
    · exact fun hname => Control.follows_of_orders hname hlock (by decide) hopen
    · exact fun hname => Control.follows_of_orders hname herase (by decide) hopen
    · exact fun hname => Control.follows_of_orders hname hmirror (by decide) hopen
  case unlock =>
    intro s k
    have hmake : Packet.Unlock.make (.int s.val) (.string (String.singleton k.char)) =
        .ok ⟨s, k⟩ := by rw [Packet.Unlock.make_char, dif_pos s.isLt]
    refine ⟨⟨s, k⟩, hmake, fun command hname => ?_⟩
    exact Control.follows_of_orders hname (.unlock kind ⟨s, k⟩) (by decide) hopen
  case query =>
    intro command payload hname hfalse
    exact Control.protections_of_query hname hfalse hopen
  case path =>
    intro p hzeros hshort
    have hnul : 0 ∉ Text.Utf8.encode p := by
      rw [Text.Utf8.zero_mem_encode]
      rintro ⟨x, hx, hzero⟩
      exact hzeros x hx hzero
    refine ⟨_, Packet.Path.encode_eq hnul hshort, fun command hname => ?_⟩
    exact Control.follows_of_orders hname (.backup kind hnul hshort) (by decide) hopen
  case spelling =>
    intro cmd command command' payload payload' hname hname' hsame hplain hplain'
    change control _ _ c h = control _ _ c h
    rw [control_of_open hopen, control_of_open hopen,
      Control.dispatch_of_same hname hname' hsame hplain hplain']
  case misled =>
    intro cmd command payload hname hmisleads
    have hnone : ∀ op, ¬ cmd.Orders payload op := fun op horders =>
      horders.not_misleads hmisleads
    obtain ⟨⟨e, hfail, hrefusal⟩, hregisters⟩ :=
      Control.dispatch_of_malformed (c := c) (h := h) hname hnone
    change (∃ e, (control command payload c h).1 = .error e ∧ _) ∧
      Control.Registers h (control command payload c h).2
    rw [control_of_open hopen]
    exact ⟨⟨e, hfail, hrefusal.raw hmisleads⟩, hregisters⟩

/-- A sector that the disk does not have is refused alike, and so a backup waits for the mirror. -/
theorem Device.busyHost_control :
    (∃ data, Packet.Index.encode (.int (-1)) = .ok data ∧
      Control.Follows ((Operation.lock (.int (-1))).perform {} busyHost)
        ((Operation.control (.int 1) (.bytes .view data)).perform {} busyHost)) ∧
      ∃ data, Packet.Path.encode (.string "disk") = .ok data ∧
        Control.Follows ((Operation.backup (.string "disk")).perform {} busyHost)
          ((Operation.control (.command .backupToFile) (.bytes .view data)).perform {}
            busyHost) := by
  obtain ⟨hindex, -, -, hpath, -, -⟩ := control_refines {} busyHost rfl .view
  obtain ⟨data, hencode, hfollows⟩ := hindex (-1) (by decide) (by decide)
  have hlength : (Text.Utf8.encode "disk").length = 4 := rfl
  obtain ⟨data', hencode', hfollows'⟩ := hpath "disk" (by simp) (by omega)
  exact ⟨⟨data, hencode, (hfollows (.int 1)).1 .code⟩, data', hencode', hfollows' _ .command⟩

/-- That views with the same bytes as a payload do the same is too much to say. -/
theorem Device.not_control_of_same :
    ¬ ∀ (cmd : Command) (command payload payload' : Value), cmd.Named command →
      payload.SameItems payload' →
        ((Operation.control command payload).perform {} .fresh).1 =
          ((Operation.control command payload').perform {} .fresh).1 := by
  intro hall
  have hsame : (Value.octets [0, 0, 0, 0]).SameItems (.view (.spacedZeros 4)) :=
    ⟨_, _, rfl, rfl, rfl, rfl⟩
  have hends := hall .lockSector (.command .lockSector) _ _ .command hsame
  have hlocks : ((Operation.control (.command .lockSector) (.octets [0, 0, 0, 0])).perform {}
      .fresh).1 = .ok .none := rfl
  have hfails : ((Operation.control (.command .lockSector) (.view (.spacedZeros 4))).perform {}
      .fresh).1 = .error .payloadSpaced := rfl
  cases hlocks.symm.trans (hends.trans hfails)

end SectorDisk
