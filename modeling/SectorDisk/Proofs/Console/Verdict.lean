import SectorDisk.Console.Session
import SectorDisk.Proofs.Argument
import SectorDisk.Proofs.Console.Acting
import SectorDisk.Proofs.Console.Arguments
import SectorDisk.Proofs.Exposition
import SectorDisk.Proofs.Success

/-!
# Confirmed or reported

A request other than a demonstration stands for one call of the device.  Carrying it out either does
what that call does and prints its confirmation, or prints nothing, reports one failure, and leaves
buffers and protection as they were (`Session.obey_confirms_or_reports`).
-/

namespace SectorDisk.Console

/-! ## §1 Calls and confirmations -/

/-- Where the sector that an argument names would begin. -/
def dumpStart : Value → Value
  | .int n => .int (sectorSize * n)
  | v => v

/-- The line on what happened to a sector. -/
def sectorLine (sector : Value) (deed : String) : String :=
  "Sector " ++ sector.text ++ " " ++ deed

/-- The line on the protection of a sector. -/
def lockLine (sector : Nat) : Bool → String
  | true => "Sector " ++ toString sector ++ ": LOCKED"
  | false => "Sector " ++ toString sector ++ ": UNLOCKED"

theorem protectionLine_eq (entry : Bool × Nat) :
    protectionLine entry = lockLine entry.2 entry.1 := by
  rcases entry with ⟨on, sector⟩
  cases on with
  | true => exact String.append_assoc
  | false => exact String.append_assoc

namespace Request

/-- The call of the device that a request stands for; a demonstration is more than one. -/
def call? : Request → Option Operation
  | read offset length => some (.read offset length)
  | write offset data => some (.write offset data)
  | lock sector => some (.lock sector)
  | unlock sector key => some (.unlock sector key)
  | lockInfo => some .protections
  | erase sector => some (.erase sector)
  | mirror sector => some (.capture sector)
  | backup path => some (.backup path)
  | dump sector => some (.read (dumpStart sector) (.int sectorSize))
  | metrics => some .metrics
  | demo _ => none

/-- Whether a request only shows something. -/
def shows : Request → Bool
  | read .. | lockInfo | dump _ | metrics => true
  | _ => false

/-- The dump of an answer from an offset on. -/
def dumped (offset answer : Value) : List String :=
  let base := match offset with | .int n => n | _ => 0
  dumpLines base 16 (answer.bytes?.getD [])

/-- The lines that confirm a request to a device, given the answer to its call. -/
def confirmation (d : Device) : Request → Value → List String
  | read offset _, answer =>
    ("Read " ++ toString (answer.bytes?.getD []).length ++ " bytes") :: dumped offset answer
  | write offset _, answer => ["Wrote " ++ answer.text ++ " bytes at offset " ++ offset.text]
  | lock sector, _ => [sectorLine sector "locked"]
  | unlock sector key, _ => ["Sector " ++ sector.text ++ " unlocked with key " ++ key.text]
  | lockInfo, answer =>
    let flags := (answer.elements?.getD []).map Value.isTrue
    "Lock status:" :: flags.zipIdx.map fun entry => lockLine entry.2 entry.1
  | erase sector, _ => [sectorLine sector "erased"]
  | mirror sector, _ => [sectorLine sector "mirrored"]
  | backup path, _ => ["Storage backup written to " ++ path.text]
  | dump sector, answer => dumped (dumpStart sector) answer
  | metrics, _ => d.metrics.exposition
  | demo _, _ => []

end Request

theorem dumpLines_nil (base : Int) (width : Nat) : dumpLines base width [] = [] := by
  simp [dumpLines, chunks]

/-! ## §2 Verdicts -/

variable {sink : Sink} {h : Host} {op : Operation} {confirmation : Value → List String}
  {out : Except Failure Unit × Stage}

/-- From a host, an act either did what the operation does and printed the confirmation of its
result, or failed, printed nothing, and changed nothing but metrics and handles. -/
inductive Verdict (sink : Sink) (h : Host) (op : Operation) (confirmation : Value → List String) :
    Except Failure Unit × Stage → Prop
  | confirmed {v : Value} {h' : Host} (hresult : (op.perform { sink := sink } h).1 = .ok v)
      (halike : (op.perform { sink := sink } h).2.Alike h') :
    Verdict sink h op confirmation (.ok (), { host := h', printed := confirmation v, sink := sink })
  | refused {e : Failure} {h' : Host}
      (hkept : h'.device.status = { h.device.status with handles := h'.device.handles }) :
    Verdict sink h op confirmation (.error e, { host := h', sink := sink })

/-- An operation that fails has done nothing where nothing is to happen while it waits, however the
backup files behave. -/
theorem status_of_error {e : Failure} (herror : (op.perform { sink := sink } h).1 = .error e) :
    (op.perform { sink := sink } h).2.device.status = h.device.status := by
  rcases op.idle_of_failed herror with hsame | ⟨w, hwake, -⟩
  · exact hsame
  · cases hwake

namespace Verdict

theorem refused_alike {e : Failure} {h' : Host} (halike : h.Alike h') :
    Verdict sink h op confirmation (.error e, { host := h', sink := sink }) :=
  .refused halike.status

/-- A failure that the operation met as well. -/
theorem refused_with {e : Failure} {h' : Host} {op' : Operation}
    (herror : (op'.perform { sink := sink } h).1 = .error e)
    (halike : (op'.perform { sink := sink } h).2.Alike h') :
    Verdict sink h op confirmation (.error e, { host := h', sink := sink }) := by
  have hstatus := halike.status
  -- the host is like one on which the operation failed, and so did nothing
  rw [status_of_error herror] at hstatus
  exact .refused hstatus

/-- Where one operation fails, the verdict is the same for all. -/
theorem of_error {op' : Operation} (hverdict : Verdict sink h op' confirmation out) {e : Failure}
    (herror : (op'.perform { sink := sink } h).1 = .error e) :
    Verdict sink h op confirmation out := by
  cases hverdict with
  | confirmed hresult => cases herror.symm.trans hresult
  | refused hkept => exact .refused hkept

/-- An act that begins with a judgement. -/
theorem judged {α : Type} {r : Except Failure α} {next : α → Act Unit}
    (hnext : ∀ a, r = .ok a → Verdict sink h op confirmation (next a { host := h, sink := sink })) :
    Verdict sink h op confirmation ((liftM r >>= next : Act Unit) { host := h, sink := sink }) := by
  cases r with
  | error e => exact refused_alike (.refl h)
  | ok a => exact hnext a rfl

/-- An act that begins with an operation. -/
theorem operated {α : Type} (first : Op α) {next : α → Act Unit}
    (herror : ∀ e, (first { sink := sink } h).1 = .error e →
      Verdict sink h op confirmation
        (.error e, { host := (first { sink := sink } h).2, sink := sink }))
    (hok : ∀ a, (first { sink := sink } h).1 = .ok a →
      Verdict sink h op confirmation
        (next a { host := (first { sink := sink } h).2, sink := sink })) :
    Verdict sink h op confirmation ((Act.operate first >>= next) { host := h, sink := sink }) := by
  cases hr : (first { sink := sink } h).1 with
  | error e =>
    have hfirst : (Act.operate first { host := h, sink := sink }).1 = .error e := hr
    rw [Act.bind_of_error hfirst]
    exact herror e hr
  | ok a =>
    have hfirst : (Act.operate first { host := h, sink := sink }).1 = .ok a := hr
    rw [Act.bind_of_ok hfirst]
    exact hok a hr

/-- A command whose payload orders the operation, and a line about it. -/
theorem command {cmd : Command} {payload : Bytes} (hopen : h.device.isClosed = false)
    (horders : cmd.Orders (.octets payload) op) (hother : cmd ≠ .getLockInfo) (line : String) :
    Verdict sink h op (fun _ => [line]) ((do
      let _ ← control cmd payload
      Act.say line : Act Unit) { host := h, sink := sink }) := by
  obtain ⟨hresult, hregisters⟩ :=
    Control.follows_of_orders (c := { sink := sink }) .command horders hother hopen
  have halike := Host.Alike.of_registers hregisters
  apply operated (control cmd payload)
  · intro e he
    exact refused_with (hresult.symm.trans he) halike
  · intro v hv
    exact confirmed (hresult.symm.trans hv) halike

/-- A transfer through a handle of its own, and lines about what it transferred. -/
theorem transfer {α : Type} {f : α → Value} {transfer : Op α} {next : α → Act Unit}
    (hopen : h.device.isClosed = false) (hcall : op.perform = transfer.giving f)
    (hignores : ∀ x, transfer.Ignores x)
    (hnext : ∀ a, (transfer { sink := sink } h).1 = .ok a →
      ∀ h', next a { host := h', sink := sink } =
        (.ok (), { host := h', printed := confirmation (f a), sink := sink })) :
    Verdict sink h op confirmation
      ((Act.withHandle (fun index => Act.operate (Stream.check index >>= fun _ => transfer)) >>=
        next) { host := h, sink := sink }) := by
  obtain ⟨h', hrun, halike⟩ := Act.withHandle_run { host := h, sink := sink } hopen hignores
  have hdirect : op.perform { sink := sink } h =
      ((transfer { sink := sink } h).1.map f, (transfer { sink := sink } h).2) := by
    rw [hcall, Op.giving_run]
  have halike' : (op.perform { sink := sink } h).2.Alike h' := by
    rw [hdirect]
    exact halike
  cases hr : (transfer { sink := sink } h).1 with
  | error e =>
    rw [hr] at hrun hdirect
    rw [Act.bind_of_error (congrArg Prod.fst hrun), hrun]
    exact refused_with (congrArg Prod.fst hdirect) halike'
  | ok a =>
    rw [hr] at hrun hdirect
    rw [Act.bind_of_ok (congrArg Prod.fst hrun), hrun, hnext a hr]
    exact confirmed (congrArg Prod.fst hdirect) halike'

end Verdict

/-! ## §3 Requests -/

section Requests

variable (hopen : h.device.isClosed = false)
include hopen

theorem actRead_verdict (offset length : Value) :
    Verdict sink h (.read offset length) (Request.confirmation h.device (.read offset length))
      (actRead offset length { host := h, sink := sink }) := by
  refine Verdict.transfer hopen rfl (fun _ => Storage.read_ignores offset length) ?_
  intro data hread h'
  -- what is read has an offset
  obtain ⟨start, hstart, -⟩ := Op.exists_of_judge_ok hread
  rw [eq_int_of_natural hstart]
  cases data with
  | nil =>
    rw [Act.say_bind_run, Request.confirmation, Request.dumped, Value.bytes?]
    simp only [Option.getD_some, dumpLines_nil]
    rfl
  | cons b rest => rfl

theorem actWrite_verdict (offset data : Value) :
    Verdict sink h (.write offset data) (Request.confirmation h.device (.write offset data))
      (actWrite offset data { host := h, sink := sink }) :=
  Verdict.transfer hopen rfl (fun _ => Storage.write_ignores offset data) fun _ _ _ => rfl

theorem actDump_verdict (sector : Value) :
    Verdict sink h (.read (dumpStart sector) (.int sectorSize))
      (Request.confirmation h.device (.dump sector))
      (actDump sector { host := h, sink := sink }) := by
  apply Verdict.judged
  intro s hs
  have hstart : dumpStart (.int s.val) = .int s.start := by
    rw [dumpStart, Sector.start, Int.natCast_mul]
  rw [Sector.eq_int_of_ofValue hs, hstart]
  refine Verdict.transfer hopen rfl (fun _ => Storage.read_ignores _ _) ?_
  intro data _ h'
  rw [Request.confirmation, hstart]
  rfl

/-- A command on a sector that is an integer, if it is anything. -/
theorem actOnSector_verdict (cmd : Command) {sector : Value} {deed : String}
    (hsector : sector = .list [] ∨ ∃ n : Int, sector = .int n) (hother : cmd ≠ .getLockInfo)
    (horders : ∀ n : Int, sector = .int n → -2147483648 ≤ n → n ≤ 2147483647 →
      cmd.Orders (.octets (Packet.int32Bytes n)) op) :
    Verdict sink h op (fun _ => [sectorLine sector deed])
      (actOnSector cmd sector deed { host := h, sink := sink }) := by
  apply Verdict.judged
  intro payload hencode
  rcases hsector with rfl | ⟨n, rfl⟩
  · cases hencode
  · obtain ⟨hlow, hhigh, rfl⟩ := Packet.Index.encodeInt_ok hencode
    exact Verdict.command hopen (horders n rfl hlow hhigh) hother _

theorem actUnlock_verdict (sector key : Value) :
    Verdict sink h (.unlock sector key) (Request.confirmation h.device (.unlock sector key))
      (actUnlock sector key { host := h, sink := sink }) := by
  apply Verdict.judged
  intro request hmake
  obtain ⟨rfl, rfl⟩ := Packet.Unlock.eq_of_make hmake
  exact Verdict.command hopen (.unlock .fixed request) Command.noConfusion _

theorem actLockInfo_verdict :
    Verdict sink h .protections (Request.confirmation h.device .lockInfo)
      (actLockInfo { host := h, sink := sink }) := by
  have hfalse : (Value.octets []).isTrue = false := rfl
  obtain ⟨hresult, hregisters⟩ :=
    Control.protections_of_query (c := { sink := sink }) .command hfalse hopen
  have hdirect : Operation.protections.perform { sink := sink } h =
      ((Storage.protections { sink := sink } h).1.map fun flags => .list (flags.map Value.bool),
        (Storage.protections { sink := sink } h).2) := Op.giving_run ..
  have halike : (Operation.protections.perform { sink := sink } h).2.Alike
      (control .getLockInfo [] { sink := sink } h).2 := by
    rw [hdirect]
    exact .of_registers hregisters
  change (control .getLockInfo [] { sink := sink } h).1.bind _ = _ at hresult
  -- the answer has to be decoded, which fails for no answer that the device gives
  apply Verdict.operated (control .getLockInfo [])
  · intro e he
    rw [he] at hresult
    rw [← hresult] at hdirect
    exact Verdict.refused_with (congrArg Prod.fst hdirect) halike
  · intro answer hanswer
    rw [hanswer] at hresult
    change Packet.Protection.decode answer = _ at hresult
    rw [← hresult] at hdirect
    cases hflags : Packet.Protection.decode answer with
    | error e =>
      rw [hflags] at hdirect
      exact Verdict.refused_with (congrArg Prod.fst hdirect) halike
    | ok flags =>
      rw [hflags] at hdirect
      have hverdict : Verdict sink h .protections (Request.confirmation h.device .lockInfo) _ :=
        .confirmed (congrArg Prod.fst hdirect) halike
      have hself : (flags.map Value.bool).map Value.isTrue = flags := by
        rw [List.map_map]
        exact List.map_id' flags
      have hlines : flags.zipIdx.map protectionLine =
          flags.zipIdx.map fun entry => lockLine entry.2 entry.1 :=
        List.map_congr_left fun entry _ => protectionLine_eq entry
      simp only [Request.confirmation, Value.elements?, Option.getD_some, hself, ← hlines]
        at hverdict
      exact hverdict

theorem actBackup_verdict {path : Value}
    (hpath : path = .list [] ∨ ∃ s : String, path = .string s) :
    Verdict sink h (.backup path) (Request.confirmation h.device (.backup path))
      (actBackup path { host := h, sink := sink }) := by
  apply Verdict.judged
  intro payload hencode
  rcases hpath with rfl | ⟨p, rfl⟩
  · -- an empty list has the payload of an empty path, which the device refuses
    have hempty : Packet.Path.encode (.string "") = .ok payload := hencode
    obtain ⟨hnul, hshort, rfl⟩ := Packet.Path.encode_ok hempty
    exact (Verdict.command hopen (.backup .fixed hnul hshort) Command.noConfusion _).of_error rfl
  · obtain ⟨hnul, hshort, rfl⟩ := Packet.Path.encode_ok hencode
    exact Verdict.command hopen (.backup .fixed hnul hshort) Command.noConfusion _

omit hopen in
theorem actMetrics_verdict :
    Verdict sink h .metrics (Request.confirmation h.device .metrics)
      (actMetrics { host := h, sink := sink }) := by
  have hrun : actMetrics { host := h, sink := sink } = (.ok (),
      { host := h, printed := h.device.metrics.exposition, sink := sink }) := by
    rw [← Metrics.lines_eq_exposition]
    rfl
  rw [hrun]
  exact .confirmed rfl (.refl h)

/-- **Every request** but a demonstration is confirmed or refused. -/
theorem Request.act_verdict {r : Request} (hspelled : r.Spelled) (hcall : r.call? = some op)
    (defaultPath : String) :
    Verdict sink h op (r.confirmation h.device)
      (r.act defaultPath { host := h, sink := sink }) := by
  cases r with
  | read offset length =>
    cases hcall
    exact actRead_verdict hopen offset length
  | write offset data =>
    cases hcall
    exact actWrite_verdict hopen offset data
  | lock sector =>
    cases hcall
    have hsector := hspelled.sector (.inl rfl)
    refine actOnSector_verdict hopen .lockSector hsector (by decide) ?_
    rintro n rfl hlow hhigh
    exact (Command.Orders.sector .fixed hlow hhigh).1
  | unlock sector key =>
    cases hcall
    exact actUnlock_verdict hopen sector key
  | lockInfo =>
    cases hcall
    exact actLockInfo_verdict hopen
  | erase sector =>
    cases hcall
    have hsector := hspelled.sector (.inr (.inl rfl))
    refine actOnSector_verdict hopen .eraseSector hsector (by decide) ?_
    rintro n rfl hlow hhigh
    exact (Command.Orders.sector .fixed hlow hhigh).2.1
  | mirror sector =>
    cases hcall
    have hsector := hspelled.sector (.inr (.inr rfl))
    refine actOnSector_verdict hopen .mirrorSector hsector (by decide) ?_
    rintro n rfl hlow hhigh
    exact (Command.Orders.sector .fixed hlow hhigh).2.2
  | backup path =>
    cases hcall
    exact actBackup_verdict hopen hspelled.path
  | dump sector =>
    cases hcall
    exact actDump_verdict hopen sector
  | metrics =>
    cases hcall
    exact actMetrics_verdict
  | demo path => cases hcall

end Requests

/-- What only shows something changes neither what the device keeps nor the files. -/
theorem Request.call_of_shows {r : Request} (hcall : r.call? = some op) (hshows : r.shows = true) :
    (op.perform { sink := sink } h).2.device.store = h.device.store ∧
      (op.perform { sink := sink } h).2.files = h.files := by
  -- whatever has no deeds and leaves the files aside only shows
  have hquiet (hnone : ∀ v, op.deeds h.device v = []) (hignores : ∀ x, op.perform.Ignores x) :
      (op.perform { sink := sink } h).2.device.store = h.device.store ∧
        (op.perform { sink := sink } h).2.files = h.files := by
    refine ⟨?_, Op.Ignores.files_eq (fun _ => hignores _) { sink := sink } h⟩
    rcases (op.perform_outcome { sink := sink } h).store_cases with
      ⟨e, -, hsame⟩ | ⟨v, -, hafter, -⟩
    · exact hsame
    · rw [hafter, hnone v, Store.after_nil]
  cases r with
  | read offset length =>
    cases hcall
    exact hquiet (fun _ => rfl) fun _ => (Storage.read_ignores _ _).giving _
  | dump sector =>
    cases hcall
    exact hquiet (fun _ => rfl) fun _ => (Storage.read_ignores _ _).giving _
  | lockInfo =>
    cases hcall
    exact hquiet (fun _ => rfl) fun _ => Storage.protections_ignores.giving _
  | metrics =>
    cases hcall
    exact ⟨rfl, rfl⟩
  | write | lock | unlock | erase | mirror | backup | demo => cases hshows

/-! ## §4 Sessions -/

namespace Session

/-- What is shown of the notices that came since, with the host as it is then. -/
def log (s : Session) (host : Host) : String :=
  ended (((host.notices.drop s.host.notices.length).filter s.shown.shows).map noticeLine)

/-- Between the two, the request was confirmed: its call succeeded with the backup files as they
are, its confirmation stands on the first stream and nothing but the log on the second, and the host
is what the call makes of it, but for metrics, handles and journal. -/
structure Confirms (s : Session) (r : Request) (op : Operation) (s' : Session) : Prop where
  answered : ∃ v, (op.perform { sink := s.sink } s.host).1 = .ok v ∧
    s'.out = s.out ++ ended (r.confirmation s.host.device v)
  err : s'.err = s.err ++ s.log s'.host
  effect : (op.perform { sink := s.sink } s.host).2.Alike s'.host
  shown : r.shows = true → s.host.Spared s'.host ∧ s'.host.files = s.host.files

/-- Between the two, one failure was reported: the first stream has nothing new, and the second has,
behind the log, the text of that failure, with which the request ended; buffers and protection are
what they were. -/
structure Reports (s : Session) (r : Request) (s' : Session) : Prop where
  report : ∃ e, (r.act s.defaultPath { host := s.host, sink := s.sink }).1 = .error e ∧
    s'.err = s.err ++ s.log s'.host ++ ended ["Error: " ++ e.message]
  out : s'.out = s.out
  spared : s.host.Spared s'.host

variable {s s' : Session} {r : Request}

theorem not_confirms_and_reports : ¬ (s.Confirms r op s' ∧ s.Reports r s') := by
  rintro ⟨hconfirms, hreports⟩
  obtain ⟨e, -, herr⟩ := hreports.report
  -- behind the log there would be both nothing and a report
  have hlength := congrArg String.length (hconfirms.err.symm.trans herr)
  simp [ended, String.length_append] at hlength

/-- A request that was done is not reported. -/
theorem confirms_of_done (hcases : s.Confirms r op s' ∨ s.Reports r s')
    (hdone : (r.act s.defaultPath { host := s.host, sink := s.sink }).1 = .ok ()) :
    s.Confirms r op s' := by
  rcases hcases with hconfirms | hreports
  · exact hconfirms
  · obtain ⟨e, herror, -⟩ := hreports.report
    cases hdone.symm.trans herror

/-- A request whose call does not succeed is not confirmed. -/
theorem reports_of_refused (hcases : s.Confirms r op s' ∨ s.Reports r s')
    (hrefused : ∀ v, (op.perform { sink := s.sink } s.host).1 ≠ .ok v) : s.Reports r s' := by
  rcases hcases with hconfirms | hreports
  · obtain ⟨v, hv, -⟩ := hconfirms.answered
    exact absurd hv (hrefused v)
  · exact hreports

theorem execute_of_ok {st : Stage}
    (hrun : r.act s.defaultPath { host := s.host, sink := s.sink } = (.ok (), st)) :
    s.execute r =
      { s with
        host := st.host
        out := s.out ++ ended st.printed
        err := s.err ++ s.log st.host } := by
  unfold execute
  rw [hrun]
  rfl

theorem execute_of_error {e : Failure} {st : Stage}
    (hrun : r.act s.defaultPath { host := s.host, sink := s.sink } = (.error e, st)) :
    s.execute r =
      { s with
        host := st.host
        out := s.out ++ ended st.printed
        err := s.err ++ s.log st.host ++ ended [failureLine e] } := by
  unfold execute
  rw [hrun]
  rfl

theorem execute_confirms_or_reports (hopen : s.host.device.isClosed = false)
    (hspelled : r.Spelled) (hcall : r.call? = some op) :
    s.Confirms r op (s.execute r) ∨ s.Reports r (s.execute r) := by
  have hverdict : Verdict s.sink s.host op (Request.confirmation s.host.device r)
      (r.act s.defaultPath { host := s.host, sink := s.sink }) :=
    Request.act_verdict hopen hspelled hcall s.defaultPath
  generalize hrun : r.act s.defaultPath { host := s.host, sink := s.sink } = out at hverdict
  cases hverdict with
  | @confirmed v h' hresult halike =>
    left
    rw [execute_of_ok hrun]
    refine ⟨⟨v, hresult, rfl⟩, rfl, halike, fun hshows => ?_⟩
    -- the host is like the one that the call left, which is as it was found
    obtain ⟨hstore, hfiles⟩ := Request.call_of_shows (h := s.host) hcall hshows
    exact ⟨(Host.Spared.of_store hstore).trans halike.spared, halike.2.trans hfiles⟩
  | @refused e h' hkept =>
    right
    rw [execute_of_error hrun]
    exact ⟨⟨e, by rw [hrun], rfl⟩, String.append_empty, .of_status hkept⟩

/-- **A request is confirmed or reported.**  On an open device, every command line that is accepted
with a command other than the demonstration is carried out without the session coming to an end,
however backup files behave.  Either its call of the device succeeds and is confirmed, and the
device and its files are what that call makes of them; or one failure is reported, and both buffers
and all protection are what they were.  Never both.  On the second stream the log stands before any
report. -/
theorem obey_confirms_or_reports {words : List String} {inv : Invocation}
    (hopen : s.host.device.isClosed = false) (hread : Invocation.read words = .ok inv)
    (hrequest : inv.request = some r) (hdemo : ∀ path, r ≠ .demo path) :
    ∃ op s', r.call? = some op ∧ s.obey words = (.done, s') ∧
      (s.Confirms r op s' ∨ s.Reports r s') ∧ ¬ (s.Confirms r op s' ∧ s.Reports r s') := by
  have hspelled := Invocation.spelled_of_read hread hrequest
  have hobey : s.obey words = (.done, s.execute r) := by
    simp only [obey, hread, hrequest]
  obtain ⟨op, hcall⟩ : ∃ op, r.call? = some op := by
    cases r with
    | demo path => exact absurd rfl (hdemo path)
    | _ => exact ⟨_, rfl⟩
  exact ⟨op, s.execute r, hcall, hobey, execute_confirms_or_reports hopen hspelled hcall,
    not_confirms_and_reports⟩

/-- A session that shows no notices has no log. -/
theorem log_of_none (hshown : s.shown = .none) (host : Host) : s.log host = "" := by
  have hshows : Shown.none.shows = fun _ => false := rfl
  rw [log, hshown, hshows, List.filter_false]
  rfl

/-- A session with a new device that shows no notices. -/
def silent : Session where
  host := Host.fresh
  defaultPath := "disk"
  shown := .none

/-- A session with a new device that shows what the program shows if nothing else is said. -/
def logging : Session where
  host := Host.fresh
  defaultPath := "disk"
  shown := .atLeast 20

/-- The same with files that take 700 bytes. -/
def choked : Session :=
  { logging with sink := .obeying [700] .refused none }

theorem logging_confirms_and_reports :
    (∃ s', logging.obey ["lock", "3"] = (.done, s') ∧
        logging.Confirms (.lock (.int 3)) (.lock (.int 3)) s' ∧ s'.out = "Sector 3 locked\n") ∧
      (∃ s', logging.obey ["lock-info"] = (.done, s') ∧
        logging.Confirms .lockInfo .protections s') ∧
      (∃ s', logging.obey ["lock", "9"] = (.done, s') ∧ logging.Reports (.lock (.int 9)) s') ∧
      ∃ s', choked.obey ["backup", "disk"] = (.done, s') ∧
        choked.Reports (.backup (.string "disk")) s' := by
  have hthree : Invocation.read ["lock", "3"] = .ok ⟨none, some (.lock (.int 3))⟩ := rfl
  have hinfo : Invocation.read ["lock-info"] = .ok ⟨none, some .lockInfo⟩ := rfl
  have hnine : Invocation.read ["lock", "9"] = .ok ⟨none, some (.lock (.int 9))⟩ := rfl
  have hbackup : Invocation.read ["backup", "disk"] =
      .ok ⟨none, some (.backup (.string "disk"))⟩ := rfl
  refine ⟨?three, ?info, ?nine, ?backup⟩
  case three =>
    obtain ⟨op, s', hcall, hobey, hcases, -⟩ :=
      obey_confirms_or_reports (s := logging) rfl hthree rfl fun _ hdemo => by cases hdemo
    cases hcall
    have hconfirms := confirms_of_done hcases rfl
    obtain ⟨v, -, hout⟩ := hconfirms.answered
    exact ⟨s', hobey, hconfirms, hout⟩
  case info =>
    obtain ⟨op, s', hcall, hobey, hcases, -⟩ :=
      obey_confirms_or_reports (s := logging) rfl hinfo rfl fun _ hdemo => by cases hdemo
    cases hcall
    exact ⟨s', hobey, confirms_of_done hcases rfl⟩
  case nine =>
    obtain ⟨op, s', hcall, hobey, hcases, -⟩ :=
      obey_confirms_or_reports (s := logging) rfl hnine rfl fun _ hdemo => by cases hdemo
    cases hcall
    -- there is no such sector
    exact ⟨s', hobey, reports_of_refused hcases fun v hv => by cases hv⟩
  case backup =>
    obtain ⟨op, s', hcall, hobey, hcases, -⟩ :=
      obey_confirms_or_reports (s := choked) rfl hbackup rfl fun _ hdemo => by cases hdemo
    cases hcall
    refine ⟨s', hobey, reports_of_refused hcases fun v hv => ?_⟩
    -- a file that does not take the whole mirror makes no backup
    have htakes : choked.sink.Takes 0 diskSize [700] .refused :=
      Sink.takes_obeying (by decide) (by decide)
        (iff_of_false Sink.Stop.noConfusion (by decide)) none
    obtain ⟨_, hdone, -⟩ := Op.exists_of_giving_ok hv
    obtain ⟨-, -, haccepts⟩ := (Mirror.backup_ok_iff (c := { sink := choked.sink }) rfl).mp hdone
    cases (htakes.accepts_iff.mp haccepts).2

/-- That a request which is confirmed puts nothing on the second stream, and one that is not only a
report, is too much to say: there the log stands as well. -/
theorem not_every_request_is_silent :
    ¬ ∀ (s : Session) (words : List String) (inv : Invocation) (r : Request),
      s.host.device.isClosed = false → Invocation.read words = .ok inv → inv.request = some r →
        (∀ path, r ≠ .demo path) →
          (s.obey words).2.err = s.err ∨
            (s.obey words).2.out = s.out ∧
              ∃ e : Failure, (s.obey words).2.err = s.err ++ ended ["Error: " ++ e.message] := by
  intro hevery
  have hread : Invocation.read ["lock", "3"] = .ok ⟨none, some (.lock (.int 3))⟩ := rfl
  have hout : (logging.obey ["lock", "3"]).2.out = "Sector 3 locked\n" := rfl
  have herr : (logging.obey ["lock", "3"]).2.err =
      "INFO sectorstore_db.persistence.sector_storage: Sector 3 locked\n" := rfl
  rcases hevery logging ["lock", "3"] _ _ rfl hread rfl (fun _ hdemo => by cases hdemo) with
    hsilent | ⟨hnone, -⟩
  · exact absurd (herr.symm.trans hsilent) (by decide)
  · exact absurd (hout.symm.trans hnone) (by decide)

end Session

end SectorDisk.Console
