import SectorDisk.Proofs.Console.DemoStep
import SectorDisk.Proofs.Console.Verdict

/-!
# Demonstrations

A demonstration does its steps, up to the first that fails (`DemoStep.all_run`).  What has to be so
that none fails can be told from the host on which it begins (`Demonstrable`), because no step takes
away what a later one needs; and then it is known byte by byte what the demonstration leaves
(`Demonstrated`).
-/

namespace SectorDisk.Console

open DemoStep

variable {c : Circumstance} {h h' : Host} {path : String} {sink : Sink}

/-! ## §1 What a demonstration needs -/

/-- Nothing is in the way of a demonstration: nobody owns a lock, the first and the fifth sector are
not protected, B is a key, and the path fits a payload and opens a file, which takes everything.
On a device that is ready (`Host.Ready`), as it is through a whole dialogue, the locks are free. -/
structure Demonstrable (path : String) (sink : Sink) (h : Host) : Prop where
  free : ∀ b, (h.device.lockOf b).owner = none
  first : h.device.protection.bit 0 = false
  fifth : h.device.protection.bit 4 = false
  key : "B" ∈ h.device.keys.texts
  encodes : ∃ payload, Packet.Path.encode (.string path) = .ok payload
  opens : ∃ plain place, Mirror.Opens h.files (.string path) plain place
  accepts : sink.Accepts

/-- The pattern is in the first sector once it was written, and no other step touches it there. -/
theorem pattern_of_ok {step : DemoStep} (hwake : c.wake = none)
    (hok : (step.op path c h).1 = .ok ())
    (hpattern : step = .write ∨ h.device.primary.sector 0 = demoPattern) :
    (step.op path c h).2.device.primary.sector 0 = demoPattern := by
  have hprimary : (step.op path c h).2.device.primary = _ :=
    congrArg (fun k => k.primary) (status_of_ok hwake hok)
  rw [hprimary]
  cases step with
  | write => exact Image.sector_splice_self _ 0 length_demoPattern
  | erase =>
    -- the zeros are laid over another sector
    have hother : (0 : Sector) ≠ 4 := by decide
    refine (Image.sector_splice_of_ne _ List.length_replicate hother).trans ?_
    rcases hpattern with hwrite | hkept
    · cases hwrite
    · exact hkept
  | _ =>
    rcases hpattern with hwrite | hkept
    · cases hwrite
    · exact hkept

theorem pattern_of_leads {steps : List DemoStep} (hwake : c.wake = none)
    (hleads : Leads path c h steps h') (hpattern : h.device.primary.sector 0 = demoPattern) :
    h'.device.primary.sector 0 = demoPattern := by
  induction hleads with
  | nil => exact hpattern
  | cons hok _ ih => exact ih (pattern_of_ok hwake hok (.inr hpattern))

/-- What a step needs is there as long as it is kept, apart from the pattern and the files. -/
theorem Demonstrable.clear {g : Host} {step : DemoStep} (hdemo : Demonstrable path sink h)
    (hkept : Kept h g) (hpattern : step = .readBack → g.device.primary.sector 0 = demoPattern)
    (hfiles : step = .backup → g.files = h.files) : step.Clear path sink g := by
  have hfree (b : Buffer) : (g.device.lockOf b).owner = none :=
    (hkept.owner b).trans (hdemo.free b)
  cases step with
  | write => exact ⟨hfree .primary, (hkept.protection 0 (by decide)).trans hdemo.first⟩
  | readBack => exact ⟨hfree .primary, hpattern rfl⟩
  | lock => exact hfree .primary
  | unlock =>
    refine ⟨hfree .primary, ?_⟩
    rw [hkept.keys]
    exact Keyring.accepts_string_iff.mpr hdemo.key
  | lockInfo => exact hfree .primary
  | mirror => exact ⟨hfree .primary, hfree .mirror⟩
  | backup =>
    refine ⟨hdemo.encodes, ?_, hfree .mirror, hdemo.accepts⟩
    rw [hfiles rfl]
    exact hdemo.opens
  | erase => exact ⟨hfree .primary, (hkept.protection 4 (by decide)).trans hdemo.fifth⟩

/-- Where nothing is in the way, no step fails. -/
theorem Demonstrable.leads (hwake : c.wake = none) (hdemo : Demonstrable path c.sink h) :
    ∃ h', Leads path c h demoSteps h' := by
  rcases all_run path c h demoSteps with
    ⟨h', hleads, -⟩ | ⟨done, step, rest, g, e, hsteps, hleads, hfail, -⟩
  · exact ⟨h', hleads⟩
  · have hclear : step.Clear path c.sink g := by
      apply hdemo.clear (hleads.kept hwake)
      · rintro rfl
        -- the steps begin with writing the pattern
        cases done with
        | nil => cases hsteps
        | cons first done =>
          cases (List.cons.inj hsteps).1
          cases hleads with
          | cons hok hrest =>
            exact pattern_of_leads hwake hrest (pattern_of_ok hwake hok (.inl rfl))
      · rintro rfl
        have hnodup : demoSteps.Nodup := by decide
        rw [hsteps, List.nodup_append] at hnodup
        exact hleads.files fun hmem => hnodup.2.2 _ hmem _ List.mem_cons_self rfl
    cases ((ok_iff hwake).mpr hclear).symm.trans hfail

/-- Where no step fails, nothing was in the way. -/
theorem demonstrable_of_leads (hwake : c.wake = none) (hleads : Leads path c h demoSteps h') :
    Demonstrable path c.sink h := by
  -- each step found what it needs, on a host on which that is as it was at first
  have hclear (step : DemoStep) (hmem : step ∈ demoSteps) := hleads.clear_of_mem hwake hmem
  obtain ⟨gwrite, hwrite, hprimary, hfirst⟩ := hclear .write (by decide)
  obtain ⟨gunlock, hunlock, -, hkey⟩ := hclear .unlock (by decide)
  obtain ⟨gmirror, hmirror, -, hsecond⟩ := hclear .mirror (by decide)
  obtain ⟨gerase, herase, -, hfifth⟩ := hclear .erase (by decide)
  -- the files are as they were until the backup
  have hparts : Leads path c h
    ([.write, .readBack, .lock, .unlock, .lockInfo, .mirror] ++ [.backup, .erase]) h' := hleads
  obtain ⟨gbackup, hdone, hrest⟩ := hparts.split
  have hfiles : gbackup.files = h.files := hdone.files (by decide)
  have hbackup : (DemoStep.backup.op path c gbackup).1 = .ok () := by
    cases hrest with
    | cons hok _ => exact hok
  obtain ⟨hencodes, hopens, -, haccepts⟩ := (ok_iff hwake).mp hbackup
  constructor
  case free =>
    intro b
    cases b with
    | primary => exact (hwrite.owner .primary).symm.trans hprimary
    | mirror => exact (hmirror.owner .mirror).symm.trans hsecond
  case first => exact (hwrite.protection 0 (by decide)).symm.trans hfirst
  case fifth => exact (herase.protection 4 (by decide)).symm.trans hfifth
  case key =>
    rw [← hunlock.keys]
    exact Keyring.accepts_string_iff.mp hkey
  case encodes => exact hencodes
  case opens =>
    rw [← hfiles]
    exact hopens
  case accepts => exact haccepts

/-! ## §2 What a demonstration leaves -/

/-- What a demonstration leaves: the pattern, which is all bytes in order twice, in the first
sector, zeros in the fifth, the third not protected and copied into the mirror, and the mirror in
the file; all else in the buffers and in the protection is as before. -/
structure Demonstrated (path : String) (h h' : Host) : Prop where
  first : h'.device.primary.sector 0 =
    (List.range 256).map Nat.toUInt8 ++ (List.range 256).map Nat.toUInt8
  fifth : h'.device.primary.sector 4 = List.replicate sectorSize 0
  primary : ∀ s, s ≠ 0 → s ≠ 4 → h'.device.primary.sector s = h.device.primary.sector s
  unlocked : h'.device.protection.bit 2 = false
  protection : ∀ s, s ≠ 2 → h'.device.protection.bit s = h.device.protection.bit s
  third : h'.device.mirror.sector 2 = h'.device.primary.sector 2
  mirror : ∀ s, s ≠ 2 → h'.device.mirror.sector s = h.device.mirror.sector s
  file : ∃ place, h.files.backupPlace? (.string path) = some place ∧
    h'.files.content? place = some h'.device.mirror.toList

theorem map_range_twice {f : Nat → UInt8} {n : Nat} (hperiod : ∀ i, f (n + i) = f i) :
    (List.range (n + n)).map f = (List.range n).map f ++ (List.range n).map f := by
  rw [List.range_add, List.map_append, List.map_map]
  exact congrArg _ (List.map_congr_left fun i _ => hperiod i)

theorem demoPattern_eq :
    demoPattern = (List.range 256).map Nat.toUInt8 ++ (List.range 256).map Nat.toUInt8 := by
  have hsize : sectorSize = 256 + 256 := rfl
  have hperiod (i : Nat) : (256 + i).toUInt8 = i.toUInt8 := by
    rw [← UInt8.toNat_inj, UInt8.toNat_ofNat', UInt8.toNat_ofNat']
    omega
  rw [demoPattern, hsize]
  exact map_range_twice hperiod

/-- The step for the backup leaves the mirror in the file. -/
theorem file_of_backup (hok : (DemoStep.backup.op path c h).1 = .ok ()) :
    ∃ place, h.files.backupPlace? (.string path) = some place ∧
      (DemoStep.backup.op path c h).2.files.content? place = some h.device.mirror.toList := by
  obtain ⟨payload, -, hrun⟩ := Op.exists_of_judge_ok hok
  rw [DemoStep.op, hrun] at hok ⊢
  exact Mirror.backup_ok hok

theorem demonstrated_of_leads (hwake : c.wake = none) (hleads : Leads path c h demoSteps h') :
    Demonstrated path h h' := by
  have hstatus := hleads.status hwake
  have hprimary : h'.device.primary =
      (h.device.primary.splice (Sector.start 0) demoPattern).splice (Sector.start 4)
        Storage.zeros := congrArg (fun k => k.primary) hstatus
  have hmirror : h'.device.mirror = h.device.mirror.splice (Sector.start 2)
      ((h.device.primary.splice (Sector.start 0) demoPattern).block 2).val :=
    congrArg (fun k => k.mirror) hstatus
  have hprotection : h'.device.protection = (h.device.protection.setBit 2 true).setBit 2 false :=
    congrArg (fun k => k.protection) hstatus
  have hzeros : Storage.zeros.length = sectorSize := List.length_replicate
  have hblock (image : Image) : (image.block 2).val = image.sector 2 := rfl
  -- a sector is what was laid over it last
  have hprimary' (s : Sector) (hs : s ≠ 4) : h'.device.primary.sector s =
      (h.device.primary.splice (Sector.start 0) demoPattern).sector s := by
    rw [hprimary, Image.sector_splice_of_ne _ hzeros hs]
  have hkept (s : Sector) (hs : s ≠ 0) :
      (h.device.primary.splice (Sector.start 0) demoPattern).sector s =
        h.device.primary.sector s := Image.sector_splice_of_ne _ length_demoPattern hs
  have hsize : (h.device.primary.sector 2).length = sectorSize := Image.length_sector ..
  rw [hblock, hkept 2 (by decide)] at hmirror
  constructor
  case first =>
    rw [hprimary' 0 (by decide), Image.sector_splice_self _ 0 length_demoPattern, demoPattern_eq]
  case fifth =>
    rw [hprimary, Image.sector_splice_self _ 4 hzeros]
    rfl
  case primary => exact fun s hfirst hfifth => (hprimary' s hfifth).trans (hkept s hfirst)
  case unlocked => rw [hprotection, Flags.bit_setBit, if_pos rfl]
  case protection => exact fun s hs => (hleads.kept hwake).protection s hs
  case third =>
    rw [hmirror, Image.sector_splice_self _ 2 hsize, hprimary' 2 (by decide),
      hkept 2 (by decide)]
  case mirror =>
    intro s hs
    rw [hmirror, Image.sector_splice_of_ne _ hsize hs]
  case file =>
    have hparts : Leads path c h
      ([.write, .readBack, .lock, .unlock, .lockInfo, .mirror] ++ [.backup, .erase]) h' := hleads
    obtain ⟨g, hdone, hrest⟩ := hparts.split
    -- what comes behind the backup touches neither the files nor the mirror
    have hsame : h'.device.mirror = g.device.mirror :=
      congrArg (fun k => k.mirror) (hrest.status hwake)
    cases hrest with
    | cons hok hlast =>
      obtain ⟨place, hplace, hcontent⟩ := file_of_backup hok
      rw [hdone.files (by decide)] at hplace
      refine ⟨place, hplace, ?_⟩
      rw [hlast.files (by decide), hcontent, hsame]

theorem Demonstrated.of_alike {g : Host} (hdone : Demonstrated path h h') (halike : h'.Alike g) :
    Demonstrated path h g := by
  obtain ⟨hprimary, hmirror, hprotection⟩ := halike.spared
  obtain ⟨place, hplace, hcontent⟩ := hdone.file
  constructor
  case first => exact hprimary ▸ hdone.first
  case fifth => exact hprimary ▸ hdone.fifth
  case primary => exact hprimary ▸ hdone.primary
  case unlocked => exact hprotection ▸ hdone.unlocked
  case protection => exact hprotection ▸ hdone.protection
  case third =>
    rw [hmirror, hprimary]
    exact hdone.third
  case mirror => exact hmirror ▸ hdone.mirror
  case file => exact ⟨place, hplace, by rw [halike.files, hmirror, hcontent]⟩

/-! ## §3 Through a handle -/

/-- From a stage, the act does what the operation does, whatever it prints. -/
def Act.Runs (act : Act Unit) (op : Op Unit) (st : Stage) : Prop :=
  ∃ lines, act st = ((op { sink := st.sink } st.host).1,
    { st with host := (op { sink := st.sink } st.host).2, printed := lines })

namespace Act.Runs

variable {α : Type} {st : Stage} {next : Act Unit}

/-- Both begin alike, and go on alike if that succeeds. -/
theorem operate {first first' : Op α} {next : α → Act Unit} {rest : α → Op Unit}
    (hsame : first { sink := st.sink } st.host = first' { sink := st.sink } st.host)
    (hnext : ∀ a, (first' { sink := st.sink } st.host).1 = .ok a →
      (next a).Runs (rest a) { st with host := (first' { sink := st.sink } st.host).2 }) :
    (Act.operate first >>= next).Runs (first' >>= rest) st := by
  have hfirst : Act.operate first st = ((first' { sink := st.sink } st.host).1,
      { st with host := (first' { sink := st.sink } st.host).2 }) := by
    rw [Act.operate_run, hsame]
  unfold Runs
  cases hr : (first' { sink := st.sink } st.host).1 with
  | error e =>
    rw [hr] at hfirst
    rw [Act.bind_of_error (congrArg Prod.fst hfirst), hfirst, Op.bind_of_error hr]
    exact ⟨st.printed, rfl⟩
  | ok a =>
    rw [hr] at hfirst
    rw [Act.bind_of_ok (congrArg Prod.fst hfirst), hfirst, Op.bind_of_ok hr]
    exact hnext a hr

theorem say {op : Op Unit} {line : String}
    (hnext : next.Runs op { st with printed := st.printed ++ [line] }) :
    (Act.say line >>= fun _ => next).Runs op st :=
  hnext

end Act.Runs

section Handles

variable {index : Nat}

/-- Writing leaves handles usable. -/
theorem usable_of_write (path : String) (husable : h.device.usable index = .ok ())
    (hwake : c.wake = none) :
    (DemoStep.write.op path c h).2.device.usable index = .ok () := by
  have hhandles : (DemoStep.write.op path c h).2.device.handles = h.device.handles :=
    Op.Ignores.handles_eq (fun _ => op_ignores path fun hbackup => by cases hbackup) c h
  have hclosed := DemoStep.write.isClosed_eq path hwake h
  rw [← husable, Device.usable, Device.usable, Device.handle, Device.handle, hhandles, hclosed]

/-- Reading the pattern back and saying so. -/
theorem readBack_runs (path : String) (st : Stage)
    (husable : st.host.device.usable index = .ok ()) :
    (do
      let data ← Act.operate (Stream.pread index (.int sectorSize) (.int 0))
      if data ≠ demoPattern then Act.fail .readBack
      Act.say "Sector 0 read success" : Act Unit).Runs (DemoStep.readBack.op path) st := by
  apply Act.Runs.operate (Stream.pread_of_usable husable _ _)
  intro data _
  by_cases hother : data ≠ demoPattern
  · rw [if_pos hother, if_pos hother]
    exact ⟨st.printed, rfl⟩
  · rw [if_neg hother, if_neg hother]
    exact ⟨_, rfl⟩

/-- Writing the pattern, saying so, and reading it back. -/
theorem writeRead_runs (path : String) (st : Stage)
    (husable : st.host.device.usable index = .ok ()) :
    (do
      let _ ← Act.operate (Stream.pwrite index (.octets demoPattern) (.int 0))
      Act.say "Sector 0 write success"
      let data ← Act.operate (Stream.pread index (.int sectorSize) (.int 0))
      if data ≠ demoPattern then Act.fail .readBack
      Act.say "Sector 0 read success" : Act Unit).Runs (all path [.write, .readBack]) st := by
  have hsteps : all path [.write, .readBack] =
      Storage.write (.int 0) (.octets demoPattern) >>= fun _ => DemoStep.readBack.op path := by
    rw [all, all_singleton, DemoStep.op, Op.bind_assoc]
    rfl
  rw [hsteps]
  apply Act.Runs.operate (Stream.pwrite_of_usable husable _ _)
  intro count hcount
  -- the handle is usable still when the pattern is read back
  have hstill := usable_of_write (c := { sink := st.sink }) path husable rfl
  rw [op, Op.bind_of_ok hcount, Op.pure_run] at hstill
  apply Act.Runs.say
  apply readBack_runs path
  dsimp only at hstill ⊢
  exact hstill

end Handles

/-! ## §4 Acts and steps -/

/-- On an open device the act does the steps: it ends as they do, and leaves a host that is like the
one that they leave. -/
def Act.Does (path : String) (act : Act Unit) (steps : List DemoStep) : Prop :=
  ∀ st : Stage, st.host.device.isClosed = false → ∃ h' lines,
    act st = ((all path steps { sink := st.sink } st.host).1,
      { st with host := h', printed := lines }) ∧
    (all path steps { sink := st.sink } st.host).2.Alike h'

namespace Act.Does

variable {act next : Act Unit} {steps more : List DemoStep}

theorem andThen (hact : act.Does path steps) (hnext : next.Does path more) :
    (act >>= fun _ => next).Does path (steps ++ more) := by
  intro st hopen
  obtain ⟨h₁, lines₁, hrun₁, halike₁⟩ := hact st hopen
  rw [all_append]
  cases hr : (all path steps { sink := st.sink } st.host).1 with
  | error e =>
    rw [hr] at hrun₁
    refine ⟨h₁, lines₁, ?_, ?_⟩
    · rw [Act.bind_of_error (congrArg Prod.fst hrun₁), hrun₁, Op.bind_of_error hr]
    · rw [Op.bind_of_error hr]
      exact halike₁
  | ok _ =>
    rw [hr] at hrun₁
    -- the steps left the device open, and the act left one that is like it
    have hstill : h₁.device.isClosed = false := by
      obtain ⟨⟨m, hs, hdevice⟩, -⟩ := halike₁
      rw [hdevice]
      exact (all_isClosed path rfl st.host steps).trans hopen
    obtain ⟨h₂, lines₂, hrun₂, halike₂⟩ :=
      hnext { st with host := h₁, printed := lines₁ } hstill
    obtain ⟨hresult, hleft⟩ := halike₁.run (fun x hfiles => all_ignores path hfiles more)
      { sink := st.sink }
    rw [Op.bind_of_ok hr]
    refine ⟨h₂, lines₂, ?_, hleft.trans halike₂⟩
    rw [Act.bind_of_ok (congrArg Prod.fst hrun₁), hrun₁, hrun₂, hresult]

/-- What is judged favourably goes on. -/
theorem judged {α : Type} {r : Except Failure α} {a : α} {rest : α → Act Unit} (hr : r = .ok a)
    (hrest : (rest a).Does path steps) : (liftM r >>= rest : Act Unit).Does path steps := by
  subst hr
  exact hrest

/-- A command with a payload that orders what a step does, and a line about it. -/
theorem command {cmd : Command} {payload : Bytes} {operation : Operation} {step : DemoStep}
    {op : Op Unit} (hperform : operation.perform = op.giving unitValue)
    (hop : ∀ c h, step.op path c h = op c h) (horders : cmd.Orders (.octets payload) operation)
    (hother : cmd ≠ .getLockInfo) (line : String) :
    (do
      let _ ← control cmd payload
      Act.say line : Act Unit).Does path [step] := by
  intro st hopen
  -- on an open device a command ends as the operation that it orders, which is the step
  obtain ⟨hresult, hregisters⟩ :=
    Control.follows_of_orders (c := { sink := st.sink }) .command horders hother hopen
  rw [hperform, Op.giving_run, ← hop] at hresult hregisters
  change (control cmd payload { sink := st.sink } st.host).1 = _ at hresult
  rw [all_singleton]
  refine ⟨(control cmd payload { sink := st.sink } st.host).2, ?_⟩
  cases hr : (step.op path { sink := st.sink } st.host).1 with
  | error e =>
    rw [hr] at hresult
    have hfail : (Act.operate (control cmd payload) st).1 = .error e := hresult
    exact ⟨st.printed, Act.bind_of_error hfail _, .of_registers hregisters⟩
  | ok _ =>
    rw [hr] at hresult
    have hdone : (Act.operate (control cmd payload) st).1 = .ok .none := hresult
    exact ⟨st.printed ++ [line], Act.bind_of_ok hdone _, .of_registers hregisters⟩

theorem onSector {cmd : Command} {n : Int} {operation : Operation} {step : DemoStep}
    {op : Op Unit} (hlow : -2147483648 ≤ n) (hhigh : n ≤ 2147483647)
    (hperform : operation.perform = op.giving unitValue)
    (hop : ∀ c h, step.op path c h = op c h)
    (horders : cmd.Orders (.octets (Packet.int32Bytes n)) operation)
    (hother : cmd ≠ .getLockInfo) (deed : String) :
    (actOnSector cmd (.int n) deed).Does path [step] :=
  judged (Packet.Index.encodeInt_eq hlow hhigh) (command hperform hop horders hother _)

theorem lock : (actOnSector .lockSector (.int 2) "locked").Does path [.lock] :=
  onSector (by decide) (by decide) rfl (fun _ _ => rfl)
    (Command.Orders.sector .fixed (by decide) (by decide)).1 (by decide) _

theorem mirror : (actOnSector .mirrorSector (.int 2) "mirrored").Does path [.mirror] :=
  onSector (by decide) (by decide) rfl (fun _ _ => rfl)
    (Command.Orders.sector .fixed (by decide) (by decide)).2.2 (by decide) _

theorem erase : (actOnSector .eraseSector (.int 4) "erased").Does path [.erase] :=
  onSector (by decide) (by decide) rfl (fun _ _ => rfl)
    (Command.Orders.sector .fixed (by decide) (by decide)).2.1 (by decide) _

theorem unlock : (actUnlock (.int 2) (.string "B")).Does path [.unlock] := by
  have hmake : Packet.Unlock.make (.int 2) (.string "B") = .ok ⟨2, ⟨'B', by decide⟩⟩ :=
    Packet.Unlock.make_char 2 ⟨'B', by decide⟩
  exact judged hmake (command rfl (fun _ _ => rfl) (.unlock .fixed _) (by decide) _)

theorem backup (path : String) : (actBackup (.string path)).Does path [.backup] := by
  cases hencode : Packet.Path.encode (.string path) with
  | error e =>
    -- a path that does not fit fails in the act as in the step
    intro st _
    have hstep : (DemoStep.backup.op path { sink := st.sink } st.host) = (.error e, st.host) := by
      rw [DemoStep.op, hencode]
      rfl
    rw [all_singleton, hstep]
    refine ⟨st.host, st.printed, ?_, .refl _⟩
    rw [actBackup, hencode]
    rfl
  | ok payload =>
    obtain ⟨hnul, hshort, rfl⟩ := Packet.Path.encode_ok hencode
    refine judged hencode (command rfl ?_ (.backup .fixed hnul hshort) (by decide) _)
    intro c h
    rw [DemoStep.op, hencode]
    rfl

theorem lockInfo : actLockInfo.Does path [.lockInfo] := by
  intro st hopen
  have hfalse : (Value.octets []).isTrue = false := rfl
  obtain ⟨hresult, hregisters⟩ :=
    Control.protections_of_query (c := { sink := st.sink }) .command hfalse hopen
  change (control .getLockInfo [] { sink := st.sink } st.host).1.bind _ = _ at hresult
  have halike := Host.Alike.of_registers hregisters
  rw [all_singleton, op]
  -- the answer of the command is decoded to what the step looks at, or fails as the step does
  cases hanswer : (control .getLockInfo [] { sink := st.sink } st.host).1 with
  | error e =>
    rw [hanswer] at hresult
    rw [Op.bind_of_error hresult.symm]
    exact ⟨_, st.printed, Act.bind_of_error hanswer _, halike⟩
  | ok answer =>
    rw [hanswer] at hresult
    change Packet.Protection.decode answer = _ at hresult
    have hdone : ((liftM (control .getLockInfo []) : Act Value) st).1 = .ok answer := hanswer
    unfold actLockInfo
    rw [Act.bind_of_ok hdone]
    cases hflags : Packet.Protection.decode answer with
    | error e =>
      rw [hflags] at hresult
      rw [Op.bind_of_error hresult.symm]
      exact ⟨_, st.printed, rfl, halike⟩
    | ok flags =>
      rw [hflags] at hresult
      rw [Op.bind_of_ok hresult.symm]
      exact ⟨_, _, rfl, halike⟩

theorem writeRead : demoWriteRead.Does path [.write, .readBack] := by
  intro st hopen
  obtain ⟨lines, hrun⟩ := writeRead_runs path { st with host := st.host.opened }
    (st.host.opened_usable hopen)
  -- the steps end the same with the new handle and without it
  obtain ⟨hresult, hleft⟩ := st.host.opened_alike.run
    (fun x hfiles => all_ignores path hfiles [.write, .readBack]) { sink := st.sink }
  refine ⟨_, lines, ?_,
    hleft.trans (Stream.close_alike st.host.device.handles.length { sink := st.sink } _)⟩
  rw [demoWriteRead, Act.withHandle_eq _ st hopen, hrun, Act.operate_run, ← hresult]

/-- **A demonstration does its steps.** -/
theorem demo (path : String) : (actDemo path).Does path demoSteps :=
  writeRead.andThen (lock.andThen (unlock.andThen (lockInfo.andThen (mirror.andThen
    ((backup path).andThen erase)))))

end Act.Does

/-! ## §5 Sessions -/

/-- The path of the backup is the one that is given, unless it is empty. -/
theorem demoPath_of_ne {path : String} (hpath : path ≠ "") (default : String) :
    demoPath (some path) default = path := by
  have hsome : ¬ path.isEmpty = true := fun hempty => hpath (String.isEmpty_iff.mp hempty)
  rw [demoPath, if_neg hsome]

/-- A session carries out the demonstration that was asked for, with the backup at the path.  If
nothing is in the way, no failure is reported and the buffers, the protection and the file are those
of a demonstration.  If something is, the steps succeed up to one that fails: the buffers and the
protection are those on which it failed, and that one failure is reported, behind the log. -/
structure Session.Demonstrates (s : Session) (given : Option String) (path : String) : Prop where
  done : Demonstrable path s.sink s.host →
    Demonstrated path s.host (s.execute (.demo given)).host ∧
      (s.execute (.demo given)).err = s.err ++ s.log (s.execute (.demo given)).host
  stopped : ¬ Demonstrable path s.sink s.host →
    ∃ before step rest h e, demoSteps = before ++ step :: rest ∧
      Leads path { sink := s.sink } s.host before h ∧
      (step.op path { sink := s.sink } h).1 = .error e ∧
      h.Spared (s.execute (.demo given)).host ∧
      (s.execute (.demo given)).err =
        s.err ++ s.log (s.execute (.demo given)).host ++ ended ["Error: " ++ e.message]

theorem Session.demonstrates_demoPath {s : Session} (hopen : s.host.device.isClosed = false)
    (given : Option String) : s.Demonstrates given (demoPath given s.defaultPath) := by
  have hwake : (Circumstance.wake { sink := s.sink }) = none := rfl
  obtain ⟨h', lines, hact, halike⟩ := Act.Does.demo (demoPath given s.defaultPath)
    { host := s.host, sink := s.sink } hopen
  constructor
  case done =>
    intro hdemo
    obtain ⟨g, hleads⟩ := hdemo.leads hwake
    rw [hleads.all_eq] at hact halike
    rw [execute_of_ok (s := s) (r := .demo given) hact]
    exact ⟨(demonstrated_of_leads hwake hleads).of_alike halike, rfl⟩
  case stopped =>
    intro hnot
    rcases all_run (demoPath given s.defaultPath) { sink := s.sink } s.host demoSteps with
      ⟨g, hleads, -⟩ | ⟨before, step, rest, g, e, hsteps, hleads, hfail, hall⟩
    · exact absurd (demonstrable_of_leads hwake hleads) hnot
    · rw [hall] at hact halike
      rw [execute_of_error (s := s) (r := .demo given) hact]
      refine ⟨before, step, rest, g, e, hsteps, hleads, hfail, ?_, rfl⟩
      -- the step that failed did nothing to the device
      exact (Host.Spared.of_status (DemoStep.status_of_error hwake hfail)).trans halike.spared

/-- **A demonstration** of any session with an open device, whatever its backup file does: with the
backup at the path that is given, or at that of the settings where none is given or an empty one. -/
theorem demonstration_exact {s : Session} (hopen : s.host.device.isClosed = false) :
    (∀ path, path ≠ "" → s.Demonstrates (some path) path) ∧
      s.Demonstrates none s.defaultPath ∧ s.Demonstrates (some "") s.defaultPath := by
  refine ⟨fun path hpath => ?_, ?_, ?_⟩
  · have hgiven := Session.demonstrates_demoPath hopen (some path)
    rw [demoPath_of_ne hpath] at hgiven
    exact hgiven
  · exact Session.demonstrates_demoPath hopen none
  · exact Session.demonstrates_demoPath hopen (some "")

/-- On a new device nothing is in the way of a demonstration with a path of its own, nor of one
without, but for a file without room. -/
theorem silent_demonstration :
    (Invocation.read ["demo", "--backup-path", "image"] =
        .ok ⟨none, some (.demo (some "image"))⟩ ∧
      Demonstrated "image" Host.fresh (Session.silent.execute (.demo (some "image"))).host ∧
      (Session.silent.execute (.demo (some "image"))).err = "") ∧
    Demonstrated "disk" Host.fresh (Session.silent.execute (.demo none)).host ∧
    ∃ e : Failure, ({ Session.silent with
        sink := .scripted 0 0 none none }.execute (.demo (some "image"))).err =
      ended ["Error: " ++ e.message] := by
  have hclear {path : String}
      (hencodes : ∃ payload, Packet.Path.encode (.string path) = .ok payload)
      (hopens : ∃ plain place, Mirror.Opens Host.fresh.files (.string path) plain place) :
      Demonstrable path Sink.ample Host.fresh := by
    constructor
    case free => exact fun b => by cases b <;> rfl
    case first => rfl
    case fifth => rfl
    case key => decide
    case encodes => exact hencodes
    case opens => exact hopens
    case accepts => exact Sink.accepts_ample
  have hnot : ¬ Demonstrable "image" (.scripted 0 0 none none) Host.fresh := by
    intro hroom
    have htakes : (Sink.scripted 0 0 none none).Takes 0 diskSize [] .refused :=
      .refused (by decide) rfl
    cases (htakes.accepts_iff.mp hroom.accepts).2
  obtain ⟨hgiven, hnone, -⟩ := demonstration_exact (s := Session.silent) rfl
  refine ⟨?_, ?_, ?_⟩
  · obtain ⟨hdone, herr⟩ :=
      (hgiven "image" (by decide)).done (hclear ⟨_, rfl⟩ ⟨_, _, rfl, rfl⟩)
    refine ⟨rfl, hdone, herr.trans ?_⟩
    rw [Session.log_of_none rfl]
    rfl
  · exact (hnone.done (hclear ⟨_, rfl⟩ ⟨_, _, rfl, rfl⟩)).1
  · obtain ⟨hgiven, -, -⟩ := demonstration_exact
      (s := { Session.silent with sink := .scripted 0 0 none none }) rfl
    obtain ⟨-, -, -, -, e, -, -, -, -, herr⟩ := (hgiven "image" (by decide)).stopped hnot
    refine ⟨e, herr.trans ?_⟩
    rw [Session.log_of_none rfl]
    exact String.empty_append

end SectorDisk.Console
