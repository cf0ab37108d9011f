import SectorDisk.Proofs.Cursor
import SectorDisk.Proofs.Prompt

/-!
# Reading and protection

Protection and keys are nothing to what reads, copies or backs up.  Two hosts with the same bytes,
in both buffers and in the files, may differ in everything else as long as no other thread owns a
lock: an operation that sees only bytes (`Op.SeesBytes`) ends alike on both and leaves the same
bytes again.

What is read is the stretch that was asked for, cut off at the end of the disk, and reading leaves
the device as it was (`Storage.read_run`).
-/

namespace SectorDisk

variable {α β : Type} {c : Circumstance} {h h' : Host}

/-! ## §1 Hosts with the same bytes -/

/-- The hosts have the same bytes, the same owners of locks, and no other thread among these. -/
structure Host.SameBytes (h h' : Host) : Prop where
  primary : h'.device.primary = h.device.primary
  mirror : h'.device.mirror = h.device.mirror
  files : h'.files = h.files
  owner : ∀ b, (h'.device.lockOf b).owner = (h.device.lockOf b).owner
  alone : ∀ b, ¬h.Rival b

/-- Two runs end alike and leave the same bytes. -/
structure SameEnd (out out' : Except Failure α × Host) : Prop where
  result : out'.1 = out.1
  bytes : out.2.SameBytes out'.2

namespace Host.SameBytes

variable (hsame : h.SameBytes h')
include hsame

/-- Nothing else is looked at. -/
theorem enter (entry entry' : Entry) : (h.enter entry).SameBytes (h'.enter entry') :=
  ⟨hsame.primary, hsame.mirror, hsame.files, hsame.owner, hsame.alone⟩

theorem updateMirror (f : Image → Image) :
    (h.updateDevice fun d => { d with mirror := f d.mirror }).SameBytes
      (h'.updateDevice fun d => { d with mirror := f d.mirror }) :=
  ⟨hsame.primary, congrArg f hsame.mirror, hsame.files, hsame.owner, hsame.alone⟩

theorem setLock (b : Buffer) {lock lock' : Lock Party} (howner : lock'.owner = lock.owner)
    (halone : lock.owner ≠ some .rival) :
    (h.updateDevice fun d => d.setLock b lock).SameBytes
      (h'.updateDevice fun d => d.setLock b lock') := by
  refine ⟨?primary, ?mirror, hsame.files, ?owner, ?alone⟩
  case primary => cases b <;> exact hsame.primary
  case mirror => cases b <;> exact hsame.mirror
  case owner =>
    intro b'
    rw [Host.updateDevice_device, Host.updateDevice_device, Device.lockOf_setLock,
      Device.lockOf_setLock]
    split
    · exact howner
    · exact hsame.owner b'
  case alone =>
    intro b'
    rw [Host.Rival, Host.updateDevice_device, Device.lockOf_setLock]
    split
    · exact halone
    · exact hsame.alone b'

theorem owning (b : Buffer) : (Op.owning b h).SameBytes (Op.owning b h') :=
  hsame.setLock b rfl (by simp)

theorem release (b : Buffer) : (Op.release b h).SameBytes (Op.release b h') :=
  hsame.setLock b rfl (by simp [Lock.freed])

end Host.SameBytes

/-! ## §2 Operations that see only bytes -/

/-- The operation sees nothing of a host but its bytes, where it need not wait. -/
def Op.SeesBytes (op : Op α) : Prop :=
  ∀ c h h', h.SameBytes h' → SameEnd (op c h) (op c h')

namespace Op.SeesBytes

variable {op : Op α} {next : α → Op β}

theorem judge (r : Except Failure α) : (Op.judge r).SeesBytes := fun _ _ _ hsame => ⟨rfl, hsame⟩

theorem result (a : α) : (pure a : Op α).SeesBytes := judge (.ok a)

theorem fail (e : Failure) : (Op.fail e : Op α).SeesBytes := judge (.error e)

theorem andThen (hop : op.SeesBytes) (hnext : ∀ a, (next a).SeesBytes) :
    (op >>= next).SeesBytes := by
  intro c h h' hsame
  obtain ⟨hresult, hbytes⟩ := hop c h h' hsame
  cases hr : (op c h).1 with
  | error e =>
    rw [bind_of_error hr, bind_of_error (hresult.trans hr)]
    exact ⟨rfl, hbytes⟩
  | ok a =>
    rw [bind_of_ok hr, bind_of_ok (hresult.trans hr)]
    exact hnext a c _ _ hbytes

theorem giving (hop : op.SeesBytes) (g : α → Value) : (op.giving g).SeesBytes :=
  hop.andThen fun a => result (g a)

theorem branch {p : Prop} [Decidable p] {op' : Op α} (hthen : op.SeesBytes)
    (helse : op'.SeesBytes) : (if p then op else op').SeesBytes := by
  split
  · exact hthen
  · exact helse

/-- What is read off a host must be the same where the bytes are. -/
theorem host_bind {next : Host → Op β} (hnext : ∀ h, (next h).SeesBytes)
    (hlook : ∀ h h' : Host, h.SameBytes h' → next h' = next h) : (Op.host >>= next).SeesBytes := by
  intro c h h' hsame
  rw [host_bind_run, host_bind_run, hlook h h' hsame]
  exact hnext h c h h' hsame

theorem circumstance_bind {next : Circumstance → Op β} (hnext : ∀ c, (next c).SeesBytes) :
    (Op.circumstance >>= next).SeesBytes :=
  fun c h h' hsame => hnext c c h h' hsame

theorem update {g : Host → Host}
    (hbytes : ∀ h h' : Host, h.SameBytes h' → (g h).SameBytes (g h')) :
    (Op.update g).SeesBytes :=
  fun _ h h' hsame => ⟨rfl, hbytes h h' hsame⟩

theorem tell (n : Notice) : (Op.tell n).SeesBytes :=
  update fun _ _ hsame => hsame.enter _ _

theorem acquire (b : Buffer) (purpose : String) : (Op.acquire b purpose).SeesBytes := by
  intro c h h' hsame
  have hasked : (Op.asking b h).SameBytes (Op.asking b h') := hsame.enter _ _
  cases howner : (h.device.lockOf b).owner with
  | none =>
    rw [acquire_of_none howner, acquire_of_none ((hsame.owner b).trans howner)]
    exact ⟨rfl, hasked.owning b⟩
  | some party =>
    cases party with
    | caller =>
      rw [acquire_of_caller howner, acquire_of_caller ((hsame.owner b).trans howner)]
      exact ⟨rfl, hasked⟩
    | rival => exact absurd howner (hsame.alone b)

theorem exclusively {body : Op α} (b : Buffer) (purpose : String) (hbody : body.SeesBytes) :
    (Op.exclusively b purpose body).SeesBytes := by
  rw [exclusively_eq]
  -- both get the lock or both fail to, since it has the same owner on both
  refine (acquire b purpose).andThen fun _ c h h' hsame => ?_
  obtain ⟨hresult, hbytes⟩ := hbody c h h' hsame
  exact ⟨hresult, hbytes.release b⟩

theorem inspect (b : Buffer) (purpose : String) {look : Device → α}
    (hlook : ∀ h h' : Host, h.SameBytes h' → look h'.device = look h.device) :
    (Op.exclusively b purpose (do return look (← Op.device))).SeesBytes := by
  apply exclusively
  intro c h h' hsame
  exact ⟨congrArg Except.ok (hlook h h' hsame), hsame⟩

end Op.SeesBytes

/-! ## §3 Reading, copying and backing up -/

open Op.SeesBytes

namespace Storage

theorem read_seesBytes (offset length : Value) : (read offset length).SeesBytes := by
  unfold read
  apply andThen (judge _)
  intro offset
  apply andThen (judge _)
  intro length
  apply branch (result _)
  apply inspect
  intro h h' hsame
  rw [hsame.primary]

theorem snapshot_seesBytes : snapshot.SeesBytes :=
  inspect _ _ fun _ _ hsame => congrArg Vector.toList hsame.primary

theorem copyOut_seesBytes (s : Sector) : (copyOut s).SeesBytes :=
  inspect _ _ fun _ _ hsame => congrArg (fun image => image.sector s) hsame.primary

end Storage

namespace Mirror

theorem deliver_seesBytes (s : Sector) (content : Bytes) : (deliver s content).SeesBytes := by
  unfold deliver
  apply andThen
  · apply exclusively
    apply update
    intro h h' hsame
    exact hsame.updateMirror fun image => image.splice s.start content
  · intro _
    exact tell _

theorem store_seesBytes (sector data : Value) : (store sector data).SeesBytes := by
  unfold store
  apply andThen (judge _)
  intro s
  apply andThen (judge _)
  intro content
  exact deliver_seesBytes s content

theorem capture_seesBytes (sector : Value) : (capture sector).SeesBytes := by
  unfold capture
  apply andThen (judge _)
  intro s
  apply andThen (Storage.copyOut_seesBytes s)
  intro content
  exact deliver_seesBytes s content

theorem snapshot_seesBytes : snapshot.SeesBytes :=
  inspect _ _ fun _ _ hsame => congrArg Vector.toList hsame.mirror

theorem put_seesBytes (place : Location) (content : Bytes) :
    (Op.update fun h => { h with files := h.files.put place content }).SeesBytes := by
  apply update
  intro h h' hsame
  refine ⟨hsame.primary, hsame.mirror, ?_, hsame.owner, hsame.alone⟩
  simp only [hsame.files]

theorem openFile_seesBytes (path : Value) : (openFile path).SeesBytes := by
  unfold openFile
  apply host_bind
  · intro h
    apply andThen (judge _)
    intro place
    apply andThen (put_seesBytes place [])
    intro _
    exact result _
  · intro h h' hsame
    rw [hsame.files]

theorem writeImage_seesBytes (path : Value) (place : Location) :
    (writeImage path place).SeesBytes := by
  unfold writeImage
  apply circumstance_bind
  intro c
  apply host_bind
  · intro h
    apply andThen (put_seesBytes place _)
    intro _
    split
    · unfold failWriting
      split
      · exact fail _
      · exact andThen (tell _) fun _ => fail _
    · exact result _
  · -- what is written comes from the mirror, and what is written over from the files
    intro h h' hsame
    simp only [delivery, hsame.mirror, hsame.files]

theorem backup_seesBytes (path : Value) : (backup path).SeesBytes := by
  unfold backup
  apply andThen (judge _)
  intro path
  apply andThen (openFile_seesBytes path)
  intro place
  apply andThen (exclusively _ _ (writeImage_seesBytes path place))
  intro written
  apply branch (tell _)
  exact andThen (tell _) fun _ => fail _

end Mirror

/-- What only looks at bytes, or copies them. -/
inductive Operation.Reads : Operation → Prop
  | read {offset length} : Reads (.read offset length)
  | primarySnapshot : Reads .primarySnapshot
  | capture {sector} : Reads (.capture sector)
  | store {sector data} : Reads (.store sector data)
  | mirrorSnapshot : Reads .mirrorSnapshot
  | backup {path} : Reads (.backup path)

theorem Operation.Reads.seesBytes {op : Operation} (hreads : op.Reads) : op.perform.SeesBytes := by
  cases hreads with
  | read => exact (Storage.read_seesBytes _ _).giving _
  | primarySnapshot => exact Storage.snapshot_seesBytes.giving _
  | capture => exact (Mirror.capture_seesBytes _).giving _
  | store => exact (Mirror.store_seesBytes _ _).giving _
  | mirrorSnapshot => exact Mirror.snapshot_seesBytes.giving _
  | backup => exact (Mirror.backup_seesBytes _).giving _

/-! ## §4 Reading through handles -/

namespace SameEnd

variable {out out' : Except Failure α × Host} (hend : SameEnd out out')
include hend

theorem giving (g : α → Value) : SameEnd (out.1.map g, out.2) (out'.1.map g, out'.2) :=
  ⟨congrArg (Except.map g) hend.result, hend.bytes⟩

/-- Cursors are no bytes. -/
theorem movedOn (index index' : Nat) (size : α → Nat) :
    SameEnd (Host.movedOn index size out) (Host.movedOn index' size out') := by
  obtain ⟨hresult, hprimary, hmirror, hfiles, howner, halone⟩ := hend
  refine ⟨hresult, ?_⟩
  unfold Host.movedOn
  rw [hresult]
  split
  · exact ⟨hprimary, hmirror, hfiles, howner, halone⟩
  · exact ⟨hprimary, hmirror, hfiles, howner, halone⟩

end SameEnd

section

variable {index index' : Nat} (hsame : h.SameBytes h')
  (husable : h'.device.usable index' = h.device.usable index)
include hsame husable

theorem Stream.pread_sameEnd (length offset : Value) :
    SameEnd (pread index length offset c h) (pread index' length offset c h') := by
  unfold pread
  cases hcase : h.device.usable index with
  | error e =>
    rw [check_of_unusable hcase, check_of_unusable (husable.trans hcase)]
    exact ⟨rfl, hsame⟩
  | ok _ =>
    rw [check_of_usable hcase, check_of_usable (husable.trans hcase)]
    exact Storage.read_seesBytes offset length c h h' hsame

namespace HandleOperation

theorem pread_sameEnd (length offset : Value) :
    SameEnd ((Operation.handle index (.pread length offset)).perform c h)
      ((Operation.handle index' (.pread length offset)).perform c h') := by
  simp only [Operation.perform, perform, Op.giving_run]
  exact (Stream.pread_sameEnd hsame husable length offset).giving _

theorem read_sameEnd
    (hcursor : (h'.device.handle index').cursor = (h.device.handle index).cursor)
    (length : Value) :
    SameEnd ((Operation.handle index (.read length)).perform c h)
      ((Operation.handle index' (.read length)).perform c h') := by
  simp only [Operation.perform, perform, Op.giving_run, Stream.read_eq, hcursor]
  exact ((Stream.pread_sameEnd hsame husable length _).movedOn index index' List.length).giving _

end HandleOperation

end

/-! ## §5 What reading returns -/

/-- A free lock that was taken and let go is as it was. -/
theorem Op.release_owning {b : Buffer} (hfree : (h.device.lockOf b).owner = none) :
    (release b (owning b h)).device = h.device := by
  have hlock : { h.device.lockOf b with owner := none } = h.device.lockOf b := by
    rw [← hfree]
  have hset (lock : Lock Party) :
      (h.device.setLock b lock).setLock b (h.device.lockOf b) = h.device := by
    cases b <;> rfl
  rw [release, owning, Host.updateDevice_device, Host.updateDevice_device, Device.lockOf_setLock,
    if_pos rfl, Lock.freed, hlock, hset]

/-- A stretch from one place up to another one. -/
theorem Image.slice_eq_drop_take (image : Image) (offset length : Nat) :
    image.slice offset (min length (diskSize - offset)) =
      (image.toList.take (min (offset + length) diskSize)).drop offset := by
  rw [slice, List.drop_take]
  congr 1
  omega

namespace Storage

/-- **Reading** returns the stretch that was asked for, up to the end of the disk, and leaves the
device and the files as they were. -/
theorem read_run (hfree : (h.device.lockOf .primary).owner = none) (offset length : Nat) :
    ∃ after, read (.int offset) (.int length) c h =
        (.ok ((h.device.primary.toList.take (min (offset + length) diskSize)).drop offset), after) ∧
      after.device = h.device ∧ after.files = h.files := by
  have hresult := (read_prompt (c := c) hfree offset length).result
  rw [Image.slice_eq_drop_take] at hresult
  refine ⟨_, Prod.ext hresult rfl, ?_⟩
  unfold read
  rw [natural_int, natural_int, Op.lift_ok_bind_run, Op.lift_ok_bind_run]
  split
  · exact ⟨rfl, rfl⟩
  · have hacquired : Op.acquire .primary "read" c h =
        (.ok (), Op.owning .primary (Op.asking .primary h)) := Op.acquire_of_none hfree
    rw [Op.exclusively_eq, Op.bind_of_ok (congrArg Prod.fst hacquired), hacquired]
    exact ⟨Op.release_owning hfree, rfl⟩

end Storage

/-! ## §6 Protection against writing only -/

/-- Everything that only looks at bytes, or copies them, ends alike on both hosts. -/
structure Host.ReadsAlike (h h' : Host) : Prop where
  operations : ∀ c op, Operation.Reads op → SameEnd (op.perform c h) (op.perform c h')
  pread : ∀ c index index', h'.device.usable index' = h.device.usable index → ∀ length offset,
    SameEnd ((Operation.handle index (.pread length offset)).perform c h)
      ((Operation.handle index' (.pread length offset)).perform c h')
  read : ∀ c index index', h'.device.usable index' = h.device.usable index →
    (h'.device.handle index').cursor = (h.device.handle index).cursor → ∀ length,
      SameEnd ((Operation.handle index (.read length)).perform c h)
        ((Operation.handle index' (.read length)).perform c h')

/-- Reading returns the bytes from one place up to another one, as many as were asked for at most,
and leaves the device and the files as they were. -/
def Host.ReadsStretches (h : Host) : Prop :=
  ∀ (c : Circumstance) (offset length : Nat), ∃ bytes after,
    (Operation.read (.int offset) (.int length)).perform c h = (.ok (.octets bytes), after) ∧
      bytes = (h.device.primary.toList.take (min (offset + length) diskSize)).drop offset ∧
      bytes.length ≤ length ∧ after.device = h.device ∧ after.files = h.files

theorem Host.readsStretches_of_free (hfree : (h.device.lockOf .primary).owner = none) :
    h.ReadsStretches := by
  intro c offset length
  obtain ⟨after, hrun, hdevice, hfiles⟩ := Storage.read_run (c := c) hfree offset length
  refine ⟨_, after, ?_, rfl, ?_, hdevice, hfiles⟩
  · rw [Operation.perform, Op.giving_run, hrun]
    rfl
  · rw [List.length_drop, List.length_take]
    omega

/-- **Protection is against writing only.**  Where all locks are free, what only looks at bytes or
copies them ends alike whatever is protected and whatever the keys are, and leaves the same bytes
again; and reading returns what lies on the disk. -/
theorem Host.reading_ignores_protection
    (hfree : ∀ b, (h.device.lockOf b).owner = none)
    (hfree' : ∀ b, (h'.device.lockOf b).owner = none)
    (hprimary : h'.device.primary = h.device.primary) (hmirror : h'.device.mirror = h.device.mirror)
    (hfiles : h'.files = h.files) :
    h.ReadsAlike h' ∧ h.ReadsStretches ∧ h'.ReadsStretches := by
  have hsame : h.SameBytes h' := by
    refine ⟨hprimary, hmirror, hfiles, fun b => (hfree' b).trans (hfree b).symm, fun b hrival => ?_⟩
    cases (hfree b).symm.trans hrival
  refine ⟨⟨fun c op hreads => hreads.seesBytes c h h' hsame, ?pread, ?read⟩,
    readsStretches_of_free (hfree .primary), readsStretches_of_free (hfree' .primary)⟩
  case pread =>
    intro c index index' husable length offset
    exact HandleOperation.pread_sameEnd hsame husable length offset
  case read =>
    intro c index index' husable hcursor length
    exact HandleOperation.read_sameEnd hsame husable hcursor length

/-- No keys at all. -/
def Keyring.bare : Keyring where
  keys := []
  size_le := by decide

namespace Host

/-- The host with other keys and with every sector protected. -/
def shutOff (h : Host) (ring : Keyring) : Host :=
  h.updateDevice fun d => { d with keys := ring, protection := Vector.replicate 8 true }

theorem shutOff_bytes (h : Host) (ring : Keyring) :
    (h.shutOff ring).device.primary = h.device.primary ∧
      (h.shutOff ring).device.mirror = h.device.mirror ∧ (h.shutOff ring).files = h.files :=
  ⟨rfl, rfl, rfl⟩

/-- A device with a handle, on which something was written across two sectors and one of them
copied. -/
def inscribed : Host :=
  fresh.run
    [.operate {} .openHandle, .operate {} (.handle 0 (.pwrite (.octets [1, 2, 3]) (.int 510))),
      .operate {} (.capture (.int 1))]

/-- With every sector protected and no key to unlock any, it reads as before. -/
theorem reading_ignores_protection_inscribed :
    inscribed.ReadsAlike (inscribed.shutOff .bare) ∧
      (inscribed.shutOff .bare).ReadsStretches ∧
      ((Operation.write (.int 0) (.octets [9])).perform {}
        (inscribed.shutOff .bare)).1 = .error (.locked 0 .write) := by
  have hfree : ∀ b, (inscribed.device.lockOf b).owner = none := by
    intro b
    cases b <;> rfl
  have hfree' : ∀ b, ((inscribed.shutOff .bare).device.lockOf b).owner = none := hfree
  obtain ⟨hprimary, hmirror, hfiles⟩ := inscribed.shutOff_bytes .bare
  obtain ⟨halike, -, hstretches⟩ :=
    reading_ignores_protection hfree hfree' hprimary hmirror hfiles
  exact ⟨halike, hstretches, rfl⟩

end Host

end SectorDisk
