import SectorDisk.Proofs.History
import SectorDisk.Proofs.Prompt

/-!
# The law of writing

What a write comes to, by its arguments and the protection of the sectors that it touches.  The
offset is judged first, then the data, and last the protection; what does not fit on the disk is cut
off before the protection is looked at, so that only the sectors that hold a byte of what is left
can refuse it (`Storage.write_lawful`).
-/

namespace SectorDisk

variable {c : Circumstance} {h : Host} {offset data : Value} {start : Nat} {content : Bytes}
  {s : Sector}

/-! ## §1 The first protected sector -/

/-- The sector is protected and holds a byte of the stretch. -/
def Device.Guards (d : Device) (s : Sector) (start length : Nat) : Prop :=
  d.protection.bit s = true ∧ ∃ i, start ≤ i ∧ i < start + length ∧ s.Covers i

theorem Device.firstProtected?_eq_none_iff {d : Device} {length : Nat} :
    d.firstProtected? (span start length) = none ↔ ∀ s, ¬ d.Guards s start length := by
  simp only [firstProtected?, List.find?_eq_none, List.mem_finRange, true_implies,
    Bool.and_eq_true, span_holds_iff, Guards, and_comm]

/-- What is found is the lowest of the protected sectors that hold a byte of the stretch. -/
theorem Device.firstProtected?_eq_some_iff {d : Device} {length : Nat} :
    d.firstProtected? (span start length) = some s ↔
      d.Guards s start length ∧ ∀ t, d.Guards t start length → s ≤ t := by
  have hguards (t : Sector) : ((span start length).holds t.val && d.protection.bit t) = true ↔
      d.Guards t start length := by
    rw [Bool.and_eq_true, span_holds_iff, and_comm]
    rfl
  rw [firstProtected?, List.find?_eq_some_iff_getElem, hguards]
  refine and_congr_right fun _ => ?_
  constructor
  · rintro ⟨i, hi, hs, hbefore⟩ t ht
    -- the sector was found in its own place, and all before it were passed over
    rw [List.getElem_finRange] at hs
    subst hs
    refine Fin.not_lt.mp fun hlow => ?_
    have hpassed := hbefore t.val hlow
    rw [List.getElem_finRange] at hpassed
    have hsame := (hguards t).mpr ht
    simp only [Fin.cast_mk, Fin.eta, hsame, Bool.not_true, Bool.false_eq_true] at hpassed
  · intro hleast
    refine ⟨s.val, by rw [List.length_finRange]; exact s.isLt, ?_, ?_⟩
    · rw [List.getElem_finRange]
      rfl
    · intro j hj
      rw [List.getElem_finRange, Bool.not_eq_true', Bool.eq_false_iff, ne_eq, hguards]
      intro hguard
      exact Nat.not_le.mpr hj (hleast _ hguard)

/-! ## §2 Refused writes -/

namespace Storage

/-- There is a place on the disk for the data of a write: they are bytes, and as many of them as fit
are the content to write. -/
structure Fits (offset data : Value) (start : Nat) (content : Bytes) : Prop where
  offset_eq : offset = .int start
  inside : start < diskSize
  data_eq : ∃ bytes, data.bytes? = some bytes ∧ content = bytes.take (diskSize - start)

theorem Fits.unique {start' : Nat} {content' : Bytes} (hfits : Fits offset data start content)
    (hother : Fits offset data start' content') : start' = start ∧ content' = content := by
  obtain ⟨bytes, hbytes, rfl⟩ := hfits.data_eq
  obtain ⟨bytes', hbytes', rfl⟩ := hother.data_eq
  have hoffset := hother.offset_eq
  rw [hfits.offset_eq] at hoffset
  cases hoffset
  cases hbytes.symm.trans hbytes'
  exact ⟨rfl, rfl⟩

theorem Fits.room (hfits : Fits offset data start content) : start + content.length ≤ diskSize := by
  obtain ⟨bytes, -, rfl⟩ := hfits.data_eq
  have hinside := hfits.inside
  rw [List.length_take]
  omega

/-- What was laid over a buffer is read where it was laid. -/
theorem Fits.slice_splice (hfits : Fits offset data start content) (image : Image) :
    (image.splice start content).slice start content.length = content := by
  have hroom := hfits.room
  apply List.ext_getElem
  · rw [Image.length_slice]
    omega
  · intro j _ hj
    have hbound : start + j < 4096 := by
      simp only [diskSize] at hroom
      omega
    have hread := image.getElem_splice start content hbound
    rw [if_pos (Nat.le_add_right ..), Nat.add_sub_cancel_left, List.getElem?_eq_getElem hj,
      Option.getD_some] at hread
    simp only [Image.slice, List.getElem_take, List.getElem_drop, Vector.getElem_toList, hread]

/-- Why a write of `data` at `offset` is refused: for its offset, for want of space, for its data,
or for the lowest protected sector that holds a byte of the content. -/
inductive WriteRefused (h : Host) (offset data : Value) : Failure → Prop
  | misplaced {e : Failure} (he : natural "offset" offset = .error e) : WriteRefused h offset data e
  | noSpace {start : Nat} (hoffset : offset = .int start) (hpast : diskSize ≤ start) :
    WriteRefused h offset data (.noSpace start)
  | untyped {start : Nat} (hoffset : offset = .int start) (hinside : start < diskSize)
    (hdata : data.bytes? = none) : WriteRefused h offset data (dataFailure data)
  | locked {start : Nat} {content : Bytes} {s : Sector} (hfits : Fits offset data start content)
    (hguards : h.device.Guards s start content.length)
    (hlowest : ∀ t, h.device.Guards t start content.length → s ≤ t) :
    WriteRefused h offset data (.locked s .write)

/-- What is refused, or has a place on the disk. -/
theorem refused_or_fits (h : Host) (offset data : Value) :
    (∃ e, WriteRefused h offset data e) ∨ ∃ start content, Fits offset data start content := by
  cases hoffset : natural "offset" offset with
  | error e => exact .inl ⟨e, .misplaced hoffset⟩
  | ok start =>
    obtain rfl := eq_int_of_natural hoffset
    by_cases hpast : diskSize ≤ start
    · exact .inl ⟨_, .noSpace rfl hpast⟩
    · have hinside : start < diskSize := Nat.not_le.mp hpast
      cases hdata : data.bytes? with
      | none => exact .inl ⟨_, .untyped rfl hinside hdata⟩
      | some bytes => exact .inr ⟨start, _, rfl, hinside, bytes, hdata, rfl⟩

namespace WriteRefused

theorem misplaced_iff : (∃ e, WriteRefused h offset data e ∧ e.Blames "offset") ↔
    ∀ start : Nat, offset ≠ .int start := by
  rw [← natural_error_iff "offset"]
  constructor
  · rintro ⟨e, hrefused, hblames⟩
    cases hrefused with
    | misplaced he => exact ⟨_, he⟩
    | noSpace => cases show Kind.outOfSpace = .invalidArgument from hblames.1
    | untyped => exact absurd (dataFailure_blames.mp hblames) (by simp)
    | locked => cases show Kind.sectorLocked = .invalidArgument from hblames.1
  · rintro ⟨e, he⟩
    exact ⟨e, .misplaced he, (natural_error_blames he).mpr rfl⟩

theorem untyped_iff : (∃ e, WriteRefused h offset data e ∧ e.Blames "data") ↔
    (∃ start : Nat, offset = .int start ∧ start < diskSize) ∧ data.bytes? = none := by
  constructor
  · rintro ⟨e, hrefused, hblames⟩
    cases hrefused with
    | misplaced he => exact absurd ((natural_error_blames he).mp hblames) (by simp)
    | noSpace => cases show Kind.outOfSpace = .invalidArgument from hblames.1
    | untyped hoffset hinside hdata => exact ⟨⟨_, hoffset, hinside⟩, hdata⟩
    | locked => cases show Kind.sectorLocked = .invalidArgument from hblames.1
  · rintro ⟨⟨start, hoffset, hinside⟩, hdata⟩
    exact ⟨_, .untyped hoffset hinside hdata, dataFailure_blames.mpr rfl⟩

theorem noSpace_iff {start : Nat} : WriteRefused h offset data (.noSpace start) ↔
    offset = .int start ∧ diskSize ≤ start := by
  constructor
  · generalize hsame : Failure.noSpace start = e
    intro hrefused
    cases hrefused with
    | misplaced he => rcases natural_error he with rfl | rfl <;> cases hsame
    | noSpace hoffset hpast =>
      cases hsame
      exact ⟨hoffset, hpast⟩
    | untyped => cases (congrArg Failure.kind hsame).trans (dataFailure_kind data)
    | locked => cases hsame
  · rintro ⟨hoffset, hpast⟩
    exact .noSpace hoffset hpast

theorem locked_iff : WriteRefused h offset data (.locked s .write) ↔
    ∃ start content, Fits offset data start content ∧
      h.device.Guards s start content.length ∧
        ∀ t, h.device.Guards t start content.length → s ≤ t := by
  constructor
  · generalize hsame : Failure.locked s .write = e
    intro hrefused
    cases hrefused with
    | misplaced he => rcases natural_error he with rfl | rfl <;> cases hsame
    | noSpace => cases hsame
    | untyped => cases (congrArg Failure.kind hsame).trans (dataFailure_kind data)
    | locked hfits hguards hlowest =>
      cases hsame
      exact ⟨_, _, hfits, hguards, hlowest⟩
  · rintro ⟨start, content, hfits, hguards, hlowest⟩
    exact .locked hfits hguards hlowest

end WriteRefused

/-! ## §3 The law -/

/-- No content, no lock, no protection: nothing happens. -/
theorem write_of_vain (hfits : Fits offset data start []) : write offset data c h = (.ok 0, h) := by
  obtain ⟨rfl, hinside, bytes, hdata, hcontent⟩ := hfits
  have hnone : bytes = [] := by
    rcases List.take_eq_nil_iff.mp hcontent.symm with hroom | hbytes
    · omega
    · exact hbytes
  subst hnone
  unfold write
  rw [natural_int, Op.lift_ok_bind_run, if_neg (Nat.not_le.mpr hinside),
    bytesToWrite_of_some hdata]
  simp only [Op.lift_ok_bind_run, toNat_fittingLength, List.length_nil, Nat.zero_min, if_true,
    Op.pure_run]

/-- A write for which there is no place on the disk fails alike on every host. -/
theorem write_fails_or_fits (offset data : Value) :
    (∃ e, write offset data = Op.fail e) ∨ ∃ start content, Fits offset data start content := by
  cases hoffset : natural "offset" offset with
  | error e =>
    refine .inl ⟨e, ?_⟩
    unfold write
    rw [hoffset]
    rfl
  | ok start =>
    obtain rfl := eq_int_of_natural hoffset
    by_cases hpast : diskSize ≤ start
    · refine .inl ⟨.noSpace start, ?_⟩
      funext c h
      unfold write
      rw [hoffset, Op.lift_ok_bind_run, if_pos hpast, Op.fail_bind_run, Op.fail_run]
    · have hinside : start < diskSize := Nat.not_le.mp hpast
      cases hdata : data.bytes? with
      | some bytes => exact .inr ⟨start, _, rfl, hinside, bytes, hdata, rfl⟩
      | none =>
        refine .inl ⟨dataFailure data, ?_⟩
        funext c h
        unfold write
        rw [hoffset, Op.lift_ok_bind_run, if_neg hpast, bytesToWrite_of_none hdata]
        rfl

/-- What has a place on the disk is laid over the buffer in one section. -/
theorem Fits.write_eq (hfits : Fits offset data start content) (hsome : content ≠ []) :
    write offset data = (do
      Op.exclusively .primary "write" (overwrite start content)
      return content.length) := by
  obtain ⟨rfl, hinside, bytes, hdata, rfl⟩ := hfits
  have hbytes : bytes ≠ [] := by
    rintro rfl
    exact hsome List.take_nil
  exact Storage.write_eq hinside hdata hbytes

/-- A write that succeeds returns how many bytes its content has. -/
theorem Fits.eq_length_of_ok {n : Nat} (hfits : Fits offset data start content)
    (hok : (write offset data c h).1 = .ok n) : n = content.length := by
  by_cases hsome : content = []
  · subst hsome
    rw [write_of_vain hfits] at hok
    cases hok
    rfl
  · rw [hfits.write_eq hsome] at hok
    obtain ⟨_, -, hrest⟩ := Op.exists_of_bind_ok hok
    rw [hrest] at hok
    cases hok
    rfl

/-- The protection that is looked at under the lock is that of the host that was found. -/
theorem firstProtected?_held {held : Host} (hstore : held.device.store = h.device.store)
    (r : Span) : held.device.firstProtected? r = h.device.firstProtected? r := by
  have hprotection : held.device.protection = h.device.protection :=
    congrArg Store.protection hstore
  simp only [Device.firstProtected?, hprotection]

/-- What is refused fails, and nothing has happened. -/
theorem WriteRefused.prompt {e : Failure} (hrefused : WriteRefused h offset data e)
    (hfree : (h.device.lockOf .primary).owner = none) :
    Prompt h.device.status (.error e) [] (write offset data c h) := by
  cases hrefused with
  | misplaced he =>
    unfold write
    rw [he]
    exact ⟨rfl, rfl⟩
  | noSpace hoffset hpast =>
    subst hoffset
    unfold write
    rw [natural_int, Op.lift_ok_bind_run, if_pos hpast]
    exact ⟨rfl, rfl⟩
  | untyped hoffset hinside hdata =>
    subst hoffset
    unfold write
    rw [natural_int, Op.lift_ok_bind_run, if_neg (Nat.not_le.mpr hinside),
      bytesToWrite_of_none hdata]
    exact ⟨rfl, rfl⟩
  | @locked start content s hfits hguards hlowest =>
    obtain ⟨rfl, hinside, bytes, hdata, rfl⟩ := hfits
    have hfirst := Device.firstProtected?_eq_some_iff.mpr ⟨hguards, hlowest⟩
    -- a sector that holds a byte of the content is found only where there is content
    obtain ⟨i, hlow, hhigh, -⟩ := hguards.2
    have hsome : bytes ≠ [] := by
      rintro rfl
      rw [List.take_nil, List.length_nil] at hhigh
      omega
    exact write_prompt hfree hinside hdata hsome fun held hstore =>
      overwrite_prompt_refused ((firstProtected?_held hstore _).trans hfirst)

/-- What no protected sector refuses is written. -/
theorem Fits.prompt (hfits : Fits offset data start content) (hsome : content ≠ [])
    (hnone : ∀ s, ¬ h.device.Guards s start content.length)
    (hfree : (h.device.lockOf .primary).owner = none) :
    Prompt h.device.status (.ok content.length) [.wrote start content]
      (write offset data c h) := by
  obtain ⟨rfl, hinside, bytes, hdata, rfl⟩ := hfits
  have hfirst := Device.firstProtected?_eq_none_iff.mpr hnone
  have hbytes : bytes ≠ [] := by
    rintro rfl
    exact hsome List.take_nil
  exact write_prompt hfree hinside hdata hbytes fun held hstore =>
    overwrite_prompt ((firstProtected?_held hstore _).trans hfirst)

/-- A write that has a place on the disk is done, unless a protected sector refuses it. -/
theorem Fits.refused_or_prompt (hfits : Fits offset data start content)
    (hfree : (h.device.lockOf .primary).owner = none) :
    (∃ e, WriteRefused h offset data e) ∨ ∃ n, (write offset data c h).1 = .ok n := by
  by_cases hsome : content = []
  · subst hsome
    exact .inr ⟨0, by rw [write_of_vain hfits]⟩
  cases hfirst : h.device.firstProtected? (span start content.length) with
  | some s =>
    obtain ⟨hguards, hlowest⟩ := Device.firstProtected?_eq_some_iff.mp hfirst
    exact .inl ⟨_, .locked hfits hguards hlowest⟩
  | none =>
    have hnone := Device.firstProtected?_eq_none_iff.mp hfirst
    exact .inr ⟨_, (hfits.prompt hsome hnone hfree).result⟩

/-- **A write fails** just as it is refused. -/
theorem write_error_iff {e : Failure} (hfree : (h.device.lockOf .primary).owner = none) :
    (write offset data c h).1 = .error e ↔ WriteRefused h offset data e := by
  constructor
  · intro herror
    have hrefused : ∃ e, WriteRefused h offset data e := by
      rcases refused_or_fits h offset data with hrefused | ⟨start, content, hfits⟩
      · exact hrefused
      · rcases hfits.refused_or_prompt (c := c) hfree with hrefused | ⟨n, hn⟩
        · exact hrefused
        · rw [hn] at herror
          cases herror
    -- it is refused for one reason, and that is the failure it ends with
    obtain ⟨e', hrefused⟩ := hrefused
    cases herror.symm.trans (hrefused.prompt hfree).result
    exact hrefused
  · exact fun hrefused => (hrefused.prompt hfree).result

/-- The content of a write is in the buffer, and nothing else has happened: the write returned how
many bytes it laid, they are where they belong, all others are as before, and reading gives them
back. -/
structure Done (h : Host) (start : Nat) (content : Bytes) (out : Except Failure Nat × Host) :
    Prop where
  result : out.1 = .ok content.length
  status : out.2.device.status = { h.device.status with primary := out.2.device.primary }
  inside : out.2.device.primary.slice start content.length = content
  outside : ∀ i, ¬(start ≤ i ∧ i < start + content.length) →
    out.2.device.primary[i]? = h.device.primary[i]?
  read_back : ∀ c, (read (.int start) (.int content.length) c out.2).1 = .ok content

theorem Fits.done {out : Except Failure Nat × Host} (hfits : Fits offset data start content)
    (hfree : (h.device.lockOf .primary).owner = none)
    (hout : Prompt h.device.status (.ok content.length) [.wrote start content] out) :
    Done h start content out := by
  have hstatus : out.2.device.status =
      { h.device.status with primary := h.device.primary.splice start content } := hout.status
  have hprimary : out.2.device.primary = h.device.primary.splice start content :=
    congrArg (fun k => k.primary) hstatus
  have hinside : out.2.device.primary.slice start content.length = content := by
    rw [hprimary]
    exact hfits.slice_splice h.device.primary
  refine ⟨hout.result, by rw [hprimary]; exact hstatus, hinside, ?outside, ?read_back⟩
  case outside =>
    intro i hi
    rw [hprimary]
    by_cases hbound : i < 4096
    · rw [Vector.getElem?_eq_getElem hbound, Vector.getElem?_eq_getElem hbound,
        Image.getElem_splice_of_outside _ hbound hi]
    · rw [Vector.getElem?_eq_none (by omega), Vector.getElem?_eq_none (by omega)]
  case read_back =>
    intro c
    have howner : out.2.device.status.primaryOwner = h.device.status.primaryOwner := by
      rw [hstatus]
    -- a write gives the lock back, so that reading does not wait either
    have hstill : (out.2.device.lockOf .primary).owner = none := howner.trans hfree
    have hroom := hfits.room
    have hread := (read_prompt (c := c) hstill start content.length).result
    rw [Nat.min_eq_left (by omega), hinside] at hread
    exact hread

/-- What a write of `data` at `offset` comes to: it is refused for its offset, for want of space,
for its data, or for the lowest protected sector that it touches, and otherwise done. -/
structure Lawful (h : Host) (offset data : Value) (out : Except Failure Nat × Host) : Prop where
  misplaced : (∃ e, out.1 = .error e ∧ e.Blames "offset") ↔ ∀ start : Nat, offset ≠ .int start
  noSpace : ∀ start : Nat,
    out.1 = .error (.noSpace start) ↔ offset = .int start ∧ diskSize ≤ start
  untyped : (∃ e, out.1 = .error e ∧ e.Blames "data") ↔
    (∃ start : Nat, offset = .int start ∧ start < diskSize) ∧ data.bytes? = none
  vain : ∀ start, Fits offset data start [] → out = (.ok 0, h)
  refused : ∀ s, out.1 = .error (.locked s .write) ↔
    ∃ start content, Fits offset data start content ∧
      h.device.Guards s start content.length ∧
        ∀ t, h.device.Guards t start content.length → s ≤ t
  harmless : ∀ e, out.1 = .error e → out.2.device.status = h.device.status
  done : ∀ start content, Fits offset data start content →
    (∀ s, ¬ h.device.Guards s start content.length) → Done h start content out

/-- **The law of writing**, where the lock of the primary buffer is free. -/
theorem write_lawful (hfree : (h.device.lockOf .primary).owner = none) (offset data : Value)
    (c : Circumstance) : Lawful h offset data (write offset data c h) where
  misplaced := by
    simp only [write_error_iff hfree]
    exact WriteRefused.misplaced_iff
  noSpace := by
    intro start
    rw [write_error_iff hfree]
    exact WriteRefused.noSpace_iff
  untyped := by
    simp only [write_error_iff hfree]
    exact WriteRefused.untyped_iff
  vain := fun _ hfits => write_of_vain hfits
  refused := by
    intro s
    rw [write_error_iff hfree]
    exact WriteRefused.locked_iff
  harmless := fun _ herror => (((write_error_iff hfree).mp herror).prompt hfree).status
  done := by
    intro start content hfits hnone
    by_cases hsome : content = []
    · subst hsome
      rw [write_of_vain hfits]
      exact hfits.done hfree ⟨rfl, (h.device.status.after_wrote_nil start).symm⟩
    · exact hfits.done hfree (hfits.prompt hsome hnone hfree)

/-- A new device after its second sector was protected. -/
def fenced : Host :=
  Host.fresh.run [.operate {} (.lock (.int 1))]

/-- The only sector that can refuse anything is the protected one. -/
theorem fenced_guards {length : Nat} (hguards : fenced.device.Guards s start length) : s = 1 := by
  have hprotection : fenced.device.protection =
      Flags.setBit (Vector.replicate 8 false) 1 true := rfl
  have hbit := hguards.1
  simp only [hprotection, Flags.bit_setBit, Flags.bit_replicate] at hbit
  split at hbit
  · rename_i hsame
    exact hsame.symm
  · cases hbit

theorem write_beside_fence :
    (fenced.device.lockOf .primary).owner = none ∧
      (write (.int 510) (.octets [1, 2]) {} fenced).1 = .ok 2 ∧
      (write (.int 510) (.octets [1, 2, 3]) {} fenced).1 = .error (.locked 1 .write) := by
  refine ⟨rfl, ?beside, ?across⟩
  case beside =>
    have hfits : Fits (.int 510) (.octets [1, 2]) 510 [1, 2] :=
      ⟨rfl, by decide, [1, 2], rfl, rfl⟩
    refine ((write_lawful rfl (.int 510) (.octets [1, 2]) {}).done 510 _ hfits ?_).result
    intro s hguards
    obtain rfl := fenced_guards hguards
    obtain ⟨i, -, hhigh, hcovers⟩ := hguards.2
    simp only [Sector.Covers, Sector.start, sectorSize] at hcovers
    simp only [List.length_cons, List.length_nil] at hhigh
    omega
  case across =>
    have hfits : Fits (.int 510) (.octets [1, 2, 3]) 510 [1, 2, 3] :=
      ⟨rfl, by decide, [1, 2, 3], rfl, rfl⟩
    refine ((write_lawful rfl (.int 510) (.octets [1, 2, 3]) {}).refused 1).mpr ?_
    refine ⟨510, _, hfits, ⟨rfl, 512, by decide, by decide, ?_⟩, ?_⟩
    · simp only [Sector.Covers, Sector.start, sectorSize]
      decide
    · intro t hguards
      obtain rfl := fenced_guards hguards
      exact Fin.le_refl 1

end Storage

end SectorDisk
