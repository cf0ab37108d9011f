import SectorDisk.Proofs.Cursor.Law
import SectorDisk.Proofs.Write

/-!
# Streaming

Transfers one after the other at the cursor of a handle come to what one transfer of their sum at
the first cursor comes to (`Host.streaming_eq_whole`).  What is read in pieces is the whole in
pieces.  What is written in pieces is laid as the whole would be, and cut off at the same place: a
piece that begins at the end of the disk is refused for want of space, as much as there is of it.
-/

namespace SectorDisk

variable {c : Circumstance} {h h' : Host} {index p q : Nat}

/-! ## §1 Adjoining stretches -/

namespace Image

theorem slice_fitting (image : Image) (start length : Nat) :
    image.slice start (min length (diskSize - start)) = image.slice start length := by
  have hrest : (image.toList.drop start).length = diskSize - start := by
    rw [List.length_drop, Vector.length_toList, diskSize]
  unfold slice
  rw [← hrest, List.take_eq_take_iff, Nat.min_assoc, Nat.min_self]

/-- A stretch is its beginning and, where that ends, the rest. -/
theorem slice_add (image : Image) (start first rest : Nat) :
    image.slice start (first + rest) = image.slice start first ++
      image.slice (start + (image.slice start first).length) rest := by
  rw [length_slice]
  unfold slice
  rw [List.take_add, List.drop_drop]
  by_cases hroom : first ≤ diskSize - start
  · rw [Nat.min_eq_left hroom]
  · -- the beginning reaches the end of the buffer, and nothing is left for the rest
    have hend {i : Nat} (hi : diskSize ≤ i) : image.toList.drop i = [] := by
      apply List.drop_eq_nil_of_le
      rwa [Vector.length_toList]
    have hwhole : image.toList.drop (start + first) = [] := hend (by omega)
    have hreached : image.toList.drop (start + min first (diskSize - start)) = [] :=
      hend (by omega)
    rw [hwhole, hreached]

/-- Laying a stretch and another one where that ends is laying both at once. -/
theorem splice_append (image : Image) (start : Nat) (first rest : Bytes) :
    (image.splice start first).splice (start + first.length) rest =
      image.splice start (first ++ rest) := by
  apply Vector.ext
  intro i hi
  rw [getElem_splice, getElem_splice, getElem_splice]
  by_cases hlow : start ≤ i
  · rw [if_pos hlow, if_pos hlow]
    by_cases hfirst : start + first.length ≤ i
    · rw [if_pos hfirst, List.getElem?_append_right (by omega),
        List.getElem?_eq_none (by omega : first.length ≤ i - start), Option.getD_none,
        Nat.sub_add_eq]
    · rw [if_neg hfirst, List.getElem?_append_left (by omega)]
  · rw [if_neg hlow, if_neg hlow, if_neg (by omega)]

end Image

/-! ## §2 Streams -/

/-- The handle is open, its cursor is at `p`, and the lock of the primary buffer is free. -/
structure Host.Streams (h : Host) (index p : Nat) : Prop where
  usable : h.device.usable index = .ok ()
  cursor : (h.device.handle index).cursor = .int p
  free : (h.device.lockOf .primary).owner = none

namespace Host.Streams

/-- It stays a stream where nothing but buffers, protection and keys changes. -/
theorem of_status (hstreams : h.Streams index p) {k : Status} (hstatus : h'.device.status = k)
    (hhandles : k.handles = h.device.handles) (hclosed : k.isClosed = h.device.isClosed)
    (howner : k.primaryOwner = h.device.status.primaryOwner) : h'.Streams index p := by
  subst hstatus
  have hsame : h'.device.handles = h.device.handles := hhandles
  have hhandle : h'.device.handle index = h.device.handle index := by
    rw [Device.handle, hsame, Device.handle]
  have hopen : h'.device.isClosed = h.device.isClosed := hclosed
  refine ⟨?_, hhandle ▸ hstreams.cursor, howner.trans hstreams.free⟩
  rw [← hstreams.usable, Device.usable, Device.usable, hopen, hhandle]

/-- A stream is one at whatever place it is sought. -/
theorem sought (hstreams : h.Streams index p) (q : Nat) :
    (h.sought index (.int q)).Streams index q := by
  obtain ⟨e, he⟩ := Device.exists_of_usable hstreams.usable
  have hhandle : (h.sought index (.int q)).device.handle index =
      { h.device.handle index with cursor := .int q } := by
    simp only [Host.sought, updateDevice_device, Device.handle, List.getElem?_modify_eq, he]
    rfl
  refine ⟨?_, by rw [hhandle], hstreams.free⟩
  rw [← hstreams.usable, Device.usable, Device.usable, hhandle]
  rfl

end Host.Streams

/-! ## §3 One transfer of a stream -/

namespace Host

theorem followed_of_ok {moved : Value → Int} {out : Except Failure Value × Host} {result : Value}
    (hok : out.1 = .ok result) :
    followed index moved out = (.ok result, out.2.sought index (.int (moved result))) := by
  rw [followed, hok]

theorem followed_of_error {moved : Value → Int} {out : Except Failure Value × Host} {e : Failure}
    (herror : out.1 = .error e) : followed index moved out = (.error e, out.2) := by
  rw [followed, herror]

end Host

/-- What fits of a write is laid, if no protected sector refuses it. -/
theorem Storage.Fits.laid {offset data : Value} {content : Bytes}
    (hfits : Fits offset data p content)
    (hnone : ∀ s, ¬h.device.Guards s p content.length)
    (hfree : (h.device.lockOf .primary).owner = none) :
    Prompt h.device.status (.ok content.length) [.wrote p content] (write offset data c h) := by
  by_cases hsome : content = []
  · subst hsome
    rw [write_of_vain hfits]
    exact ⟨rfl, (h.device.status.after_wrote_nil p).symm⟩
  · exact hfits.prompt hsome hnone hfree

namespace Host.Streams

variable (hstreams : h.Streams index p)
include hstreams

/-- Reading a stretch at its offset. -/
theorem pread_run (c : Circumstance) (length : Nat) :
    Prompt h.device.status (.ok (.octets (h.device.primary.slice p length))) []
      ((Operation.handle index (.pread (.int length) (.int p))).perform c h) := by
  have hread := Storage.read_prompt (c := c) hstreams.free p length
  rw [Image.slice_fitting] at hread
  rw [Stream.perform_pread hstreams.usable]
  exact hread.giving Value.octets

/-- Writing what fits at its offset. -/
theorem pwrite_run {data : Value} {content : Bytes} (c : Circumstance)
    (hfits : Storage.Fits (.int p) data p content)
    (hnone : ∀ s, ¬h.device.Guards s p content.length) :
    Prompt h.device.status (.ok (countValue content.length)) [.wrote p content]
      ((Operation.handle index (.pwrite data (.int p))).perform c h) := by
  rw [Stream.perform_pwrite hstreams.usable]
  exact (hfits.laid hnone hstreams.free).giving countValue

/-- **One read** of a stream returns the bytes at the cursor and goes on behind them. -/
theorem read_run (c : Circumstance) (length : Nat) :
    Prompt h.device.status (.ok (.octets (h.device.primary.slice p length)))
      [.sought index (.int (p + (h.device.primary.slice p length).length))]
      ((Operation.handle index (.read (.int length))).perform c h) := by
  have hread := hstreams.pread_run c length
  rw [HandleOperation.read_followed hstreams.cursor, followed_of_ok hread.result]
  exact ⟨rfl, by rw [sought_status, hread.status]; rfl⟩

/-- **One write** of a stream lays what fits at the cursor and goes on behind it. -/
theorem write_run {data : Value} {content : Bytes} (c : Circumstance)
    (hfits : Storage.Fits (.int p) data p content)
    (hnone : ∀ s, ¬h.device.Guards s p content.length) :
    Prompt h.device.status (.ok (countValue content.length))
      [.wrote p content, .sought index (.int (p + content.length))]
      ((Operation.handle index (.write data)).perform c h) := by
  have hwrite := hstreams.pwrite_run c hfits hnone
  rw [HandleOperation.write_followed hstreams.cursor, followed_of_ok hwrite.result]
  refine ⟨rfl, ?_⟩
  rw [sought_status, hwrite.status]
  exact (Status.after_append _ [_] [_]).symm

/-- At the end of the disk a write is refused for want of space, as much as there is of it. -/
theorem write_past (c : Circumstance) (hpast : diskSize ≤ p) (data : Value) :
    Prompt h.device.status (.error (.noSpace p)) []
      ((Operation.handle index (.write data)).perform c h) := by
  have hrefused : Storage.WriteRefused h (.int p) data (.noSpace p) := .noSpace rfl hpast
  have hwrite := (hrefused.prompt (c := c) hstreams.free).giving countValue
  rw [← Stream.perform_pwrite hstreams.usable] at hwrite
  rw [HandleOperation.write_followed hstreams.cursor, followed_of_error hwrite.result]
  exact ⟨rfl, hwrite.status⟩

end Host.Streams

/-! ## §4 One after the other -/

/-- Calls of a handle one after the other: what each ended with, and the host after them. -/
def Host.calls (h : Host) (index : Nat) :
    List (Circumstance × HandleOperation) → List (Except Failure Value) × Host
  | [] => ([], h)
  | (c, hop) :: rest =>
    let out := (Operation.handle index hop).perform c h
    let more := out.2.calls index rest
    (out.1 :: more.1, more.2)

/-- Reads of given lengths one after the other. -/
def Host.reads (h : Host) (index : Nat) (lengths : List (Circumstance × Nat)) :
    List (Except Failure Value) × Host :=
  h.calls index (lengths.map fun x => (x.1, .read (.int x.2)))

/-- Writes of given bytes one after the other. -/
def Host.writes (h : Host) (index : Nat) (chunks : List (Circumstance × BytesKind × Bytes)) :
    List (Except Failure Value) × Host :=
  h.calls index (chunks.map fun x => (x.1, .write (.bytes x.2.1 x.2.2)))

/-- The lengths of reads added up. -/
def totalLength : List (Circumstance × Nat) → Nat
  | [] => 0
  | (_, length) :: rest => length + totalLength rest

/-- The count that a write returned; a failed one has written nothing. -/
def countOf : Except Failure Value → Int
  | .ok (.int count) => count
  | _ => 0

/-- The counts that writes returned added up. -/
def totalCount : List (Except Failure Value) → Int
  | [] => 0
  | r :: rest => countOf r + totalCount rest

namespace Host.Streams

/-- **Reading in pieces** returns the stretch of all their lengths in pieces. -/
theorem reads (hstreams : h.Streams index p) (lengths : List (Circumstance × Nat)) :
    ∃ pieces : List Bytes,
      (h.reads index lengths).1 = pieces.map (fun piece => .ok (.octets piece)) ∧
        pieces.flatten = h.device.primary.slice p (totalLength lengths) ∧
        (h.reads index lengths).2.Streams index (p + pieces.flatten.length) := by
  induction lengths generalizing h p with
  | nil => exact ⟨[], rfl, rfl, hstreams⟩
  | cons x rest ih =>
    obtain ⟨c, n⟩ := x
    have hread := hstreams.read_run c n
    have hnext : ((Operation.handle index (.read (.int n))).perform c h).2.Streams index
        (p + (h.device.primary.slice p n).length) :=
      (hstreams.sought _).of_status hread.status rfl rfl rfl
    have hprimary : ((Operation.handle index (.read (.int n))).perform c h).2.device.primary =
        h.device.primary := congrArg (fun k => k.primary) hread.status
    obtain ⟨pieces, hresults, hflatten, hlast⟩ := ih hnext
    rw [hprimary] at hflatten
    refine ⟨h.device.primary.slice p n :: pieces, ?_, ?_, ?_⟩
    · exact congrArg₂ List.cons hread.result hresults
    · rw [List.flatten_cons, hflatten, totalLength, Image.slice_add]
    · rw [List.flatten_cons, List.length_append, ← Nat.add_assoc]
      exact hlast

end Host.Streams

theorem Device.Guards.mono {d d' : Device} {s : Sector} {start start' length length' : Nat}
    (hguards : d'.Guards s start' length') (hprotection : d'.protection = d.protection)
    (hlow : start ≤ start') (hhigh : start' + length' ≤ start + length) :
    d.Guards s start length := by
  obtain ⟨hbit, i, hi, hi', hcovers⟩ := hguards
  exact ⟨hprotection ▸ hbit, i, by omega, by omega, hcovers⟩

/-- What fits of two pieces is what fits of the first one, and what fits of the second behind it. -/
theorem take_append_fitting {α : Type} (room : Nat) (first rest : List α) :
    (first ++ rest).take room = first.take room ++ rest.take (room - (first.take room).length) := by
  rw [List.take_append, List.length_take]
  congr 2
  omega

/-- The bytes of chunks, one after the other. -/
def joined (chunks : List (Circumstance × BytesKind × Bytes)) : Bytes :=
  (chunks.map fun x => x.2.2).flatten

/-- A write that succeeded, or was refused for want of space. -/
def Served (r : Except Failure Value) : Prop :=
  (∃ count : Nat, r = .ok (.int count)) ∨ ∃ e, r = .error e ∧ e.kind = .outOfSpace

namespace Host.Streams

/-- **One write** of a stream lays what fits of its bytes, which may be nothing at all. -/
theorem write_once (hstreams : h.Streams index p) (hp : p ≤ diskSize) (c : Circumstance)
    (kind : BytesKind) {chunk first : Bytes} (hfirst : first = chunk.take (diskSize - p))
    (hnone : ∀ s, ¬h.device.Guards s p first.length) {out : Except Failure Value × Host}
    (hout : out = (Operation.handle index (.write (.bytes kind chunk))).perform c h) :
    Served out.1 ∧ countOf out.1 = first.length ∧
      out.2.device.primary = h.device.primary.splice p first ∧
      out.2.device.protection = h.device.protection ∧
      out.2.Streams index (p + first.length) := by
  by_cases hpast : diskSize ≤ p
  · -- nothing fits, be the chunk empty or not
    have hrun := hout ▸ hstreams.write_past c hpast (.bytes kind chunk)
    have hroom : diskSize - p = 0 := by omega
    rw [hroom, List.take_zero] at hfirst
    subst hfirst
    refine ⟨.inr ⟨_, hrun.result, rfl⟩, by rw [hrun.result]; rfl, ?_,
      congrArg (fun k => k.protection) hrun.status, ?_⟩
    · rw [Image.splice_nil]
      exact congrArg (fun k => k.primary) hrun.status
    · exact hstreams.of_status hrun.status rfl rfl rfl
  · have hfits : Storage.Fits (.int p) (.bytes kind chunk) p first :=
      ⟨rfl, Nat.not_le.mp hpast, chunk, rfl, hfirst⟩
    have hrun := hout ▸ hstreams.write_run c hfits hnone
    refine ⟨.inl ⟨_, hrun.result⟩, by rw [hrun.result]; rfl,
      congrArg (fun k => k.primary) hrun.status, congrArg (fun k => k.protection) hrun.status, ?_⟩
    exact (hstreams.sought _).of_status hrun.status rfl rfl rfl

/-- **Writing in pieces** lays what fits of their whole. -/
theorem writes (hstreams : h.Streams index p) (hp : p ≤ diskSize)
    (chunks : List (Circumstance × BytesKind × Bytes)) {content : Bytes}
    (hcontent : content = (joined chunks).take (diskSize - p))
    (hnone : ∀ s, ¬h.device.Guards s p content.length) :
    (∀ r ∈ (h.writes index chunks).1, Served r) ∧
      totalCount (h.writes index chunks).1 = content.length ∧
      (h.writes index chunks).2.device.primary = h.device.primary.splice p content ∧
      (h.writes index chunks).2.Streams index (p + content.length) := by
  induction chunks generalizing h p content with
  | nil =>
    have hempty : content = [] := hcontent.trans List.take_nil
    subst hempty
    exact ⟨List.forall_mem_nil _, rfl, (h.device.primary.splice_nil p).symm, hstreams⟩
  | cons x rest ih =>
    obtain ⟨c, kind, chunk⟩ := x
    -- what fits of this chunk, and behind it what fits of the others
    obtain ⟨first, hfirst⟩ : ∃ first, first = chunk.take (diskSize - p) := ⟨_, rfl⟩
    obtain ⟨more, hmore⟩ : ∃ more, more = (joined rest).take (diskSize - (p + first.length)) :=
      ⟨_, rfl⟩
    have hparts : content = first ++ more := by
      rw [hcontent, hmore, hfirst, Nat.sub_add_eq]
      exact take_append_fitting (diskSize - p) chunk (joined rest)
    have hlength : content.length = first.length + more.length := by
      rw [hparts, List.length_append]
    have hroom : p + first.length ≤ diskSize := by
      rw [hfirst, List.length_take]
      omega
    have hnone' : ∀ s, ¬h.device.Guards s p first.length := fun s hguards =>
      hnone s (hguards.mono rfl (Nat.le_refl p) (by omega))
    obtain ⟨hserved, hcount, hlaid, hprotection, hnext⟩ :=
      hstreams.write_once hp c kind hfirst hnone' rfl
    obtain ⟨hserved', hcount', hlaid', hlast⟩ := ih hnext hroom hmore fun s hguards =>
      hnone s (hguards.mono hprotection (by omega) (by omega))
    refine ⟨List.forall_mem_cons.mpr ⟨hserved, hserved'⟩, ?_, ?_, ?_⟩
    · rw [hlength, Int.natCast_add, ← hcount, ← hcount']
      rfl
    · rw [hparts, ← Image.splice_append, ← hlaid]
      exact hlaid'
    · rw [hlength, ← Nat.add_assoc]
      exact hlast

end Host.Streams

/-! ## §5 Streaming -/

namespace Host

/-- Reads one after the other returned `pieces`, and the whole is what one read of all their lengths
returns. -/
structure ReadsWhole (h : Host) (index p : Nat) (lengths : List (Circumstance × Nat))
    (pieces : List Bytes) : Prop where
  results : (h.reads index lengths).1 = pieces.map fun piece => .ok (.octets piece)
  whole : ∀ c, ((Operation.handle index
    (.pread (.int (totalLength lengths)) (.int p))).perform c h).1 =
      .ok (.octets pieces.flatten)
  cursor : ((h.reads index lengths).2.device.handle index).cursor = .int (p + pieces.flatten.length)

/-- Writes one after the other have laid what one write of all their bytes lays, and returned as
much altogether. -/
structure WritesWhole (h : Host) (index p : Nat) (chunks : List (Circumstance × BytesKind × Bytes))
    (total : Nat) : Prop where
  served : ∀ r ∈ (h.writes index chunks).1, Served r
  counts : totalCount (h.writes index chunks).1 = total
  whole : ∀ c kind,
    let out := (Operation.handle index (.pwrite (.bytes kind (joined chunks)) (.int p))).perform c h
    out.1 = .ok (.int total) ∧ (h.writes index chunks).2.device.primary = out.2.device.primary
  cursor : ((h.writes index chunks).2.device.handle index).cursor = .int (p + total)

/-- **Streaming.**  Reads one after the other at the cursor of a handle return what one read of all
their lengths returns.  Writes one after the other that begin on the disk, and whose bytes touch no
protected sector, leave what one write of all their bytes leaves.  The cursor ends behind what was
transferred. -/
theorem streaming_eq_whole (hstreams : h.Streams index p) :
    (∀ lengths, ∃ pieces, h.ReadsWhole index p lengths pieces) ∧
      ∀ chunks, p < diskSize →
        (∀ s, ¬h.device.Guards s p (min (joined chunks).length (diskSize - p))) →
          h.WritesWhole index p chunks (min (joined chunks).length (diskSize - p)) := by
  constructor
  · intro lengths
    obtain ⟨pieces, hresults, hflatten, hlast⟩ := hstreams.reads lengths
    refine ⟨pieces, hresults, fun c => ?_, hlast.cursor⟩
    rw [hflatten]
    exact (hstreams.pread_run c _).result
  · intro chunks hp hnone
    have hlength : min (joined chunks).length (diskSize - p) =
        ((joined chunks).take (diskSize - p)).length := by
      rw [List.length_take, Nat.min_comm]
    rw [hlength] at hnone ⊢
    obtain ⟨hserved, hcounts, hlaid, hlast⟩ :=
      hstreams.writes (Nat.le_of_lt hp) chunks rfl hnone
    refine ⟨hserved, hcounts, fun c kind => ?_, hlast.cursor⟩
    have hfits : Storage.Fits (.int p) (.bytes kind (joined chunks)) p
        ((joined chunks).take (diskSize - p)) := ⟨rfl, hp, _, rfl, rfl⟩
    have hrun := hstreams.pwrite_run c hfits hnone
    exact ⟨hrun.result, hlaid.trans (congrArg (fun k => k.primary) hrun.status).symm⟩

/-- A handle six bytes before the end of the disk, and nothing protected. -/
def nearEnd : Host :=
  fresh.run [.operate {} .openHandle, .operate {} (.handle 0 (.seek (.int (-6)) (.int 2)))]

/-- Of these, the third one is cut off and the last one is refused. -/
def fourChunks : List (Circumstance × BytesKind × Bytes) :=
  [({}, .fixed, [1, 1, 1, 1]), ({}, .fixed, []), ({}, .mutable, [2, 2, 2, 2]), ({}, .view, [3])]

theorem streaming_eq_whole_nearEnd :
    nearEnd.Streams 0 4090 ∧ (∀ s, ¬nearEnd.device.Guards s 4090 6) ∧
      (∃ pieces, nearEnd.ReadsWhole 0 4090 [({}, 4), ({}, 0), ({}, 5)] pieces) ∧
      nearEnd.WritesWhole 0 4090 fourChunks 6 := by
  have hstreams : nearEnd.Streams 0 4090 := ⟨rfl, rfl, rfl⟩
  have hnone : ∀ s, ¬nearEnd.device.Guards s 4090 6 := by
    intro s hguards
    have hprotection : nearEnd.device.protection = Vector.replicate 8 false := rfl
    have hbit := hguards.1
    rw [hprotection, Flags.bit_replicate] at hbit
    cases hbit
  obtain ⟨hreads, hwrites⟩ := streaming_eq_whole hstreams
  exact ⟨hstreams, hnone, hreads _, hwrites fourChunks (by decide) hnone⟩

end Host

end SectorDisk
