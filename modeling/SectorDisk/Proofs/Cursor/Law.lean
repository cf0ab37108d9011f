import SectorDisk.Proofs.Cursor
import SectorDisk.Proofs.Prompt

/-!
# The law of cursors

As long as its seeks are by integers, the cursor of a handle is an integer and never negative.  It
is the sum of what the handle has transferred since its latest seek and of where that seek led, and
nothing that is asked of other handles or of the device moves it (`Host.cursor_law_of_run`).
-/

namespace SectorDisk

variable {α : Type} {c : Circumstance} {h : Host} {index : Nat} {p : Int}

/-! ## §1 Where calls lead -/

/-- Whether an argument is a number that equals an integer. -/
def Value.equals (v : Value) (n : Int) : Bool :=
  match v with
  | .number m => m.equals n
  | _ => false

/-- Where a seek by an integer leads from a cursor: it counts from the beginning of the disk, from
the cursor or from the end of the disk, as its origin is 0, 1 or 2. -/
def seekPlace? (cursor offset : Int) (origin : Value) : Option Int :=
  if origin.equals 0 then some offset
  else if origin.equals 1 then some (cursor + offset)
  else if origin.equals 2 then some (diskSize + offset)
  else none

/-- Where the cursor of a handle is after a call of it that succeeded with the given result: reading
adds the length of the bytes, writing the count, and seeking goes where it leads. -/
def HandleOperation.moved (cursor : Int) : HandleOperation → Value → Int
  | .read _, .octets data => cursor + data.length
  | .write _, .int count => cursor + count
  | .seek (.int offset) origin, _ => (seekPlace? cursor offset origin).getD cursor
  | _, _ => cursor

/-- How a seek ends that leads to a place or nowhere: a place below zero is refused. -/
def Host.soughtPlace (h : Host) (index : Nat) (origin : Value) :
    Option Int → Except Failure Value × Host
  | some q => if q < 0 then (.error .cursorNegative, h) else (.ok (.int q), h.sought index (.int q))
  | none => (.error (.whence origin), h)

/-- A seek of the handle that the step may be goes by an integer. -/
def Step.SeeksByInteger (index : Nat) (step : Step) : Prop :=
  ∀ c offset origin, step = .operate c (.handle index (.seek offset origin)) →
    ∃ n : Int, offset = .int n

/-- An argument is an origin just as it equals 0, 1 or 2. -/
theorem Origin.ofValue_cases (v : Value) :
    (v.equals 0 = true ∧ ofValue v = .ok .start) ∨
      (¬v.equals 0 = true ∧ v.equals 1 = true ∧ ofValue v = .ok .cursor) ∨
      (¬v.equals 0 = true ∧ ¬v.equals 1 = true ∧ v.equals 2 = true ∧ ofValue v = .ok .past) ∨
      (¬v.equals 0 = true ∧ ¬v.equals 1 = true ∧ ¬v.equals 2 = true ∧
        ofValue v = .error (.whence v)) := by
  have hvalue : ofValue v =
      if v.equals 0 then .ok .start
      else if v.equals 1 then .ok .cursor
      else if v.equals 2 then .ok .past
      else .error (.whence v) := by
    cases v <;> rfl
  rw [hvalue]
  by_cases hzero : v.equals 0 = true
  · exact .inl ⟨hzero, if_pos hzero⟩
  rw [if_neg hzero]
  by_cases hone : v.equals 1 = true
  · exact .inr (.inl ⟨hzero, hone, if_pos hone⟩)
  rw [if_neg hone]
  by_cases htwo : v.equals 2 = true
  · exact .inr (.inr (.inl ⟨hzero, hone, htwo, if_pos htwo⟩))
  · exact .inr (.inr (.inr ⟨hzero, hone, htwo, if_neg htwo⟩))

/-- The cursor at a place, if there is one. -/
def Number.atPlace (origin : Value) : Option Int → Except Failure Number
  | some q => newCursor (.int q)
  | none => .error (.whence origin)

theorem Number.soughtFrom_int (p n : Int) (origin : Value) :
    (Number.int p).soughtFrom (.int n) origin = atPlace origin (seekPlace? p n origin) := by
  rw [soughtFrom, seekPlace?]
  rcases Origin.ofValue_cases origin with
    ⟨hzero, horigin⟩ | ⟨hzero, hone, horigin⟩ | ⟨hzero, hone, htwo, horigin⟩ |
      ⟨hzero, hone, htwo, horigin⟩
  · rw [horigin, if_pos hzero]
    rfl
  · rw [horigin, if_neg hzero, if_pos hone]
    rfl
  · rw [horigin, if_neg hzero, if_neg hone, if_pos htwo]
    rfl
  · rw [horigin, if_neg hzero, if_neg hone, if_neg htwo]
    rfl

theorem newCursor_int (q : Int) :
    newCursor (.int q) = if q < 0 then .error .cursorNegative else .ok (.int q) := by
  simp only [newCursor, Number.isNegative, decide_eq_true_eq]

/-! ## §2 What a transfer returns -/

namespace Storage

variable {start : Nat} {length data : Value}

/-- What is read is a piece of the primary buffer, cut off at the end of the disk. -/
theorem read_ok {bytes : Bytes} (hok : (read (.int start) length c h).1 = .ok bytes) :
    ∃ n : Nat, length = .int n ∧
      bytes = h.device.primary.slice start (min n (diskSize - start)) := by
  unfold read at hok
  rw [natural_int, Op.lift_ok_bind_run] at hok
  obtain ⟨n, hn, hrest⟩ := Op.exists_of_judge_ok hok
  rw [hrest] at hok
  simp only [toNat_fittingLength] at hok
  refine ⟨n, eq_int_of_natural hn, ?_⟩
  by_cases hnone : min n (diskSize - start) = 0
  · rw [if_pos hnone] at hok
    cases hok
    rw [hnone]
    exact List.take_zero.symm
  · rw [if_neg hnone] at hok
    exact Op.inspect_ok (fun k => k.primary.slice start (min n (diskSize - start))) hok

/-- A write that succeeds begins on the disk and writes as many of the bytes as fit. -/
theorem write_ok {count : Nat} (hok : (write (.int start) data c h).1 = .ok count) :
    start < diskSize ∧ ∃ bytes, data.bytes? = some bytes ∧
      count = min bytes.length (diskSize - start) := by
  unfold write at hok
  rw [natural_int, Op.lift_ok_bind_run] at hok
  by_cases hpast : diskSize ≤ start
  · rw [if_pos hpast] at hok
    cases hok
  rw [if_neg hpast] at hok
  refine ⟨Nat.not_le.mp hpast, ?_⟩
  cases hbytes : bytesToWrite data with
  | error e =>
    rw [hbytes] at hok
    cases hok
  | ok bytes =>
    rw [hbytes] at hok
    simp only [Op.lift_ok_bind_run, toNat_fittingLength] at hok
    refine ⟨bytes, bytes?_of_bytesToWrite hbytes, ?_⟩
    by_cases hnone : min bytes.length (diskSize - start) = 0
    · rw [if_pos hnone] at hok
      cases hok
      exact hnone.symm
    · rw [if_neg hnone] at hok
      obtain ⟨_, _, hrest⟩ := Op.exists_of_bind_ok hok
      rw [hrest] at hok
      exact (Except.ok.inj hok).symm

end Storage

/-! ## §3 A cursor that is an integer -/

theorem modify_congr {l : List α} {f g : α → α} (hsame : ∀ a, l[index]? = some a → f a = g a) :
    l.modify index f = l.modify index g := by
  apply List.ext_getElem?
  intro i
  by_cases hi : index = i
  · subst hi
    rw [List.getElem?_modify_eq, List.getElem?_modify_eq]
    cases ha : l[index]? with
    | none => rfl
    | some a => exact congrArg some (hsame a ha)
  · rw [List.getElem?_modify_ne f l hi, List.getElem?_modify_ne g l hi]

/-- Moving an integer on is seeking to the sum. -/
theorem Host.advanced_of_int (hcursor : (h.device.handle index).cursor = .int p) (count : Nat) :
    h.advanced index count = h.sought index (.int (p + count)) := by
  have hmodify : h.device.handles.modify index (·.advanced count) =
      h.device.handles.modify index fun e => { e with cursor := .int (p + count) } := by
    apply modify_congr
    intro e he
    have hint : e.cursor = .int p := by
      rw [← hcursor, Device.handle, he, Option.getD_some]
    simp only [Handle.advanced, hint, Number.toInt?]
  exact Host.updateDevice_congr (congrArg (fun hs => { h.device with handles := hs }) hmodify)

/-- How a transfer ends if the cursor of a handle follows its result: a failure moves nothing. -/
def Host.followed (index : Nat) (moved : Value → Int) (out : Except Failure Value × Host) :
    Except Failure Value × Host :=
  (out.1, match out.1 with
    | .ok result => out.2.sought index (.int (moved result))
    | .error _ => out.2)

theorem Host.movedOn_followed {size : α → Nat} {g : α → Value} {moved : Value → Int}
    {out : Except Failure α × Host} (hcursor : (out.2.device.handle index).cursor = .int p)
    (hmoved : ∀ a, moved (g a) = p + size a) :
    ((movedOn index size out).1.map g, (movedOn index size out).2) =
      followed index moved (out.1.map g, out.2) := by
  obtain ⟨result, host⟩ := out
  cases result with
  | error e => rfl
  | ok a =>
    have hhost := Host.advanced_of_int hcursor (size a)
    rw [← hmoved] at hhost
    exact congrArg (Prod.mk _) hhost

namespace Stream

variable {op : Op α}

/-- Nothing that asks whether the handle is usable, and then for the storage, touches a handle. -/
theorem check_then_handles (hop : ∀ hs, op.Ignores { handles := fun _ => hs }) :
    ((check index >>= fun _ => op) c h).2.device.handles = h.device.handles := by
  cases husable : h.device.usable index with
  | error e => rw [check_of_unusable husable]
  | ok _ =>
    rw [check_of_usable husable]
    exact Op.Ignores.handles_eq hop c h

theorem check_then_cursor (hop : ∀ hs, op.Ignores { handles := fun _ => hs }) :
    (((check index >>= fun _ => op) c h).2.device.handle index).cursor =
      (h.device.handle index).cursor := by
  rw [Device.handle, check_then_handles hop, Device.handle]

end Stream

namespace HandleOperation

variable (hcursor : (h.device.handle index).cursor = .int p)
include hcursor

/-- **Reading** at a cursor is reading at that offset, and the cursor follows. -/
theorem read_followed (length : Value) :
    (Operation.handle index (.read length)).perform c h =
      Host.followed index ((read length).moved p)
        ((Operation.handle index (.pread length (.int p))).perform c h) := by
  simp only [Operation.perform, perform, Op.giving_run, Stream.read_eq, hcursor]
  apply Host.movedOn_followed
  · unfold Stream.pread
    rw [Stream.check_then_cursor fun _ => Storage.read_ignores _ _, hcursor]
  · intro data
    rfl

/-- **Writing** at a cursor is writing at that offset, and the cursor follows. -/
theorem write_followed (data : Value) :
    (Operation.handle index (.write data)).perform c h =
      Host.followed index ((write data).moved p)
        ((Operation.handle index (.pwrite data (.int p))).perform c h) := by
  simp only [Operation.perform, perform, Op.giving_run, Stream.write_eq, hcursor]
  apply Host.movedOn_followed
  · unfold Stream.pwrite
    rw [Stream.check_then_cursor fun _ => Storage.write_ignores _ _, hcursor]
  · intro count
    rfl

/-- **Seeking** by an integer. -/
theorem seek_by_int (husable : h.device.usable index = .ok ()) (n : Int) (origin : Value) :
    (Operation.handle index (.seek (.int n) origin)).perform c h =
      h.soughtPlace index origin (seekPlace? p n origin) := by
  simp only [Operation.perform, perform, Op.giving_run, Stream.seek_of_usable husable, hcursor,
    Number.soughtFrom_int]
  cases seekPlace? p n origin with
  | none => rfl
  | some q =>
    rw [Number.atPlace, newCursor_int, Host.soughtPlace]
    by_cases hneg : q < 0
    · rw [if_pos hneg, if_pos hneg]
      rfl
    · rw [if_neg hneg, if_neg hneg]
      rfl

end HandleOperation

/-! ## §4 One call -/

namespace HandleOperation

variable {hop : HandleOperation} {result : Value}

section

variable (hcursor : (h.device.handle index).cursor = .int p)
include hcursor

/-- A seek by an integer that succeeded went where it leads, and not below zero. -/
theorem seekPlace_of_seek {n : Int} {origin : Value}
    (hok : ((Operation.handle index (.seek (.int n) origin)).perform c h).1 = .ok result) :
    ∃ q, result = .int q ∧ seekPlace? p n origin = some q ∧ 0 ≤ q := by
  rw [seek_by_int hcursor (Moves.seek.usable_of_ok hok)] at hok
  cases hplace : seekPlace? p n origin with
  | none =>
    rw [hplace] at hok
    cases hok
  | some q =>
    rw [hplace, Host.soughtPlace] at hok
    by_cases hneg : q < 0
    · rw [if_pos hneg] at hok
      cases hok
    · rw [if_neg hneg] at hok
      cases hok
      exact ⟨q, rfl, rfl, Int.not_lt.mp hneg⟩

/-- **One call** takes a cursor that is an integer where the call leads, and not below zero. -/
theorem leaves_int (hp : 0 ≤ p)
    (hinteger : ∀ offset origin, hop = .seek offset origin → ∃ n : Int, offset = .int n)
    (hok : ((Operation.handle index hop).perform c h).1 = .ok result) :
    hop.leaves (.int p) result = .int (hop.moved p result) ∧ 0 ≤ hop.moved p result := by
  cases hop with
  | read length =>
    obtain ⟨data, -, rfl⟩ := Op.exists_of_giving_ok hok
    exact ⟨rfl, Int.add_nonneg hp (Int.natCast_nonneg _)⟩
  | write data =>
    obtain ⟨count, -, rfl⟩ := Op.exists_of_giving_ok hok
    exact ⟨rfl, Int.add_nonneg hp (Int.natCast_nonneg _)⟩
  | seek offset origin =>
    obtain ⟨n, rfl⟩ := hinteger offset origin rfl
    obtain ⟨q, rfl, hplace, hq⟩ := seekPlace_of_seek hcursor hok
    rw [moved, hplace]
    exact ⟨rfl, hq⟩
  | pread | pwrite | tell | isClosed | close | useOnce => exact ⟨rfl, hp⟩

end

/-- What does not seek takes no cursor past the end of the disk. -/
theorem moved_le {start : Nat} (hcursor : (h.device.handle index).cursor = .int start)
    (hstays : ∀ offset origin, hop ≠ .seek offset origin)
    (hok : ((Operation.handle index hop).perform c h).1 = .ok result) :
    hop.moved start result ≤ max (diskSize : Int) start := by
  cases hop with
  | read length =>
    have husable := Moves.read.usable_of_ok hok
    obtain ⟨data, hdata, rfl⟩ := Op.exists_of_giving_ok hok
    rw [Stream.read_eq, hcursor] at hdata
    obtain ⟨n, -, rfl⟩ := Storage.read_ok ((Stream.pread_of_usable husable ..) ▸ hdata)
    simp only [moved, Image.length_slice]
    omega
  | write data =>
    have husable := Moves.write.usable_of_ok hok
    obtain ⟨count, hcount, rfl⟩ := Op.exists_of_giving_ok hok
    rw [Stream.write_eq, hcursor] at hcount
    obtain ⟨hstart, bytes, -, rfl⟩ :=
      Storage.write_ok ((Stream.pwrite_of_usable husable ..) ▸ hcount)
    simp only [moved, countValue]
    omega
  | seek offset origin => exact absurd rfl (hstays offset origin)
  | pread | pwrite | tell | isClosed | close | useOnce =>
    simp only [moved]
    omega

end HandleOperation

/-! ## §5 The law -/

namespace Host

/-- What holds of the cursor of a handle whose seeks go by integers, while it is at `p`. -/
structure CursorLaw (k : Host) (index : Nat) (p : Int) : Prop where
  stands : (k.device.handle index).cursor = .int p
  nonneg : 0 ≤ p
  /-- A step that is no call of this handle, or fails, leaves the cursor where it is. -/
  kept : ∀ step, k.callOf? index step = none →
    ((k.step step).device.handle index).cursor = .int p
  /-- Only seeking takes the cursor further than the end of the disk. -/
  bounded : ∀ c hop result, (∀ offset origin, hop ≠ .seek offset origin) →
    ((Operation.handle index hop).perform c k).1 = .ok result →
      hop.moved p result ≤ max (diskSize : Int) p
  /-- Reading transfers what reading at that offset would. -/
  read : ∀ c length, (Operation.handle index (.read length)).perform c k =
    followed index ((HandleOperation.read length).moved p)
      ((Operation.handle index (.pread length (.int p))).perform c k)
  /-- Writing transfers what writing at that offset would. -/
  write : ∀ c data, (Operation.handle index (.write data)).perform c k =
    followed index ((HandleOperation.write data).moved p)
      ((Operation.handle index (.pwrite data (.int p))).perform c k)
  /-- Seeking goes where it leads and returns that place, unless it lies below zero. -/
  seek : k.device.usable index = .ok () → ∀ c (n : Int) origin,
    (Operation.handle index (.seek (.int n) origin)).perform c k =
      k.soughtPlace index origin (seekPlace? p n origin)

/-- The law holds wherever the cursor is an integer that is not negative. -/
theorem cursorLaw_of_int {k : Host} (hcursor : (k.device.handle index).cursor = .int p)
    (hp : 0 ≤ p) : k.CursorLaw index p where
  stands := hcursor
  nonneg := hp
  kept _ hnone := (step_cursor_of_none hnone).trans hcursor
  bounded _ _ _ hstays hok := by
    obtain ⟨start, rfl⟩ := Int.eq_ofNat_of_zero_le hp
    exact HandleOperation.moved_le hcursor hstays hok
  read _ length := HandleOperation.read_followed hcursor length
  write _ data := HandleOperation.write_followed hcursor data
  seek husable _ n origin := HandleOperation.seek_by_int hcursor husable n origin

/-- Where calls take a cursor, each where it leads. -/
def placeAfter (p : Int) (calls : List (HandleOperation × Value)) : Int :=
  calls.foldl (fun cursor call => call.1.moved cursor call.2) p

/-- **One step** takes the cursor where the call that it may be leads. -/
theorem step_cursor (hcursor : (h.device.handle index).cursor = .int p) (hp : 0 ≤ p) {step : Step}
    (hinteger : step.SeeksByInteger index) :
    ((h.step step).device.handle index).cursor =
        .int (placeAfter p (h.callOf? index step).toList) ∧
      0 ≤ placeAfter p (h.callOf? index step).toList := by
  cases hcall : h.callOf? index step with
  | none => exact ⟨(step_cursor_of_none hcall).trans hcursor, hp⟩
  | some call =>
    obtain ⟨hop, result⟩ := call
    obtain ⟨c, rfl, hok⟩ := callOf?_eq_some hcall
    rw [step_cursor_of_some hcall, hcursor]
    exact HandleOperation.leaves_int hcursor hp
      (fun offset origin hseek => hinteger c offset origin (hseek ▸ rfl)) hok

/-- **A run** takes the cursor where its calls lead, one after the other. -/
theorem run_cursor (hcursor : (h.device.handle index).cursor = .int p) (hp : 0 ≤ p)
    {steps : List Step} (hinteger : ∀ step ∈ steps, step.SeeksByInteger index) :
    ((h.run steps).device.handle index).cursor = .int (placeAfter p (h.callsOf index steps)) ∧
      0 ≤ placeAfter p (h.callsOf index steps) := by
  induction steps generalizing h p with
  | nil => exact ⟨hcursor, hp⟩
  | cons step rest ih =>
    obtain ⟨hfirst, hrest⟩ := List.forall_mem_cons.mp hinteger
    obtain ⟨hcursor', hp'⟩ := step_cursor hcursor hp hfirst
    have happend : placeAfter p (h.callsOf index (step :: rest)) =
        placeAfter (placeAfter p (h.callOf? index step).toList)
          ((h.step step).callsOf index rest) := List.foldl_append
    rw [happend]
    exact ih hcursor' hp' hrest

/-- **The law of cursors.**  In every run in which a handle is sought by integers only, its cursor
is where its own successful calls lead from 0, one after the other. -/
theorem cursor_law_of_run {keys : Value} {files : Files} (hstart : Host.start keys files = .ok h)
    {steps : List Step} (hinteger : ∀ step ∈ steps, step.SeeksByInteger index) :
    (h.run steps).CursorLaw index (placeAfter 0 (h.callsOf index steps)) := by
  obtain ⟨ring, hdevice⟩ := start_device hstart
  have hzero : (h.device.handle index).cursor = .int 0 := by
    rw [hdevice]
    rfl
  obtain ⟨hcursor, hp⟩ := run_cursor hzero (Int.le_refl 0) hinteger
  exact cursorLaw_of_int hcursor hp

/-- Two handles are opened.  The first one goes to where six bytes fit, writes ten, fails to go
below zero and fails to write at the end of the disk, while the second one and the storage are
asked for other things. -/
def twoStreams : List Step :=
  [.operate {} .openHandle, .operate {} .openHandle,
    .operate {} (.handle 0 (.seek (.int (-6)) (.int 2))),
    .operate {} (.handle 1 (.write (.octets [7, 7]))),
    .operate {} (.handle 0 (.write (.octets (List.replicate 10 1)))),
    .operate {} (.handle 0 (.seek (.int (-1)) (.int 0))),
    .operate {} (.write (.int 0) (.octets [9])),
    .operate {} (.handle 0 (.write (.octets [1]))),
    .operate {} (.handle 0 (.pread (.int 3) (.int 0)))]

theorem cursor_law_of_twoStreams :
    (∀ step ∈ twoStreams, step.SeeksByInteger 0) ∧
      (fresh.run twoStreams).CursorLaw 0 4096 := by
  have hstart : Host.start .none Files.empty = .ok fresh := rfl
  have hinteger : ∀ step ∈ twoStreams, step.SeeksByInteger 0 := by
    rintro step hstep c offset origin rfl
    simp [twoStreams] at hstep
    rcases hstep with ⟨-, rfl, -⟩ | ⟨-, rfl, -⟩
    · exact ⟨_, rfl⟩
    · exact ⟨_, rfl⟩
  refine ⟨hinteger, ?_⟩
  have hlaw := cursor_law_of_run hstart hinteger
  have hplace : placeAfter 0 (fresh.callsOf 0 twoStreams) = 4096 := by rfl
  rw [hplace] at hlaw
  exact hlaw

end Host

end SectorDisk
