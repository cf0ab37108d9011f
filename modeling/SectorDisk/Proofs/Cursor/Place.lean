import SectorDisk.Proofs.Cursor.Law

/-!
# Cursors that are no offsets

A seek takes any number that is not negative, and transfers take only integers.  So the cursor of a
handle is an offset as long as its latest seek did not lead to a truth value or a float.  From such
a cursor nothing can be transferred, until a seek leads away from it (`Host.cursor_stand_of_run`).
-/

namespace SectorDisk

variable {c : Circumstance} {h : Host} {index : Nat} {n : Number}

/-! ## §1 Numbers that are offsets -/

namespace Number

/-- The number is an offset: an integer that is not negative. -/
def IsPlace (n : Number) : Prop :=
  ∃ p : Nat, n = .int p

/-- The number is an integer or counts as one, which a float never does. -/
def IsWhole (n : Number) : Prop :=
  ∃ m, n.toInt? = some m

theorem isPlace_iff (hnonneg : n.isNegative = false) : n.IsPlace ↔ ∃ m : Int, n = .int m := by
  constructor
  · rintro ⟨p, rfl⟩
    exact ⟨p, rfl⟩
  · rintro ⟨m, rfl⟩
    obtain ⟨p, rfl⟩ := Int.eq_ofNat_of_zero_le (Int.not_lt.mp (of_decide_eq_false hnonneg))
    exact ⟨p, rfl⟩

theorem IsPlace.advanced (hplace : n.IsPlace) (count : Nat) : (n.advanced count).IsPlace := by
  obtain ⟨p, rfl⟩ := hplace
  exact ⟨p + count, rfl⟩

theorem IsPlace.isNegative (hplace : n.IsPlace) : n.isNegative = false := by
  obtain ⟨p, rfl⟩ := hplace
  exact decide_eq_false (Int.not_lt.mpr (Int.natCast_nonneg p))

/-- A sum is an integer where no summand is a float. -/
theorem add_ok {a b sum : Number} (hsum : a.add b = .ok sum) :
    (∃ m : Int, sum = .int m) ↔ a.IsWhole ∧ b.IsWhole := by
  unfold add at hsum
  split at hsum
  · rename_i m k ha hb
    cases hsum
    exact iff_of_true ⟨_, rfl⟩ ⟨⟨m, ha⟩, ⟨k, hb⟩⟩
  · rename_i hfloat
    have hnotboth : ¬(a.IsWhole ∧ b.IsWhole) := fun ⟨⟨m, ha⟩, ⟨k, hb⟩⟩ => hfloat m k ha hb
    split at hsum
    · cases hsum
      refine iff_of_false ?_ hnotboth
      rintro ⟨m, hm⟩
      cases hm
    · cases hsum

end Number

/-! ## §2 Where seeks lead -/

/-- The argument is a number that counts as an integer. -/
def Value.IsWhole (v : Value) : Prop :=
  ∃ n : Number, v = .number n ∧ n.IsWhole

/-- A seek from the cursor leads to an offset if it leads anywhere: from the beginning of the disk
by an integer, and else by what adds up to one. -/
def Number.SeeksToPlace (cursor : Number) (offset origin : Value) : Prop :=
  if origin.equals 0 then ∃ m : Int, offset = .int m
  else if origin.equals 1 then cursor.IsWhole ∧ offset.IsWhole
  else offset.IsWhole

theorem addArgument_ok {base sum : Number} {offset : Value}
    (hsum : addArgument base offset = .ok sum) :
    (∃ m : Int, sum = .int m) ↔ base.IsWhole ∧ offset.IsWhole := by
  unfold addArgument at hsum
  split at hsum
  · rename_i b
    rw [Number.add_ok hsum]
    refine and_congr_right fun _ => ⟨fun hb => ⟨b, rfl, hb⟩, ?_⟩
    rintro ⟨b', hb', hwhole⟩
    cases hb'
    exact hwhole
  · cases hsum

theorem newCursor_ok {target : Value} (hn : newCursor target = .ok n) :
    target = .number n ∧ n.isNegative = false := by
  unfold newCursor at hn
  split at hn
  · split at hn
    · cases hn
    · rename_i hsign
      cases hn
      exact ⟨rfl, Bool.eq_false_iff.mpr hsign⟩
  · cases hn

namespace Number

/-- A seek that succeeds leads to no negative number, and to an offset where it should. -/
theorem soughtFrom_ok {cursor : Number} {offset origin : Value}
    (hn : cursor.soughtFrom offset origin = .ok n) :
    n.isNegative = false ∧ (n.IsPlace ↔ cursor.SeeksToPlace offset origin) := by
  obtain ⟨whence, horigin, hrest⟩ := exists_of_bind_ok hn
  obtain ⟨target, htarget, hnew⟩ := exists_of_bind_ok hrest
  obtain ⟨rfl, hnonneg⟩ := newCursor_ok hnew
  -- but for the beginning of the disk, an origin is a number that the offset is added to
  have hsummed {base : Number}
      (hsum : (addArgument base offset).map Value.number = .ok (.number n)) :
      addArgument base offset = .ok n := by
    obtain ⟨sum, hadd, hsame⟩ := exists_of_map_ok hsum
    cases hsame
    exact hadd
  refine ⟨hnonneg, ?_⟩
  rw [isPlace_iff hnonneg, SeeksToPlace]
  rcases Origin.ofValue_cases origin with
    ⟨hzero, hstart⟩ | ⟨hzero, hone, hcursor⟩ | ⟨hzero, hone, htwo, hpast⟩ | ⟨-, -, -, hnowhere⟩
  · rw [if_pos hzero]
    cases hstart.symm.trans horigin
    cases htarget
    simp only [Value.number.injEq]
  · rw [if_neg hzero, if_pos hone]
    cases hcursor.symm.trans horigin
    exact addArgument_ok (hsummed htarget)
  · rw [if_neg hzero, if_neg hone]
    cases hpast.symm.trans horigin
    rw [addArgument_ok (hsummed htarget)]
    exact and_iff_right ⟨_, rfl⟩
  · cases hnowhere.symm.trans horigin

end Number

theorem HandleOperation.seek_run (c : Circumstance) (h : Host) (index : Nat)
    (offset origin : Value) :
    (∃ e, (Operation.handle index (.seek offset origin)).perform c h = (.error e, h)) ∨
      ∃ n, (Operation.handle index (.seek offset origin)).perform c h =
          (.ok (.number n), h.sought index n) ∧
        n.isNegative = false ∧
        (n.IsPlace ↔ (h.device.handle index).cursor.SeeksToPlace offset origin) := by
  cases husable : h.device.usable index with
  | error e => exact .inl ⟨e, Moves.seek.perform_run husable⟩
  | ok _ =>
    have hrun := Stream.seek_of_usable (c := c) husable offset origin
    simp only [Operation.perform, perform, Op.giving_run, hrun]
    cases hn : (h.device.handle index).cursor.soughtFrom offset origin with
    | error e => exact .inl ⟨e, rfl⟩
    | ok n => exact .inr ⟨n, rfl, Number.soughtFrom_ok hn⟩

/-! ## §3 Transfers -/

/-- What is no offset and not negative is no integer. -/
theorem natural_of_not_place {argument : String} (hnonneg : n.isNegative = false)
    (hspoiled : ¬n.IsPlace) : natural argument (.number n) = .error (.notInteger argument) := by
  rw [Number.isPlace_iff hnonneg] at hspoiled
  cases n with
  | int m => exact absurd ⟨m, rfl⟩ hspoiled
  | flag b => rfl
  | real x => rfl

namespace Storage

variable {offset : Value} {e : Failure} (hrefused : natural "offset" offset = .error e)
include hrefused

theorem read_of_refused (length : Value) : read offset length c h = (.error e, h) := by
  unfold read
  rw [hrefused]
  rfl

theorem write_of_refused (data : Value) : write offset data c h = (.error e, h) := by
  unfold write
  rw [hrefused]
  rfl

end Storage

/-- What transfers bytes at the cursor. -/
inductive HandleOperation.Transfers : HandleOperation → Prop
  | read {length} : Transfers (.read length)
  | write {data} : Transfers (.write data)

theorem HandleOperation.Transfers.moves {hop : HandleOperation} (htransfers : hop.Transfers) :
    hop.Moves := by
  cases htransfers with
  | read => exact .read
  | write => exact .write

namespace HandleOperation

variable (husable : h.device.usable index = .ok ())
include husable

/-- Reading nothing asks for no lock, and succeeds at every offset. -/
theorem read_zero (hplace : (h.device.handle index).cursor.IsPlace) :
    ((Operation.handle index (.read (.int 0))).perform c h).1 = .ok (.octets []) := by
  obtain ⟨p, hp⟩ := hplace
  have hrun : Storage.read (.int p) (.int (0 : Nat)) c h = (.ok [], h) := by
    unfold Storage.read
    rw [natural_int, natural_int, Op.lift_ok_bind_run, Op.lift_ok_bind_run, toNat_fittingLength,
      Nat.zero_min, if_pos rfl, Op.pure_run]
  simp only [Operation.perform, perform, Op.giving_run, Stream.read_eq, hp,
    Stream.pread_of_usable husable]
  exact congrArg (fun out => (Host.movedOn index List.length out).1.map Value.octets) hrun

/-- From a cursor that is no offset nothing can be transferred. -/
theorem Transfers.perform_of_spoiled {hop : HandleOperation} (htransfers : hop.Transfers)
    (hnonneg : (h.device.handle index).cursor.isNegative = false)
    (hspoiled : ¬(h.device.handle index).cursor.IsPlace) :
    (Operation.handle index hop).perform c h = (.error (.notInteger "offset"), h) := by
  have hrefused : natural "offset" (.number (h.device.handle index).cursor) =
      .error (.notInteger "offset") := natural_of_not_place hnonneg hspoiled
  cases htransfers with
  | read =>
    simp only [Operation.perform, perform, Op.giving_run, Stream.read_eq,
      Stream.pread_of_usable husable, Storage.read_of_refused hrefused]
    rfl
  | write =>
    simp only [Operation.perform, perform, Op.giving_run, Stream.write_eq,
      Stream.pwrite_of_usable husable, Storage.write_of_refused hrefused]
    rfl

end HandleOperation

/-! ## §4 One call -/

namespace HandleOperation

variable {hop : HandleOperation} {result : Value}

/-- Where a call that succeeded with the given result sought to, if it did. -/
def sought? : HandleOperation × Value → Option Number
  | (.seek _ _, .number n) => some n
  | _ => none

/-- A transfer succeeds from offsets only. -/
theorem Transfers.isPlace_of_ok (htransfers : hop.Transfers)
    (hnonneg : (h.device.handle index).cursor.isNegative = false)
    (hok : ((Operation.handle index hop).perform c h).1 = .ok result) :
    (h.device.handle index).cursor.IsPlace := by
  apply Classical.byContradiction
  intro hspoiled
  rw [htransfers.perform_of_spoiled (htransfers.moves.usable_of_ok hok) hnonneg hspoiled] at hok
  cases hok

/-- **One call**: the cursor that it leaves is an offset if it sought one, or sought nothing and
began at one. -/
theorem leaves_place {last : Number} (hnonneg : (h.device.handle index).cursor.isNegative = false)
    (hlast : (h.device.handle index).cursor.IsPlace ↔ last.IsPlace)
    (hok : ((Operation.handle index hop).perform c h).1 = .ok result) :
    (hop.leaves (h.device.handle index).cursor result).isNegative = false ∧
      ((hop.leaves (h.device.handle index).cursor result).IsPlace ↔
        ((sought? (hop, result)).getD last).IsPlace) := by
  cases hop with
  | read length =>
    -- from anywhere but an offset it would have failed
    have hplace := Transfers.read.isPlace_of_ok hnonneg hok
    obtain ⟨data, -, rfl⟩ := Op.exists_of_giving_ok hok
    have hmoved := hplace.advanced data.length
    exact ⟨hmoved.isNegative, iff_of_true hmoved (hlast.mp hplace)⟩
  | write data =>
    have hplace := Transfers.write.isPlace_of_ok hnonneg hok
    obtain ⟨count, -, rfl⟩ := Op.exists_of_giving_ok hok
    have hmoved := hplace.advanced count
    exact ⟨hmoved.isNegative, iff_of_true hmoved (hlast.mp hplace)⟩
  | seek offset origin =>
    rcases seek_run c h index offset origin with ⟨e, hrun⟩ | ⟨n, hrun, hn, -⟩
    · rw [hrun] at hok
      cases hok
    · rw [hrun] at hok
      cases hok
      exact ⟨hn, Iff.rfl⟩
  | pread | pwrite | tell | isClosed | close | useOnce => exact ⟨hnonneg, hlast⟩

end HandleOperation

/-! ## §5 Runs -/

namespace Host

/-- Where the latest seek among calls led, or the beginning of the disk. -/
def lastSought (calls : List (HandleOperation × Value)) : Number :=
  calls.foldl (fun last call => (HandleOperation.sought? call).getD last) (.int 0)

/-- How it stands with the cursor of a handle whose latest seek led to `last`. -/
structure CursorStand (k : Host) (index : Nat) (last : Number) : Prop where
  place : (k.device.handle index).cursor.IsPlace ↔ last.IsPlace
  nonneg : (k.device.handle index).cursor.isNegative = false
  /-- Every seek fails and changes nothing, or leads to a number that is not negative, and that is
  an offset if it seeks to one. -/
  seek : ∀ c offset origin,
    (∃ e, (Operation.handle index (.seek offset origin)).perform c k = (.error e, k)) ∨
      ∃ n, (Operation.handle index (.seek offset origin)).perform c k =
          (.ok (.number n), k.sought index n) ∧
        n.isNegative = false ∧
        (n.IsPlace ↔ (k.device.handle index).cursor.SeeksToPlace offset origin)
  /-- Reading nothing succeeds at offsets. -/
  zero : k.device.usable index = .ok () → last.IsPlace → ∀ c,
    ((Operation.handle index (.read (.int 0))).perform c k).1 = .ok (.octets [])
  /-- From elsewhere nothing can be transferred. -/
  spoiled : k.device.usable index = .ok () → ¬last.IsPlace → ∀ c hop,
    HandleOperation.Transfers hop →
      (Operation.handle index hop).perform c k = (.error (.notInteger "offset"), k)

variable {last : Number}

theorem cursorStand_of_place {k : Host}
    (hplace : (k.device.handle index).cursor.IsPlace ↔ last.IsPlace)
    (hnonneg : (k.device.handle index).cursor.isNegative = false) : k.CursorStand index last where
  place := hplace
  nonneg := hnonneg
  seek c offset origin := HandleOperation.seek_run c k index offset origin
  zero husable hlast _ := HandleOperation.read_zero husable (hplace.mpr hlast)
  spoiled husable hlast _ _ htransfers :=
    htransfers.perform_of_spoiled husable hnonneg (mt hplace.mp hlast)

/-- **One step** keeps a cursor an offset unless it seeks elsewhere. -/
theorem step_stand (hplace : (h.device.handle index).cursor.IsPlace ↔ last.IsPlace)
    (hnonneg : (h.device.handle index).cursor.isNegative = false) (step : Step) :
    ((h.step step).device.handle index).cursor.isNegative = false ∧
      (((h.step step).device.handle index).cursor.IsPlace ↔
        ((h.callOf? index step).toList.foldl
          (fun last call => (HandleOperation.sought? call).getD last) last).IsPlace) := by
  cases hcall : h.callOf? index step with
  | none =>
    rw [step_cursor_of_none hcall]
    exact ⟨hnonneg, hplace⟩
  | some call =>
    obtain ⟨hop, result⟩ := call
    obtain ⟨c, -, hok⟩ := callOf?_eq_some hcall
    rw [step_cursor_of_some hcall]
    exact HandleOperation.leaves_place hnonneg hplace hok

/-- **A run** leaves a cursor an offset unless the latest seek of it led elsewhere. -/
theorem run_stand (hplace : (h.device.handle index).cursor.IsPlace ↔ last.IsPlace)
    (hnonneg : (h.device.handle index).cursor.isNegative = false) (steps : List Step) :
    ((h.run steps).device.handle index).cursor.isNegative = false ∧
      (((h.run steps).device.handle index).cursor.IsPlace ↔
        ((h.callsOf index steps).foldl
          (fun last call => (HandleOperation.sought? call).getD last) last).IsPlace) := by
  induction steps generalizing h last with
  | nil => exact ⟨hnonneg, hplace⟩
  | cons step rest ih =>
    obtain ⟨hnonneg', hplace'⟩ := step_stand hplace hnonneg step
    rw [callsOf, List.foldl_append]
    exact ih hplace' hnonneg'

/-- **Cursors and offsets.**  In every run the cursor of a handle is an offset exactly if the latest
seek of the handle that succeeded led to one.  A cursor that is none stands in the way of every
transfer. -/
theorem cursor_stand_of_run {keys : Value} {files : Files} (hstart : Host.start keys files = .ok h)
    (index : Nat) (steps : List Step) :
    (h.run steps).CursorStand index (lastSought (h.callsOf index steps)) := by
  obtain ⟨ring, hdevice⟩ := start_device hstart
  have hzero : (h.device.handle index).cursor = .int 0 := by
    rw [hdevice]
    rfl
  have hbegin : (h.device.handle index).cursor.IsPlace := ⟨0, hzero⟩
  have hbeginning : (Number.int 0).IsPlace := ⟨0, rfl⟩
  obtain ⟨hnonneg, hplace⟩ :=
    run_stand (iff_of_true hbegin hbeginning) hbegin.isNegative steps
  exact cursorStand_of_place hplace hnonneg

/-- A handle is opened and sought to a truth value. -/
def soughtToTruth : List Step :=
  [.operate {} .openHandle, .operate {} (.handle 0 (.seek (.bool true) (.int 0)))]

theorem cursor_stand_of_soughtToTruth :
    Host.start .none Files.empty = .ok fresh ∧
      (fresh.run soughtToTruth).CursorStand 0 (.flag true) := by
  have hstart : Host.start .none Files.empty = .ok fresh := rfl
  exact ⟨hstart, cursor_stand_of_run hstart 0 soughtToTruth⟩

/-- A cursor need not be an offset, and reading nothing on an open handle need not succeed. -/
theorem not_cursor_isPlace :
    (¬∀ (steps : List Step) (index : Nat),
        ((fresh.run steps).device.handle index).cursor.IsPlace) ∧
      ¬∀ (steps : List Step) (index : Nat), (fresh.run steps).device.usable index = .ok () →
        ((Operation.handle index (.read (.int 0))).perform {} (fresh.run steps)).1 =
          .ok (.octets []) := by
  constructor
  · intro hall
    obtain ⟨p, hp⟩ := hall soughtToTruth 0
    cases hp
  · intro hall
    have hread := hall soughtToTruth 0 rfl
    cases hread

end Host

end SectorDisk
