import Mathlib.Algebra.GroupWithZero.Nat
import SectorDisk.Device.Mirror

/-!
# What a file takes

A file answers as it likes to what it is offered: it takes some of the bytes, takes none, or fails,
and in the end it may fail to bring everything to the disk.  `Sink.Takes` relates a file to the
counts of bytes that it takes, offer by offer, and to what stops it.  It holds of every file for
some counts, because an offer that is taken leaves less to offer.

Each offer that is taken is written behind the one before, so that a run of offers writes one
stretch of the image over what the file held (`Sink.Takes.offer_eq`), and a file that was emptied
holds the beginning of the image and nothing else (`Sink.Takes.drain_empty`).
-/

namespace SectorDisk

namespace Sink

/-! ## §1 Writing at a position -/

/-- Bytes written behind those just written are written with them. -/
theorem overwritten_append {content : Bytes} {position : Nat} (first second : Bytes)
    (hposition : position ≤ content.length) :
    overwritten content position (first ++ second) =
      overwritten (overwritten content position first) (position + first.length) second := by
  have hfront : (content.take position ++ first).length = position + first.length := by
    rw [List.length_append, List.length_take_of_le hposition]
  have hbehind : (content.take position ++ first ++ content.drop (position + first.length)).drop
      (position + first.length + second.length) =
        content.drop (position + (first ++ second).length) := by
    rw [← hfront, List.drop_length_add_append, hfront, List.drop_drop, List.length_append,
      Nat.add_assoc]
  unfold overwritten
  rw [List.take_left' hfront, hbehind, List.append_assoc _ first second]

@[simp] theorem overwritten_nil (content : Bytes) (position : Nat) :
    overwritten content position [] = content := by
  rw [overwritten, List.append_nil]
  exact List.take_append_drop position content

theorem length_overwritten {content : Bytes} {position : Nat} (data : Bytes)
    (hposition : position ≤ content.length) :
    (overwritten content position data).length = max content.length (position + data.length) := by
  rw [overwritten, List.length_append, List.length_append, List.length_take_of_le hposition,
    List.length_drop]
  omega

/-- What is written into an empty file is all that it holds. -/
theorem overwritten_empty (data : Bytes) : overwritten [] 0 data = data := by
  rw [overwritten, List.take_nil, List.drop_nil, List.nil_append, List.append_nil]

/-! ## §2 Offers -/

/-- Why a file is offered no more. -/
inductive Stop where
  /-- It has taken everything. -/
  | full
  /-- It took nothing. -/
  | refused
  /-- It failed. -/
  | broken (cause : Value)

/-- What goes wrong with a file that stopped so and fails as given on its way to the disk, where
one that broke is not sent. -/
def Stop.failure (stop : Stop) (syncFailure : Option Value) : Option Value :=
  match stop with
  | .broken cause => some cause
  | _ => syncFailure

/-- A file that has taken `written` bytes and is offered the `left` others takes so many bytes,
offer by offer, until it stops. -/
inductive Takes (sink : Sink) : (written left : Nat) → (counts : List Nat) → Stop → Prop
  | full {written} : Takes sink written 0 [] .full
  | refused {written left} (hleft : 0 < left) (hanswer : sink.answer written left = .nothing) :
    Takes sink written left [] .refused
  | broken {written left cause} (hleft : 0 < left)
    (hanswer : sink.answer written left = .failed cause) :
    Takes sink written left [] (.broken cause)
  | took {written left count pos le counts stop}
    (hanswer : sink.answer written left = .took count pos le)
    (hrest : Takes sink (written + count) (left - count) counts stop) :
    Takes sink written left (count :: counts) stop

variable {sink : Sink} {written left : Nat} {counts : List Nat} {stop : Stop}

/-- Every file comes to a stop. -/
theorem exists_takes (sink : Sink) (written left : Nat) :
    ∃ counts stop, sink.Takes written left counts stop := by
  induction left using Nat.strongRecOn generalizing written with
  | ind left ih =>
    rcases Nat.eq_zero_or_pos left with rfl | hleft
    · exact ⟨[], .full, .full⟩
    · cases hanswer : sink.answer written left with
      | took count pos le =>
        -- at least one byte is taken, so that fewer are left
        have hless : left - count < left := Nat.sub_lt hleft pos
        obtain ⟨counts, stop, hrest⟩ := ih (left - count) hless (written + count)
        exact ⟨count :: counts, stop, .took hanswer hrest⟩
      | nothing => exact ⟨[], .refused, .refused hleft hanswer⟩
      | failed cause => exact ⟨[], .broken cause, .broken hleft hanswer⟩

namespace Takes

theorem sum_le (htakes : sink.Takes written left counts stop) : counts.sum ≤ left := by
  induction htakes with
  | full => exact Nat.le_refl 0
  | refused hleft _ => exact Nat.zero_le _
  | broken hleft _ => exact Nat.zero_le _
  | took hanswer hrest ih =>
    rename_i le _ _
    rw [List.sum_cons]
    omega

/-- Each offer that is taken is taken in part at least. -/
theorem length_le_sum (htakes : sink.Takes written left counts stop) :
    counts.length ≤ counts.sum := by
  induction htakes with
  | full => exact Nat.le_refl 0
  | refused hleft _ => exact Nat.le_refl 0
  | broken hleft _ => exact Nat.le_refl 0
  | took hanswer hrest ih =>
    rename_i pos _ _ _
    rw [List.sum_cons, List.length_cons]
    omega

theorem full_iff (htakes : sink.Takes written left counts stop) :
    stop = .full ↔ counts.sum = left := by
  induction htakes with
  | full => exact iff_of_true rfl rfl
  | refused hleft _ => exact iff_of_false Stop.noConfusion (Nat.ne_of_lt hleft)
  | broken hleft _ => exact iff_of_false Stop.noConfusion (Nat.ne_of_lt hleft)
  | took hanswer hrest ih =>
    rename_i le _ _
    rw [ih, List.sum_cons]
    omega

/-- **The run of the offers** comes to what they come to one by one: the file has taken what the
counts sum up to, has written so much of the image over what it held, and stopped for the same
reason. -/
theorem offer_eq (htakes : sink.Takes written left counts stop) {image content : Bytes}
    (hleft : image.length = written + left) (hcontent : written ≤ content.length) :
    sink.offer image content written =
      ⟨overwritten content written ((image.drop written).take counts.sum),
        written + counts.sum, stop.failure sink.syncFailure⟩ := by
  induction htakes generalizing content with
  | @full written =>
    have hall : image.length ≤ written := Nat.le_of_eq hleft
    rw [offer, if_pos hall, List.sum_nil, List.take_zero, overwritten_nil]
    rfl
  | @refused written left hpos hanswer =>
    obtain rfl : left = image.length - written := by omega
    rw [offer, if_neg (by omega), hanswer, List.sum_nil, List.take_zero, overwritten_nil]
    rfl
  | @broken written left cause hpos hanswer =>
    obtain rfl : left = image.length - written := by omega
    rw [offer, if_neg (by omega), hanswer, List.sum_nil, List.take_zero, overwritten_nil]
    rfl
  | @took written left count pos le counts stop hanswer hrest ih =>
    obtain rfl : left = image.length - written := by omega
    have hcount : ((image.drop written).take count).length = count := by
      rw [List.length_take_of_le]
      rw [List.length_drop]
      exact le
    have hlength : written + count ≤
        (overwritten content written ((image.drop written).take count)).length := by
      rw [length_overwritten _ hcontent, hcount]
      exact Nat.le_max_right _ _
    have hnext := ih (by omega) hlength
    rw [offer, if_neg (by omega), hanswer]
    -- the bytes of this offer and those of all later ones are one stretch of the image
    have hjoined := overwritten_append ((image.drop written).take count)
      ((image.drop (written + count)).take counts.sum) hcontent
    rw [hcount] at hjoined
    rw [List.sum_cons, ← Nat.add_assoc, List.take_add, List.drop_drop, hjoined]
    exact hnext

/-- **A file that was emptied** holds what it took of the image, from the beginning on, and nothing
else. -/
theorem drain_empty {image : Bytes} (htakes : sink.Takes 0 image.length counts stop) :
    sink.drain image [] = ⟨image.take counts.sum, counts.sum, stop.failure sink.syncFailure⟩ := by
  rw [drain, htakes.offer_eq (Nat.zero_add _).symm (Nat.zero_le _), List.drop_zero,
    overwritten_empty, Nat.zero_add]

/-- How much a file takes and how it fails does not hang on what it held. -/
theorem drain_eq {image : Bytes} (htakes : sink.Takes 0 image.length counts stop)
    (content : Bytes) :
    (sink.drain image content).written = counts.sum ∧
      (sink.drain image content).failure = stop.failure sink.syncFailure := by
  rw [drain, htakes.offer_eq (Nat.zero_add _).symm (Nat.zero_le _)]
  exact ⟨Nat.zero_add _, rfl⟩

end Takes

theorem Stop.failure_eq_none {syncFailure : Option Value} :
    stop.failure syncFailure = none ↔ (∀ cause, stop ≠ .broken cause) ∧ syncFailure = none := by
  cases stop with
  | full => simp only [failure, ne_eq, reduceCtorEq, not_false_eq_true, implies_true, true_and]
  | refused => simp only [failure, ne_eq, reduceCtorEq, not_false_eq_true, implies_true, true_and]
  | broken cause => exact iff_of_false (fun h => by cases h) fun h => h.1 cause rfl

/-- A file is stopped early by refusing exactly where nothing has failed and bytes are left. -/
theorem Takes.refused_iff (htakes : sink.Takes written left counts stop)
    {syncFailure : Option Value} :
    stop = .refused ∧ syncFailure = none ↔
      stop.failure syncFailure = none ∧ counts.sum ≠ left := by
  have hfull := htakes.full_iff
  rw [Stop.failure_eq_none]
  cases stop with
  | full =>
    have hall := hfull.mp rfl
    exact iff_of_false (fun h => by cases h.1) fun h => h.2 hall
  | refused =>
    have hsome : counts.sum ≠ left := by
      intro hall
      cases hfull.mpr hall
    simp only [hsome, ne_eq, reduceCtorEq, not_false_eq_true, implies_true, true_and, and_true]
  | broken cause => exact iff_of_false (fun h => by cases h.1) fun h => h.1.1 cause rfl

/-- A file takes a whole image and brings it to the disk. -/
structure Accepts (sink : Sink) : Prop where
  takes : ∃ counts, sink.Takes 0 diskSize counts .full
  synced : sink.syncFailure = none

/-- Whether a file accepts an image can be told from any account of what it takes. -/
theorem Takes.accepts_iff (htakes : sink.Takes 0 diskSize counts stop) :
    sink.Accepts ↔ stop.failure sink.syncFailure = none ∧ counts.sum = diskSize := by
  constructor
  · rintro ⟨⟨counts', htakes'⟩, hsynced⟩
    have hsize : diskSize = (List.replicate diskSize (0 : UInt8)).length :=
      List.length_replicate.symm
    rw [hsize] at htakes htakes'
    -- the two accounts are of one run of offers
    obtain ⟨hwritten, hfailure⟩ := htakes.drain_eq []
    obtain ⟨hwritten', hfailure'⟩ := htakes'.drain_eq []
    have hall := htakes'.full_iff.mp rfl
    refine ⟨hfailure.symm.trans (hfailure'.trans hsynced), ?_⟩
    rw [← hwritten, hwritten', hall]
    exact hsize.symm
  · rintro ⟨hfailure, hall⟩
    obtain rfl := htakes.full_iff.mpr hall
    exact ⟨⟨counts, htakes⟩, hfailure⟩

/-! ## §3 Files by script -/

/-- What a file that stopped so takes of an offer. -/
def Stop.answer (stop : Stop) (offered : Nat) : Answer offered :=
  match stop with
  | .broken cause => .failed cause
  | _ => .nothing

/-- The answer of a file that takes so many bytes, offer by offer, before it stops. -/
def reply (stop : Stop) : (counts : List Nat) → (written offered : Nat) → Answer offered
  | [], _, offered => stop.answer offered
  | count :: rest, written, offered =>
    if written = 0 then
      if h : 0 < count ∧ count ≤ offered then .took count h.1 h.2 else stop.answer offered
    else reply stop rest (written - count) offered

/-- The file that takes so many bytes, offer by offer, and then stops. -/
def obeying (counts : List Nat) (stop : Stop) (syncFailure : Option Value) : Sink where
  answer := reply stop counts
  syncFailure := syncFailure

theorem reply_append {before : List Nat} (hpos : ∀ n ∈ before, 0 < n) (stop : Stop)
    (counts : List Nat) (offered : Nat) :
    reply stop (before ++ counts) before.sum offered = reply stop counts 0 offered := by
  induction before with
  | nil => rfl
  | cons n before ih =>
    obtain ⟨hn, hbefore⟩ := List.forall_mem_cons.mp hpos
    -- the count in front is passed over, because its bytes are written already
    have hlater : n + before.sum ≠ 0 := by omega
    rw [List.cons_append, List.sum_cons, reply, if_neg hlater, Nat.add_sub_cancel_left]
    exact ih hbefore

/-- A file that does with an offer what it stops with takes nothing of it. -/
theorem takes_nil (hanswer : sink.answer written left = stop.answer left)
    (hstop : stop = .full ↔ [].sum = left) : sink.Takes written left [] stop := by
  cases stop with
  | full =>
    have hnone : 0 = left := hstop.mp rfl
    subst hnone
    exact .full
  | refused =>
    refine .refused (Nat.pos_of_ne_zero ?_) hanswer
    intro hnone
    cases hstop.mpr hnone.symm
  | broken cause =>
    refine .broken (Nat.pos_of_ne_zero ?_) hanswer
    intro hnone
    cases hstop.mpr hnone.symm

private theorem takes_obeying_after {before counts : List Nat} {left : Nat} {stop : Stop}
    (hpos : ∀ n ∈ before ++ counts, 0 < n) (hfits : counts.sum ≤ left)
    (hstop : stop = .full ↔ counts.sum = left) (syncFailure : Option Value) :
    (obeying (before ++ counts) stop syncFailure).Takes before.sum left counts stop := by
  induction counts generalizing before left with
  | nil =>
    rw [List.append_nil] at hpos ⊢
    have hlast : (obeying before stop syncFailure).answer before.sum left = stop.answer left := by
      have hreply := reply_append hpos stop [] left
      rw [List.append_nil] at hreply
      exact hreply
    exact takes_nil hlast hstop
  | cons n counts ih =>
    rw [List.sum_cons] at hfits hstop
    have hbefore : ∀ m ∈ before, 0 < m := fun m hm => hpos m (List.mem_append_left _ hm)
    have hn : 0 < n ∧ n ≤ left :=
      ⟨hpos n (List.mem_append_right _ List.mem_cons_self), by omega⟩
    have htaken : (obeying (before ++ n :: counts) stop syncFailure).answer before.sum left =
        .took n hn.1 hn.2 := by
      refine (reply_append hbefore stop (n :: counts) left).trans ?_
      rw [reply, if_pos rfl, dif_pos hn]
    -- what was taken now counts as taken before in the rest
    have hsplit : before ++ n :: counts = (before ++ [n]) ++ counts :=
      (List.append_assoc before [n] counts).symm
    have hrest := @ih (before ++ [n]) (left - n) (hsplit ▸ hpos) (by omega) (hstop.trans (by omega))
    rw [← hsplit, List.sum_append, List.sum_singleton] at hrest
    exact .took htaken hrest

/-- No script is missing: counts that fit and are positive are taken by some file, which then stops
in any way that fits. -/
theorem takes_obeying {counts : List Nat} {left : Nat} {stop : Stop}
    (hpos : ∀ n ∈ counts, 0 < n) (hfits : counts.sum ≤ left)
    (hstop : stop = .full ↔ counts.sum = left) (syncFailure : Option Value) :
    (obeying counts stop syncFailure).Takes 0 left counts stop :=
  @takes_obeying_after [] counts left stop hpos hfits hstop syncFailure

/-- What such a file fails with can be made: no failure is about a failure. -/
structure Genuine (sink : Sink) : Prop where
  answer : ∀ {written offered cause},
    sink.answer written offered = .failed cause → cause.flaw? = none
  sync : ∀ {cause}, sink.syncFailure = some cause → cause.flaw? = none

theorem genuine_obeying {counts : List Nat} {stop : Stop} {syncFailure : Option Value}
    (hstop : ∀ cause, stop = .broken cause → cause.flaw? = none)
    (hsync : ∀ cause, syncFailure = some cause → cause.flaw? = none) :
    (obeying counts stop syncFailure).Genuine := by
  have hanswer {offered : Nat} {cause : Value} (hcause : stop.answer offered = .failed cause) :
      cause.flaw? = none := by
    cases stop with
    | full => cases hcause
    | refused => cases hcause
    | broken cause =>
      cases hcause
      exact hstop _ rfl
  refine ⟨?answer, hsync _⟩
  case answer =>
    intro written offered cause hcause
    change reply stop counts written offered = .failed cause at hcause
    induction counts generalizing written with
    | nil => exact hanswer hcause
    | cons count rest ih =>
      rw [reply] at hcause
      split at hcause
      · split at hcause
        · cases hcause
        · exact hanswer hcause
      · exact ih hcause

/-- A file that takes everything takes an image in one offer. -/
theorem ample_takes : ample.Takes 0 diskSize [diskSize] .full :=
  .took rfl .full

theorem accepts_ample : ample.Accepts :=
  ⟨⟨_, ample_takes⟩, rfl⟩

theorem genuine_ample : ample.Genuine := by
  constructor
  · intro written offered cause hcause
    simp only [ample, scripted] at hcause
    split at hcause <;> cases hcause
  · intro cause hcause
    cases hcause

theorem Genuine.failure {sink : Sink} (hgenuine : sink.Genuine) {written left : Nat}
    {counts : List Nat} {stop : Stop} (htakes : sink.Takes written left counts stop) {cause : Value}
    (hcause : stop.failure sink.syncFailure = some cause) : cause.flaw? = none := by
  induction htakes with
  | full => exact hgenuine.sync hcause
  | refused hleft _ => exact hgenuine.sync hcause
  | broken hleft hanswer =>
    cases hcause
    exact hgenuine.answer hanswer
  | took _ _ ih => exact ih hcause

end Sink

end SectorDisk
