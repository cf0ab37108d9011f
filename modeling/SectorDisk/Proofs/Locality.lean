import SectorDisk.Proofs.Contention.Operation
import SectorDisk.Proofs.MirrorTime
import SectorDisk.Proofs.Write

/-!
# Sector by sector

A store is made up of its sectors: of each the bytes that it has in both buffers, and whether it is
protected.  What a deed makes of a sector is settled by that sector alone, and a sector to which a
deed gives nothing stays as it was.

`Operation.Concerns` says which sectors an operation that writes, protects, erases or copies is
about.  The operation leaves all others alone (`Operation.OnSectors.spares`), and what it ends with
and what it makes of a sector are the same on all hosts that agree on the sectors that it concerns,
on the keys and on who owns the locks (`Operation.OnSectors.result_congr`,
`Operation.OnSectors.agreesAt`).
-/

namespace SectorDisk

variable {α β : Type} {c : Circumstance} {h h' : Host} {s : Sector}

/-! ## §1 Sectors of a store -/

/-- In the given sector two stores have the same bytes and the same protection. -/
structure Store.AgreesAt (k k' : Store) (s : Sector) : Prop where
  primary : ∀ (i : Nat) (hi : i < 4096), s.Covers i → k'.primary[i] = k.primary[i]
  mirror : k'.mirror.block s = k.mirror.block s
  protection : k'.protection.bit s = k.protection.bit s

/-- A deed gives nothing to the sector. -/
structure Deed.Spares (x : Deed) (s : Sector) : Prop where
  primary : ∀ i, s.Covers i → x.byteAt? i = none
  mirror : x.delivered? s = none
  protection : x.protection? s = none

namespace Store

variable {k k' k'' : Store}

theorem AgreesAt.refl (k : Store) (s : Sector) : k.AgreesAt k s :=
  ⟨fun _ _ _ => rfl, rfl, rfl⟩

theorem AgreesAt.symm (hagree : k.AgreesAt k' s) : k'.AgreesAt k s :=
  ⟨fun i hi hs => (hagree.primary i hi hs).symm, hagree.mirror.symm, hagree.protection.symm⟩

theorem AgreesAt.trans (hfirst : k.AgreesAt k' s) (hthen : k'.AgreesAt k'' s) : k.AgreesAt k'' s :=
  ⟨fun i hi hs => (hthen.primary i hi hs).trans (hfirst.primary i hi hs),
    hthen.mirror.trans hfirst.mirror, hthen.protection.trans hfirst.protection⟩

/-- Stores that agree in every sector have the same buffers and the same protection. -/
theorem eq_of_agreesAt (hagree : ∀ s, k.AgreesAt k' s) :
    k'.primary = k.primary ∧ k'.mirror = k.mirror ∧ k'.protection = k.protection := by
  refine ⟨?primary, ?mirror, Flags.ext_bit fun s => (hagree s).protection⟩
  case primary =>
    apply Vector.ext
    intro i hi
    obtain ⟨s, hs⟩ := Sector.exists_covers hi
    exact (hagree s).primary i hi hs
  case mirror =>
    apply Image.ext_sector
    intro s
    exact congrArg Subtype.val (hagree s).mirror

/-- What a deed makes of a sector is settled by that sector. -/
theorem AgreesAt.did (hagree : k.AgreesAt k' s) (x : Deed) : (k.did x).AgreesAt (k'.did x) s where
  primary := by
    intro i hi hs
    simp only [did_primary, Deed.getElem_onPrimary, hagree.primary i hi hs]
  mirror := by
    simp only [Store.did, Deed.block_onMirror, hagree.mirror]
  protection := by
    simp only [did_protection, Deed.bit_onProtection, hagree.protection]

theorem agreesAt_did {x : Deed} (hspares : x.Spares s) : k.AgreesAt (k.did x) s where
  primary := by
    intro i hi hs
    simp only [did_primary, Deed.getElem_onPrimary, hspares.primary i hs, Option.getD_none]
  mirror := by
    simp only [Store.did, Deed.block_onMirror, hspares.mirror, Option.getD_none]
  protection := by
    simp only [did_protection, Deed.bit_onProtection, hspares.protection, Option.getD_none]

theorem AgreesAt.after (hagree : k.AgreesAt k' s) (ds : List Deed) :
    (k.after ds).AgreesAt (k'.after ds) s := by
  induction ds generalizing k k' with
  | nil => exact hagree
  | cons x ds ih => exact ih (hagree.did x)

theorem agreesAt_after {ds : List Deed} (hspare : ∀ x ∈ ds, x.Spares s) :
    k.AgreesAt (k.after ds) s := by
  induction ds generalizing k with
  | nil => exact .refl k s
  | cons x ds ih =>
    obtain ⟨hx, hds⟩ := List.forall_mem_cons.mp hspare
    exact (agreesAt_did hx).trans (ih hds)

end Store

namespace Deed

variable {t : Sector}

theorem spares_wrote {start : Nat} {content : Bytes}
    (haway : ∀ i, start ≤ i → i < start + content.length → ¬ s.Covers i) :
    (wrote start content).Spares s := by
  refine ⟨fun i hs => ?_, rfl, rfl⟩
  simp only [byteAt?]
  split
  · rename_i hlow
    refine List.getElem?_eq_none (Nat.not_lt.mp fun hlt => haway i hlow ?_ hs)
    omega
  · rfl

theorem spares_erased (hne : t ≠ s) : (erased t).Spares s :=
  ⟨fun _ hs => if_neg fun ht => hne (Sector.eq_of_covers ht hs), rfl, rfl⟩

theorem spares_locked (hne : t ≠ s) : (locked t).Spares s :=
  ⟨fun _ _ => rfl, rfl, if_neg hne⟩

theorem spares_unlocked {key : Value} (hne : t ≠ s) : (unlocked t key).Spares s :=
  ⟨fun _ _ => rfl, rfl, if_neg hne⟩

theorem spares_captured {content : Block} (hne : t ≠ s) : (captured t content).Spares s :=
  ⟨fun _ _ => rfl, if_neg hne, rfl⟩

end Deed

/-! ## §2 What an operation is about -/

/-- The operations that write, protect, erase or copy. -/
inductive Operation.OnSectors : Operation → Prop
  | write {offset data} : OnSectors (.write offset data)
  | lock {sector} : OnSectors (.lock sector)
  | unlock {sector key} : OnSectors (.unlock sector key)
  | erase {sector} : OnSectors (.erase sector)
  | capture {sector} : OnSectors (.capture sector)

/-- The sectors that an operation concerns: for a write those that hold a byte of what fits on the
disk, if its arguments are in order, and for the others the sector that is named, if it is one. -/
inductive Operation.Concerns : Operation → Sector → Prop
  | write {offset data start content i s} (hfits : Storage.Fits offset data start content)
    (hlow : start ≤ i) (hhigh : i < start + content.length) (hs : s.Covers i) :
    Concerns (.write offset data) s
  | lock {sector : Value} {s : Sector} (hs : sector = .int s.val) : Concerns (.lock sector) s
  | unlock {sector key : Value} {s : Sector} (hs : sector = .int s.val) :
    Concerns (.unlock sector key) s
  | erase {sector : Value} {s : Sector} (hs : sector = .int s.val) : Concerns (.erase sector) s
  | capture {sector : Value} {s : Sector} (hs : sector = .int s.val) : Concerns (.capture sector) s

/-- The deeds of an operation on a named sector spare a sector that is not the named one. -/
theorem Deed.onSector_spares {sector : Value} {deed : Sector → Deed}
    (hother : sector ≠ .int s.val) (hspares : ∀ t, t ≠ s → (deed t).Spares s) :
    ∀ x ∈ onSector sector deed, x.Spares s := by
  cases ht : Sector.ofValue sector with
  | error e =>
    simp only [onSector, ht]
    exact List.forall_mem_nil _
  | ok t =>
    rw [onSector_of_ok ht]
    refine List.forall_mem_singleton.mpr (hspares t ?_)
    rintro rfl
    exact hother (Sector.eq_int_of_ofValue ht)

/-- The deed of a write that has a place on the disk. -/
theorem Storage.Fits.deeds {offset data : Value} {start : Nat} {content : Bytes}
    (hfits : Fits offset data start content) :
    Deed.ofWrite offset data content.length = [.wrote start content] := by
  obtain ⟨rfl, -, bytes, hdata, rfl⟩ := hfits
  have htake : bytes.take (bytes.take (diskSize - start)).length =
      bytes.take (diskSize - start) := by
    rw [List.length_take, List.take_eq_take_iff]
    omega
  simp only [Deed.ofWrite, hdata, Int.toNat_natCast, htake]

namespace Operation.OnSectors

variable {x : Operation}

/-- **The rest is spared**: the deeds of an operation that succeeds give nothing to a sector that
the operation does not concern. -/
theorem deeds_spare (hx : x.OnSectors) (haway : ¬ x.Concerns s) {v : Value}
    (hok : (x.perform c h).1 = .ok v) : ∀ y ∈ x.deeds h.device v, y.Spares s := by
  cases hx with
  | @write offset data =>
    obtain ⟨n, hn, rfl⟩ := Op.exists_of_giving_ok hok
    rcases Storage.write_fails_or_fits offset data with ⟨e, hfails⟩ | ⟨start, content, hfits⟩
    · rw [hfails] at hn
      cases hn
    · obtain rfl := hfits.eq_length_of_ok hn
      have hdeeds : (Operation.write offset data).deeds h.device (countValue content.length) =
          [.wrote start content] := hfits.deeds
      rw [hdeeds]
      exact List.forall_mem_singleton.mpr <|
        Deed.spares_wrote fun i hlow hhigh hs => haway (.write hfits hlow hhigh hs)
  | lock => exact Deed.onSector_spares (fun hs => haway (.lock hs)) fun _ => Deed.spares_locked
  | unlock =>
    exact Deed.onSector_spares (fun hs => haway (.unlock hs)) fun _ => Deed.spares_unlocked
  | erase => exact Deed.onSector_spares (fun hs => haway (.erase hs)) fun _ => Deed.spares_erased
  | capture =>
    exact Deed.onSector_spares (fun hs => haway (.capture hs)) fun _ => Deed.spares_captured

/-- Whatever an operation ends with, a sector that it does not concern stays as it was. -/
theorem spares (hx : x.OnSectors) (haway : ¬ x.Concerns s) (c : Circumstance) (h : Host) :
    h.device.store.AgreesAt (x.perform c h).2.device.store s := by
  rcases (x.perform_outcome c h).store_cases with ⟨e, -, hstore⟩ | ⟨v, hok, hstore, -⟩
  · rw [hstore]
    exact .refl _ s
  · rw [hstore]
    exact Store.agreesAt_after (hx.deeds_spare haway hok)

end Operation.OnSectors

/-! ## §3 What an operation depends on -/

/-- Two hosts agree on the given sectors, on the keys and on who owns the locks. -/
structure Host.AgreesOn (h h' : Host) (sectors : Sector → Prop) : Prop where
  sectors : ∀ s, sectors s → h.device.store.AgreesAt h'.device.store s
  keys : h'.device.keys = h.device.keys
  owner : ∀ b, (h'.device.lockOf b).owner = (h.device.lockOf b).owner

/-- Other threads keep the locks that they own while an operation waits. -/
def Circumstance.Keeps (c : Circumstance) (h : Host) : Prop :=
  ∀ b, h.Rival b → c.wake ≠ some .release

namespace Op

variable {b : Buffer} {purpose : String}

theorem acquire_store (b : Buffer) (purpose : String) (c : Circumstance) (h : Host) :
    (acquire b purpose c h).2.device.store = h.device.store := by
  rcases acquire_cases b purpose c h with ⟨e, h', hrun, hgave⟩ | ⟨k, held, hrun, hadmitted⟩
  · rw [hrun]
    exact hgave.idle.toStore
  · rw [hrun]
    exact hadmitted.store

/-- Whether a lock is got is settled by who owns it. -/
theorem acquire_congr (purpose : String)
    (howner : (h'.device.lockOf b).owner = (h.device.lockOf b).owner) :
    (acquire b purpose c h').1 = (acquire b purpose c h).1 := by
  cases hcase : (h.device.lockOf b).owner with
  | none => rw [acquire_of_none hcase, acquire_of_none (howner.trans hcase)]
  | some party =>
    cases party with
    | caller => rw [acquire_of_caller hcase, acquire_of_caller (howner.trans hcase)]
    | rival =>
      have hrival' : h'.Rival b := howner.trans hcase
      by_cases hreleases : c.Releases
      · rw [acquire_of_admits (.inr ⟨hcase, hreleases⟩),
          acquire_of_admits (.inr ⟨hrival', hreleases⟩)]
      · rw [(acquire_of_kept purpose hrival' hreleases).2,
          (acquire_of_kept purpose hcase hreleases).2]

/-- A section ends alike where the lock has the same owner and its body ends alike on the stores
that were found. -/
theorem exclusively_congr {body : Op α}
    (howner : (h'.device.lockOf b).owner = (h.device.lockOf b).owner)
    (hbody : ∀ held held' : Host, held.device.store = h.device.store →
      held'.device.store = h'.device.store → (body c held').1 = (body c held).1) :
    (exclusively b purpose body c h').1 = (exclusively b purpose body c h).1 := by
  have hacquired := acquire_congr (c := c) purpose howner
  rw [exclusively_eq]
  cases hr : (acquire b purpose c h).1 with
  | error e => rw [bind_of_error hr, bind_of_error (hacquired.trans hr)]
  | ok _ =>
    rw [bind_of_ok hr, bind_of_ok (hacquired.trans hr)]
    exact hbody _ _ (acquire_store ..) (acquire_store ..)

/-- What comes last ends alike everywhere. -/
theorem bind_congr_of_last {op : Op α} {next : α → Op β} (hop : (op c h').1 = (op c h).1)
    (hlast : ∀ a g g', (next a c g').1 = (next a c g).1) :
    ((op >>= next) c h').1 = ((op >>= next) c h).1 := by
  cases hr : (op c h).1 with
  | error e => rw [bind_of_error hr, bind_of_error (hop.trans hr)]
  | ok a =>
    rw [bind_of_ok hr, bind_of_ok (hop.trans hr)]
    exact hlast a _ _

theorem judge_bind_congr {r : Except Failure α} {next : α → Op β}
    (hnext : ∀ a, r = .ok a → (next a c h').1 = (next a c h).1) :
    (((liftM r : Op α) >>= next) c h').1 = (((liftM r : Op α) >>= next) c h).1 := by
  cases r with
  | error e => rfl
  | ok a => exact hnext a rfl

end Op

/-- An operation without deeds does nothing but wait. -/
theorem Outcome.idle {k : Status} {out : Except Failure α × Host}
    (hout : Outcome c k (fun _ => []) out) : Idle c k out.2.device.status := by
  obtain ⟨k', hidle, hexact⟩ := hout
  have hstatus : out.2.device.status = k' := by
    unfold Exactly at hexact
    cases hr : out.1 with
    | error e =>
      rw [hr] at hexact
      exact hexact
    | ok a =>
      rw [hr] at hexact
      exact hexact.1
  rw [hstatus]
  exact hidle

/-- Locks that nobody lets go stay in the hands of their owners. -/
theorem Status.woken_owner {k : Status} {w : Wake} (hkept : k.Contended → w ≠ .release)
    (b : Buffer) : (k.woken w).owner b = k.owner b := by
  cases w with
  | release =>
    have hnone : ∀ b', k.owner b' ≠ some .rival := fun b' hrival => hkept ⟨b', hrival⟩ rfl
    have hprimary : k.letGo .primary = k := if_neg (hnone .primary)
    have hmirror : k.letGo .mirror = k := if_neg (hnone .mirror)
    rw [woken, hprimary, hmirror]
  | cancel => rfl
  | interrupt b' => rfl
  | close => cases b <;> rfl

theorem Circumstance.Keeps.ne_release (hkeeps : c.Keeps h) {w : Wake} (hwake : c.wake = some w)
    (hcontended : h.device.status.Contended) : w ≠ .release := by
  rintro rfl
  obtain ⟨b, hrival⟩ := hcontended
  exact hkeeps b ((h.device.lockOf_owner b).trans hrival) hwake

/-- Owners stay owners where other threads keep their locks. -/
theorem Idle.owner {k : Status} (hkeeps : c.Keeps h) (hidle : Idle c h.device.status k)
    (b : Buffer) : k.owner b = h.device.status.owner b := by
  rcases hidle with rfl | ⟨w, hwake, -, rfl⟩
  · rfl
  · exact Status.woken_owner (hkeeps.ne_release hwake) b

namespace Storage

variable {offset data sector key : Value}

theorem overwrite_result_congr {start : Nat} {content : Bytes}
    (hbits : ∀ s : Sector, (∃ i, start ≤ i ∧ i < start + content.length ∧ s.Covers i) →
      h'.device.protection.bit s = h.device.protection.bit s) :
    (overwrite start content c h').1 = (overwrite start content c h).1 := by
  -- the first protected sector is looked for among the sectors that hold a byte of the content
  have hfirst : h'.device.firstProtected? (span start content.length) =
      h.device.firstProtected? (span start content.length) := by
    unfold Device.firstProtected?
    congr 1
    funext s
    cases hholds : (span start content.length).holds s.val with
    | false => rfl
    | true => rw [hbits s (span_holds_iff.mp hholds)]
  unfold overwrite
  rw [Op.device_bind_run, Op.device_bind_run, hfirst]
  cases h.device.firstProtected? (span start content.length) <;> rfl

theorem write_result_congr (hagree : h.AgreesOn h' (Operation.write offset data).Concerns) :
    (write offset data c h').1 = (write offset data c h).1 := by
  rcases write_fails_or_fits offset data with ⟨e, hfails⟩ | ⟨start, content, hfits⟩
  · rw [hfails]
    rfl
  by_cases hsome : content = []
  · subst hsome
    rw [write_of_vain hfits, write_of_vain hfits]
  · rw [hfits.write_eq hsome]
    apply Op.bind_congr_of_last
    · apply Op.exclusively_congr (hagree.owner .primary)
      intro held held' hstore hstore'
      apply overwrite_result_congr
      rintro s ⟨i, hlow, hhigh, hs⟩
      have hbits := (hagree.sectors s (.write hfits hlow hhigh hs)).protection
      rw [← hstore, ← hstore'] at hbits
      exact hbits
    · intro _ g g'
      rfl

theorem lock_result_congr (howner : (h'.device.lockOf .primary).owner =
      (h.device.lockOf .primary).owner) :
    (lock sector c h').1 = (lock sector c h).1 := by
  apply Op.judge_bind_congr
  intro s _
  apply Op.bind_congr_of_last
  · exact Op.exclusively_congr howner fun _ _ _ _ => rfl
  · exact fun _ _ _ => rfl

theorem unlock_result_congr (howner : (h'.device.lockOf .primary).owner =
      (h.device.lockOf .primary).owner) (hkeys : h'.device.keys = h.device.keys) :
    (unlock sector key c h').1 = (unlock sector key c h).1 := by
  apply Op.judge_bind_congr
  intro s _
  rw [Op.device_bind_run, Op.device_bind_run, hkeys]
  split
  · apply Op.bind_congr_of_last
    · exact Op.exclusively_congr howner fun _ _ _ _ => rfl
    · exact fun _ _ _ => rfl
  · rfl

theorem erase_result_congr (hagree : h.AgreesOn h' (Operation.erase sector).Concerns) :
    (erase sector c h').1 = (erase sector c h).1 := by
  apply Op.judge_bind_congr
  intro s hs
  have hbit := (hagree.sectors s (.erase (Sector.eq_int_of_ofValue hs))).protection
  apply Op.bind_congr_of_last
  · apply Op.exclusively_congr (hagree.owner .primary)
    intro held held' hstore hstore'
    rw [← hstore, ← hstore'] at hbit
    have hheld : held'.device.protection.bit s = held.device.protection.bit s := hbit
    unfold clear
    rw [Op.device_bind_run, Op.device_bind_run, hheld]
    split <;> rfl
  · exact fun _ _ _ => rfl

end Storage

/-- A copy asks for the second lock after the first was let go, and finds it with the same owner. -/
theorem Mirror.capture_result_congr {sector : Value}
    (hagree : h.AgreesOn h' (Operation.capture sector).Concerns) (hkeeps : c.Keeps h)
    (hkeeps' : c.Keeps h') : (capture sector c h').1 = (capture sector c h).1 := by
  apply Op.judge_bind_congr
  intro s hs
  have hsector : h'.device.primary.sector s = h.device.primary.sector s :=
    Image.sector_eq_of_bytes (hagree.sectors s (.capture (Sector.eq_int_of_ofValue hs))).primary
  have hcopied : (Storage.copyOut s c h').1 = (Storage.copyOut s c h).1 := by
    apply Op.exclusively_congr (hagree.owner .primary)
    intro held held' hstore hstore'
    have hheld : held.device.primary = h.device.primary := congrArg Store.primary hstore
    have hheld' : held'.device.primary = h'.device.primary := congrArg Store.primary hstore'
    rw [Op.device_bind_run, Op.device_bind_run, hheld, hheld', hsector]
    rfl
  -- neither copy has changed who owns a lock
  have hkept {g : Host} (hg : c.Keeps g) (b : Buffer) :
      ((Storage.copyOut s c g).2.device.lockOf b).owner = (g.device.lockOf b).owner := by
    rw [Device.lockOf_owner, Device.lockOf_owner, (Storage.copyOut_outcome c g s).idle.owner hg]
  cases hr : (Storage.copyOut s c h).1 with
  | error e => rw [Op.bind_of_error hr, Op.bind_of_error (hcopied.trans hr)]
  | ok content =>
    rw [Op.bind_of_ok hr, Op.bind_of_ok (hcopied.trans hr)]
    apply Op.bind_congr_of_last
    · apply Op.exclusively_congr
      · rw [hkept hkeeps', hkept hkeeps, hagree.owner]
      · exact fun _ _ _ _ => rfl
    · exact fun _ _ _ => rfl

namespace Operation.OnSectors

variable {x : Operation}

/-- What an operation ends with is settled by the sectors that it concerns, the keys and the owners
of the locks. -/
theorem result_congr (hx : x.OnSectors) (hagree : h.AgreesOn h' x.Concerns) (hkeeps : c.Keeps h)
    (hkeeps' : c.Keeps h') : (x.perform c h').1 = (x.perform c h).1 := by
  have hgiving {α : Type} {op : Op α} {g : α → Value} (hop : (op c h').1 = (op c h).1) :
      (op.giving g c h').1 = (op.giving g c h).1 := by
    rw [Op.giving_run, Op.giving_run, hop]
  cases hx with
  | write => exact hgiving (Storage.write_result_congr hagree)
  | lock => exact hgiving (Storage.lock_result_congr (hagree.owner .primary))
  | unlock => exact hgiving (Storage.unlock_result_congr (hagree.owner .primary) hagree.keys)
  | erase => exact hgiving (Storage.erase_result_congr hagree)
  | capture => exact hgiving (Mirror.capture_result_congr hagree hkeeps hkeeps')

/-- The deeds of an operation are those that it would have where the sectors that it concerns are
the same. -/
theorem deeds_congr (hx : x.OnSectors)
    (hagree : ∀ s, x.Concerns s → h.device.store.AgreesAt h'.device.store s) (v : Value) :
    x.deeds h'.device v = x.deeds h.device v := by
  cases hx with
  | @capture sector =>
    cases hs : Sector.ofValue sector with
    | error e => simp only [deeds, Deed.onSector, hs]
    | ok s =>
      have hblock : h'.device.primary.block s = h.device.primary.block s :=
        Subtype.ext (Image.sector_eq_of_bytes
          (hagree s (.capture (Sector.eq_int_of_ofValue hs))).primary)
      simp only [deeds, Deed.onSector_of_ok hs, hblock]
  | write =>
    cases v with
    | number n => cases n <;> rfl
    | _ => rfl
  | lock => rfl
  | unlock => rfl
  | erase => rfl

/-- Hosts that agree on what an operation concerns still agree in a sector after the operation if
they did before. -/
theorem agreesAt (hx : x.OnSectors) (hagree : h.AgreesOn h' x.Concerns) (hkeeps : c.Keeps h)
    (hkeeps' : c.Keeps h') (hs : h.device.store.AgreesAt h'.device.store s) :
    (x.perform c h).2.device.store.AgreesAt (x.perform c h').2.device.store s := by
  have hresult := hx.result_congr hagree hkeeps hkeeps'
  rcases (x.perform_outcome c h).store_cases with ⟨e, hfail, hstore⟩ | ⟨v, hok, hstore, -⟩
  · rcases (x.perform_outcome c h').store_cases with ⟨e', -, hstore'⟩ | ⟨v', hok', -, -⟩
    · rw [hstore, hstore']
      exact hs
    · cases hok'.symm.trans (hresult.trans hfail)
  · rcases (x.perform_outcome c h').store_cases with ⟨e', hfail', -⟩ | ⟨v', hok', hstore', -⟩
    · cases hfail'.symm.trans (hresult.trans hok)
    · -- both succeeded with the same result, and so they did the same
      cases hok'.symm.trans (hresult.trans hok)
      rw [hstore, hstore', hx.deeds_congr hagree.sectors]
      exact hs.after _

end Operation.OnSectors

end SectorDisk
