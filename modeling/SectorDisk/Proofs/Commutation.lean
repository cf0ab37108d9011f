import SectorDisk.Proofs.Atomicity
import SectorDisk.Proofs.Locality

/-!
# Operations on disjoint sectors commute

Two operations that write, protect, erase or copy and that concern no sector in common may be
performed in either order: each ends as it does in the other order, and both orders leave the same
buffers and the same protection.  A write may span several sectors and be refused for one of them,
and locks may be in other hands, so that either operation may fail.

Each sector is looked at by itself (`Store.eq_of_agreesAt`).  One of the two operations does not
concern it and leaves it alone, first or last; and the other one finds everything that it depends on
as it would without the first (`Operation.OnSectors.agreesOn`).
-/

namespace SectorDisk

variable {c c' : Circumstance} {h : Host} {x y : Operation} {s : Sector}

/-! ## §1 What an operation leaves behind -/

theorem Host.operate_store (h : Host) (c : Circumstance) (x : Operation) :
    (h.operate c x).2.device.store = (x.perform c h).2.device.store :=
  (x.perform c h).2.settled_store c.wake

theorem Host.operate_keys (h : Host) (c : Circumstance) (x : Operation) :
    (h.operate c x).2.device.keys = h.device.keys := by
  have hkeys : (h.operate c x).2.device.store.keys = h.device.store.keys := by
    rw [operate_store]
    rcases (x.perform_outcome c h).store_cases with ⟨e, -, hstore⟩ | ⟨v, -, hstore, -⟩
    · rw [hstore]
    · rw [hstore, Store.after_keys]
  exact hkeys

/-- An operation gives back the locks that it took, and other threads keep theirs. -/
theorem Host.operate_owner (hkeeps : c.Keeps h) (x : Operation) (b : Buffer) :
    ((h.operate c x).2.device.lockOf b).owner = (h.device.lockOf b).owner := by
  have howner (b : Buffer) : (x.perform c h).2.device.status.owner b = h.device.status.owner b := by
    obtain ⟨k, ds, hidle, hstatus⟩ := (x.perform_outcome c h).exists_after
    rw [hstatus, Status.after_owner, hidle.owner hkeeps]
  rw [Device.lockOf_owner, Device.lockOf_owner, ← howner b]
  -- what was to happen on waiting happens at the end at the latest
  cases hwake : c.wake with
  | none =>
    simp only [Host.operate, Host.settled, hwake]
  | some w =>
    simp only [Host.operate, Host.settled, hwake, Host.woken_status]
    refine Status.woken_owner (fun hcontended => hkeeps.ne_release hwake ?_) b
    obtain ⟨b', hrival⟩ := hcontended
    exact ⟨b', (howner b').symm.trans hrival⟩

theorem Circumstance.Keeps.operate (hkeeps : c.Keeps h) (hkeeps' : c'.Keeps h) (x : Operation) :
    c'.Keeps (h.operate c x).2 := by
  intro b hrival
  exact hkeeps' b ((Host.operate_owner hkeeps x b).symm.trans hrival)

/-- An operation leaves a host behind that agrees with the one before on all other sectors. -/
theorem Operation.OnSectors.agreesOn (hx : x.OnSectors) (hkeeps : c.Keeps h)
    {sectors : Sector → Prop} (hother : ∀ s, sectors s → ¬ x.Concerns s) :
    h.AgreesOn (h.operate c x).2 sectors where
  sectors := by
    intro s hs
    rw [Host.operate_store]
    exact hx.spares (hother s hs) c h
  keys := h.operate_keys c x
  owner := Host.operate_owner hkeeps x

/-! ## §2 Either order -/

namespace Host

/-- Two operations may be performed in either order: each ends as it does in the other order, and
both orders leave the same buffers and the same protection. -/
structure Commute (h : Host) (c : Circumstance) (x : Operation) (c' : Circumstance)
    (y : Operation) : Prop where
  result : ((h.operate c' y).2.operate c x).1 = (h.operate c x).1
  result' : ((h.operate c x).2.operate c' y).1 = (h.operate c' y).1
  primary : ((h.operate c x).2.operate c' y).2.device.primary =
    ((h.operate c' y).2.operate c x).2.device.primary
  mirror : ((h.operate c x).2.operate c' y).2.device.mirror =
    ((h.operate c' y).2.operate c x).2.device.mirror
  protection : ((h.operate c x).2.operate c' y).2.device.protection =
    ((h.operate c' y).2.operate c x).2.device.protection

/-- Other threads treat both operations alike: they keep the locks that they own, or they let all
of them go as soon as either operation waits. -/
inductive Steady (h : Host) (c c' : Circumstance) : Prop
  | keeping (hkeeps : c.Keeps h) (hkeeps' : c'.Keeps h)
  | releasing (hreleases : c.Releases) (hreleases' : c'.Releases)

theorem commute_of_keeps (hx : x.OnSectors) (hy : y.OnSectors)
    (hdisjoint : ∀ s, x.Concerns s → ¬ y.Concerns s) (hkeeps : c.Keeps h) (hkeeps' : c'.Keeps h) :
    h.Commute c x c' y := by
  have hbefore : h.AgreesOn (h.operate c' y).2 x.Concerns := hy.agreesOn hkeeps' hdisjoint
  have hbefore' : h.AgreesOn (h.operate c x).2 y.Concerns :=
    hx.agreesOn hkeeps fun s hs hs' => hdisjoint s hs' hs
  have hstill : c.Keeps (h.operate c' y).2 := hkeeps'.operate hkeeps y
  have hstill' : c'.Keeps (h.operate c x).2 := hkeeps.operate hkeeps' x
  have hsectors (s : Sector) : ((h.operate c' y).2.operate c x).2.device.store.AgreesAt
      ((h.operate c x).2.operate c' y).2.device.store s := by
    rw [operate_store, operate_store]
    by_cases hs : x.Concerns s
    · -- `y` leaves the sector alone: after `x` and before it
      have hlast := hy.spares (hdisjoint s hs) c' (h.operate c x).2
      have hfirst := hx.agreesAt hbefore hkeeps hstill (hbefore.sectors s hs)
      rw [operate_store] at hlast
      exact hfirst.symm.trans hlast
    · -- `x` does
      have hlast := hx.spares hs c (h.operate c' y).2
      have hfirst := hy.agreesAt hbefore' hkeeps' hstill' (s := s) <| by
        rw [operate_store]
        exact hx.spares hs c h
      rw [operate_store] at hlast
      exact hlast.symm.trans hfirst
  obtain ⟨hprimary, hmirror, hprotection⟩ := Store.eq_of_agreesAt hsectors
  exact ⟨hx.result_congr hbefore hkeeps hstill, hy.result_congr hbefore' hkeeps' hstill', hprimary,
    hmirror, hprotection⟩

/-- Where all locks are let go as soon as an operation waits, it is as if they had been free. -/
theorem operate_of_releases (hreleases : c.Releases) (h : Host) (x : Operation) :
    h.operate c x = h.uncontended.operate c.undisturbed x ∧
      ∀ b, ¬ (h.operate c x).2.Rival b := by
  have hcalm : h.uncontended.operate c.undisturbed x = x.perform c.undisturbed h.uncontended := rfl
  have hend : h.operate c x = ((x.perform c h).1, (x.perform c h).2.uncontended) := by
    rw [← woken_release]
    simp only [operate, settled, hreleases.2]
  rw [hcalm, hend]
  refine ⟨?_, uncontended_not_rival _⟩
  cases x.perform_transparent c h with
  | passed asked hrun hfree hresult hhost hrivals => exact Prod.ext hresult hhost
  | released b before more hasks hfree hrival _ hsame hnone =>
    rw [uncontended_of_not_rival hnone]
    exact hsame
  | stopped b before more rest purpose hrun hcalm hfree hrival hkept => exact absurd hreleases hkept

/-- **Operations on disjoint sectors commute.** -/
theorem disjoint_commute (hx : x.OnSectors) (hy : y.OnSectors)
    (hdisjoint : ∀ s, x.Concerns s → ¬ y.Concerns s) (hsteady : h.Steady c c') :
    h.Commute c x c' y := by
  cases hsteady with
  | keeping hkeeps hkeeps' => exact commute_of_keeps hx hy hdisjoint hkeeps hkeeps'
  | releasing hreleases hreleases' =>
    have hcalm : h.uncontended.Commute c.undisturbed x c'.undisturbed y := by
      refine commute_of_keeps hx hy hdisjoint (fun b hrival => ?_) fun b hrival => ?_
      · exact absurd hrival (h.uncontended_not_rival b)
      · exact absurd hrival (h.uncontended_not_rival b)
    -- every step goes as it does with free locks, and leaves them free
    obtain ⟨hfirst, hfree⟩ := operate_of_releases hreleases h x
    obtain ⟨hfirst', hfree'⟩ := operate_of_releases hreleases' h y
    have hthen : (h.operate c' y).2.operate c x =
        (h.uncontended.operate c'.undisturbed y).2.operate c.undisturbed x := by
      rw [(operate_of_releases hreleases _ x).1, uncontended_of_not_rival hfree', hfirst']
    have hthen' : (h.operate c x).2.operate c' y =
        (h.uncontended.operate c.undisturbed x).2.operate c'.undisturbed y := by
      rw [(operate_of_releases hreleases' _ y).1, uncontended_of_not_rival hfree, hfirst]
    refine ⟨?result, ?result', ?primary, ?mirror, ?protection⟩
    case result =>
      rw [hthen, hfirst]
      exact hcalm.result
    case result' =>
      rw [hthen', hfirst']
      exact hcalm.result'
    case primary =>
      rw [hthen', hthen]
      exact hcalm.primary
    case mirror =>
      rw [hthen', hthen]
      exact hcalm.mirror
    case protection =>
      rw [hthen', hthen]
      exact hcalm.protection

/-- A write that is refused for the second of its sectors, and a copy of the third one that waits
for the mirror until the device is closed: neither notices the other. -/
theorem disjoint_commute_busy :
    busyHost.Commute {} (.write (.int 510) (.octets [1, 2, 3])) { wake := some .close }
        (.capture (.int 2)) ∧
      (busyHost.operate {} (.write (.int 510) (.octets [1, 2, 3]))).1 = .error (.locked 1 .write) ∧
      (busyHost.operate { wake := some .close } (.capture (.int 2))).1 =
        .error (.interrupted .interrupted "mirror lock" (some "mirror_sector")) := by
  refine ⟨disjoint_commute .write .capture ?disjoint (.keeping ?kept ?kept'), rfl, rfl⟩
  case disjoint =>
    intro s hwrite hcapture
    -- the content ends before the third sector begins
    cases hwrite with
    | @write _ _ start content i _ hfits hlow hhigh hs =>
      cases hcapture with
      | capture hsector =>
        obtain ⟨hoffset, -, bytes, hbytes, rfl⟩ := hfits
        simp only [Value.number.injEq, Number.int.injEq] at hsector hoffset
        simp only [Value.bytes?, Option.some.injEq] at hbytes
        simp only [← hbytes, List.length_take, List.length_cons, List.length_nil] at hhigh
        simp only [Sector.Covers, Sector.start, sectorSize] at hs
        omega
  case kept =>
    intro b _ hwake
    cases hwake
  case kept' =>
    intro b _ hwake
    cases hwake

end Host

end SectorDisk
