import Mathlib.Data.List.Induction
import SectorDisk.Proofs.MirrorTime

/-!
# Copies on their way to the mirror

Copying a sector is two critical sections: the copy is taken off the primary buffer under its lock
and lands in the mirror under the other, and between the two everybody else may do anything.
`Traffic` is a host with the copies that are on their way, and an action is one critical section of
anybody, so that a list of actions is any interleaving of any number of threads.

Whatever the interleaving, a copy is what its sector was at one instant, and so is every sector of
the mirror: the invariant `Traffic.Whole` carries the instants of the past along.
-/

namespace SectorDisk

/-! ## §1 Two sections -/

/-- A copy of a sector that is on its way to the mirror. -/
structure Flight where
  sector : Sector
  content : Bytes

namespace Mirror

/-- The first section of copying a sector. -/
def takeOff (sector : Value) : Op Flight := do
  let s ← Sector.ofValue sector
  let content ← Storage.copyOut s
  return ⟨s, content⟩

/-- The second section: if it fails, the copy is lost. -/
def land (f : Flight) : Op Unit :=
  deliver f.sector f.content

/-- Copying is the two sections, one after the other. -/
theorem capture_eq (sector : Value) : capture sector = takeOff sector >>= land := by
  unfold capture takeOff
  simp only [Op.bind_assoc]
  rfl

variable {c : Circumstance} {h : Host} {sector : Value} {f : Flight}

theorem takeOff_outcome (c : Circumstance) (h : Host) (sector : Value) :
    Outcome c h.device.status (fun _ => []) (takeOff sector c h) := by
  unfold takeOff
  apply Outcome.judge
  intro s _
  apply (Storage.copyOut_outcome c h s).next
  intro content _
  exact Outcome.quiet (Idle.refl c _) rfl

theorem content_of_takeOff (hok : (takeOff sector c h).1 = .ok f) :
    f.content = h.device.primary.sector f.sector := by
  obtain ⟨s, -, hrest⟩ := Op.exists_of_judge_ok hok
  rw [takeOff, hrest] at hok
  obtain ⟨content, hcopy, hlast⟩ := Op.exists_of_bind_ok hok
  rw [hlast] at hok
  cases hok
  exact Storage.eq_sector_of_copyOut hcopy

theorem takeOff_store : (takeOff sector c h).2.device.store = h.device.store := by
  rcases (takeOff_outcome c h sector).store_cases with ⟨e, -, hstore⟩ | ⟨f, -, hstore, -⟩
  · exact hstore
  · exact hstore

/-- A copy lands in its own sector, as a whole, or is lost. -/
theorem land_cases {block : Block} (hblock : f.content = block.val) :
    (∃ e, (land f c h).1 = .error e ∧ (land f c h).2.device.mirror = h.device.mirror) ∨
      (land f c h).1 = .ok () ∧ ∀ s, (land f c h).2.device.mirror.sector s =
        if f.sector = s then f.content else h.device.mirror.sector s := by
  have houtcome : Outcome c h.device.status (fun _ => [.captured f.sector block]) (land f c h) := by
    unfold land
    rw [hblock]
    exact deliver_outcome c h (fun k => rfl) fun k => trivial
  rcases houtcome.store_cases with ⟨e, hfail, hstore⟩ | ⟨_, hok, hstore, -⟩
  · exact .inl ⟨e, hfail, congrArg Store.mirror hstore⟩
  · have hmirror : (land f c h).2.device.mirror =
        h.device.mirror.splice f.sector.start block.val := congrArg Store.mirror hstore
    refine .inr ⟨hok, fun s => ?_⟩
    rw [hmirror, hblock]
    by_cases hs : f.sector = s
    · subst hs
      rw [if_pos rfl]
      exact Image.sector_splice_self _ _ block.property
    · rw [if_neg hs]
      exact Image.sector_splice_of_ne _ block.property (Ne.symm hs)

end Mirror

/-! ## §2 Actions -/

/-- A host and the copies that are on their way to its mirror. -/
structure Traffic where
  host : Host
  flights : List Flight

/-- A critical section of anybody: a step that is no copying, or one of the two sections of it.  Any
copy may land next. -/
inductive Action where
  | step (step : Step)
  | takeOff (c : Circumstance) (sector : Value)
  | land (c : Circumstance) (index : Nat)

namespace Traffic

def act (t : Traffic) : Action → Traffic
  | .step step => { t with host := t.host.step step }
  | .takeOff c sector =>
    let out := Mirror.takeOff sector c t.host
    ⟨out.2.settled c.wake, t.flights ++ out.1.toOption.toList⟩
  | .land c index =>
    match t.flights[index]? with
    | some f => ⟨(Mirror.land f c t.host).2.settled c.wake, t.flights.eraseIdx index⟩
    | none => t

def run (t : Traffic) (actions : List Action) : Traffic :=
  actions.foldl act t

end Traffic

/-- No bytes are stored in the mirror directly. -/
def Action.Indirect (a : Action) : Prop :=
  ∀ c sector data, a ≠ .step (.operate c (.store sector data))

/-! ## §3 Whole sectors -/

namespace Host

variable {h : Host} {step : Step} {s : Sector}

/-- What a step delivers that stores nothing directly is a copy. -/
theorem copied_of_deedsOf (hindirect : ∀ c sector data, step ≠ .operate c (.store sector data)) :
    ∀ x ∈ h.deedsOf step, ∀ content, x.delivered? s = some content →
      content = h.device.primary.block s := by
  cases step with
  | operate c op =>
    simp only [deedsOf]
    split
    · refine Operation.forall_deeds ?nothing ?copied ?stored
      case nothing =>
        intro x hnone content hcontent
        rw [hnone s] at hcontent
        cases hcontent
      case copied =>
        intro t content hcontent
        simp only [Deed.delivered?] at hcontent
        split at hcontent
        · rename_i heq
          rw [← Option.some.inj hcontent, heq]
        · cases hcontent
      case stored =>
        rintro sector data rfl
        exact absurd rfl (hindirect c sector data)
    · exact List.forall_mem_nil _
  | _ => exact List.forall_mem_nil _

/-- Such a step leaves a sector of the mirror alone or makes it a copy. -/
theorem mirror_of_step (hindirect : ∀ c sector data, step ≠ .operate c (.store sector data)) :
    (h.step step).device.mirror.sector s = h.device.mirror.sector s ∨
      (h.step step).device.mirror.sector s = h.device.primary.sector s := by
  -- the mirror is what the run delivered last, and this run is one step
  have hblock := h.run_mirror [step] s
  rw [history_singleton] at hblock
  cases hlatest : latest? (Deed.delivered? s) (h.deedsOf step) with
  | none =>
    rw [hlatest] at hblock
    exact .inl (congrArg Subtype.val hblock)
  | some content =>
    obtain ⟨before, x, later, hsplit, hx, -⟩ := latest?_eq_some hlatest
    have hmem : x ∈ h.deedsOf step := by
      rw [hsplit]
      exact List.mem_append_right _ List.mem_cons_self
    rw [hlatest, Option.getD_some, copied_of_deedsOf hindirect x hmem content hx] at hblock
    exact .inr (congrArg Subtype.val hblock)

end Host

namespace Traffic

/-- The primary buffer, every copy on its way and every sector of the mirror are of the past: a copy
is of one moment of it, and so is a sector. -/
structure Whole (past : Image → Prop) (t : Traffic) : Prop where
  present : past t.host.device.primary
  flights : ∀ f ∈ t.flights, ∃ image, past image ∧ f.content = image.sector f.sector
  mirror : ∀ s, ∃ image, past image ∧ t.host.device.mirror.sector s = image.sector s

variable {past past' : Image → Prop} {t : Traffic} {a : Action}

theorem takeOff_store {c : Circumstance} {sector : Value} :
    (t.act (.takeOff c sector)).host.device.store = t.host.device.store :=
  (Host.settled_store _ c.wake).trans Mirror.takeOff_store

theorem mem_takeOff {c : Circumstance} {sector : Value} {f : Flight}
    (hf : f ∈ (t.act (.takeOff c sector)).flights) :
    f ∈ t.flights ∨ f.content = t.host.device.primary.sector f.sector := by
  rcases List.mem_append.mp hf with hbefore | hnow
  · exact .inl hbefore
  · right
    cases hr : (Mirror.takeOff sector c t.host).1 with
    | error e =>
      rw [hr] at hnow
      cases hnow
    | ok g =>
      rw [hr] at hnow
      rw [List.mem_singleton.mp hnow]
      exact Mirror.content_of_takeOff hr

theorem mem_land {c : Circumstance} {index : Nat} {f : Flight}
    (hf : f ∈ (t.act (.land c index)).flights) : f ∈ t.flights := by
  rw [act] at hf
  split at hf
  · exact List.mem_of_mem_eraseIdx hf
  · exact hf

/-- A landing brings the sector that was copied, and no other, what is on its way; or it fails and
changes nothing. -/
theorem Whole.land (hwhole : t.Whole past) {index : Nat} {f : Flight}
    (hf : t.flights[index]? = some f) (c : Circumstance) :
    (∃ e, (Mirror.land f c t.host).1 = .error e ∧
        (t.act (.land c index)).host.device.mirror = t.host.device.mirror) ∨
      (Mirror.land f c t.host).1 = .ok () ∧
        ∀ s, (t.act (.land c index)).host.device.mirror.sector s =
          if f.sector = s then f.content else t.host.device.mirror.sector s := by
  obtain ⟨image, -, hcontent⟩ := hwhole.flights f (List.mem_of_getElem? hf)
  have hblock : f.content = (image.block f.sector).val := hcontent
  -- what happens on waiting does not touch the mirror
  have hsettled : (t.act (.land c index)).host.device.mirror =
      (Mirror.land f c t.host).2.device.mirror := by
    simp only [act, hf]
    exact congrArg Store.mirror (Host.settled_store _ c.wake)
  rw [hsettled]
  exact Mirror.land_cases hblock

/-- **One action**: what is of the past stays so, and what is new comes from it. -/
theorem Whole.act (hwhole : t.Whole past) (hpast : ∀ image, past image → past' image)
    (hpresent : past' (t.act a).host.device.primary) (hindirect : a.Indirect) :
    (t.act a).Whole past' := by
  -- what was there before is of the longer past as well
  have hflights : ∀ f ∈ t.flights, ∃ image, past' image ∧ f.content = image.sector f.sector := by
    intro f hf
    obtain ⟨image, himage, hcontent⟩ := hwhole.flights f hf
    exact ⟨image, hpast image himage, hcontent⟩
  have hmirror : ∀ s, ∃ image, past' image ∧ t.host.device.mirror.sector s = image.sector s := by
    intro s
    obtain ⟨image, himage, hsector⟩ := hwhole.mirror s
    exact ⟨image, hpast image himage, hsector⟩
  cases a with
  | step step =>
    refine ⟨hpresent, hflights, fun s => ?_⟩
    have hstep : ∀ c sector data, step ≠ .operate c (.store sector data) :=
      fun c sector data heq => hindirect c sector data (congrArg Action.step heq)
    rcases Host.mirror_of_step (h := t.host) (s := s) hstep with hsame | hcopied
    · rw [Traffic.act, hsame]
      exact hmirror s
    · exact ⟨_, hpast _ hwhole.present, hcopied⟩
  | takeOff c sector =>
    refine ⟨hpresent, fun f hf => ?_, fun s => ?_⟩
    · rcases mem_takeOff hf with hbefore | hnow
      · exact hflights f hbefore
      · exact ⟨_, hpast _ hwhole.present, hnow⟩
    · have hsame : (t.act (.takeOff c sector)).host.device.mirror = t.host.device.mirror :=
        congrArg Store.mirror takeOff_store
      rw [hsame]
      exact hmirror s
  | land c index =>
    refine ⟨hpresent, fun f hf => hflights f (mem_land hf), fun s => ?_⟩
    cases hf : t.flights[index]? with
    | none =>
      have hsame : t.act (.land c index) = t := by simp only [Traffic.act, hf]
      rw [hsame]
      exact hmirror s
    | some f =>
      rcases hwhole.land hf c with ⟨e, -, hlost⟩ | ⟨-, hlanded⟩
      · rw [hlost]
        exact hmirror s
      · rw [hlanded]
        by_cases hs : f.sector = s
        · subst hs
          rw [if_pos rfl]
          exact hflights f (List.mem_of_getElem? hf)
        · rw [if_neg hs]
          exact hmirror s

/-! ## §4 Interleavings -/

/-- The primary buffer at the instants of a run. -/
def Past (t : Traffic) (actions : List Action) (image : Image) : Prop :=
  ∃ before, before <+: actions ∧ (t.run before).host.device.primary = image

theorem run_concat (t : Traffic) (actions : List Action) (a : Action) :
    t.run (actions ++ [a]) = (t.run actions).act a :=
  List.foldl_append

theorem Past.present (t : Traffic) (actions : List Action) :
    t.Past actions (t.run actions).host.device.primary :=
  ⟨actions, List.prefix_refl actions, rfl⟩

/-- **Every interleaving** keeps copies and sectors whole. -/
theorem Whole.run {actions : List Action} (hwhole : t.Whole (t.Past []))
    (hindirect : ∀ a ∈ actions, a.Indirect) : (t.run actions).Whole (t.Past actions) := by
  -- from the right: the last action sees the instants of all that went before
  induction actions using List.reverseRecOn with
  | nil => exact hwhole
  | append_singleton actions a ih =>
    have hbefore := ih fun b hb => hindirect b (List.mem_append_left _ hb)
    have ha : a.Indirect := hindirect a (List.mem_append_right _ (List.mem_singleton.mpr rfl))
    have hpresent := Past.present t (actions ++ [a])
    rw [run_concat] at hpresent ⊢
    refine hbefore.act (fun image hpast => ?_) hpresent ha
    obtain ⟨before, hinitial, himage⟩ := hpast
    exact ⟨before, hinitial.trans (List.prefix_append actions [a]), himage⟩

/-- **No torn sectors.**  However the sections of copies, writes, erasures and all else interleave
on a new device, if nothing is stored directly: every copy on its way is the content that its sector
of the primary buffer had at one instant of the run, and so is every sector of the mirror; and a
copy that lands next goes to its own sector and to no other, as a whole, or is lost. -/
theorem whole_of_actions {keys : Value} {files : Files} {h : Host}
    (hstart : Host.start keys files = .ok h) {actions : List Action}
    (hindirect : ∀ a ∈ actions, a.Indirect) :
    (∀ f ∈ (run ⟨h, []⟩ actions).flights, ∃ before, before <+: actions ∧
        f.content = (run ⟨h, []⟩ before).host.device.primary.sector f.sector) ∧
      (∀ s, ∃ before, before <+: actions ∧
        (run ⟨h, []⟩ actions).host.device.mirror.sector s =
          (run ⟨h, []⟩ before).host.device.primary.sector s) ∧
      ∀ c index f, (run ⟨h, []⟩ actions).flights[index]? = some f →
        (∃ e, (Mirror.land f c (run ⟨h, []⟩ actions).host).1 = .error e ∧
            ((run ⟨h, []⟩ actions).act (.land c index)).host.device.mirror =
              (run ⟨h, []⟩ actions).host.device.mirror) ∨
          (Mirror.land f c (run ⟨h, []⟩ actions).host).1 = .ok () ∧
            ∀ s, ((run ⟨h, []⟩ actions).act (.land c index)).host.device.mirror.sector s =
              if f.sector = s then f.content
              else (run ⟨h, []⟩ actions).host.device.mirror.sector s := by
  obtain ⟨hprimary, hmirror, -⟩ := Host.start_store hstart
  -- at first nothing is on its way, and both buffers are blank
  have hfirst : Whole (Past ⟨h, []⟩ []) ⟨h, []⟩ := by
    refine ⟨Past.present _ [], List.forall_mem_nil _, fun s => ⟨_, Past.present _ [], ?_⟩⟩
    change h.device.mirror.sector s = h.device.primary.sector s
    rw [hprimary, hmirror]
  have hwhole := hfirst.run hindirect
  refine ⟨fun f hf => ?flight, fun s => ?sector, fun c index f hf => hwhole.land hf c⟩
  case flight =>
    obtain ⟨image, ⟨before, hinitial, rfl⟩, hcontent⟩ := hwhole.flights f hf
    exact ⟨before, hinitial, hcontent⟩
  case sector =>
    obtain ⟨image, ⟨before, hinitial, rfl⟩, hsector⟩ := hwhole.mirror s
    exact ⟨before, hinitial, hsector⟩

/-- Two copies take off before and after a write across their sectors, and land in the other
order. -/
def crossing : List Action :=
  [.step (.operate {} (.write (.int 0) (.bytes .fixed (List.replicate 1024 1)))),
    .takeOff {} (.int 0),
    .step (.operate {} (.write (.int 510) (.bytes .fixed [2, 2, 2, 2]))),
    .takeOff {} (.int 1), .land {} 1, .land {} 0]

theorem crossing_whole :
    Host.start .none Files.empty = .ok Host.fresh ∧
      ∀ s, ∃ before, before <+: crossing ∧
        (run ⟨Host.fresh, []⟩ crossing).host.device.mirror.sector s =
          (run ⟨Host.fresh, []⟩ before).host.device.primary.sector s := by
  have hstart : Host.start .none Files.empty = .ok Host.fresh := rfl
  have hindirect : ∀ a ∈ crossing, a.Indirect := by
    intro a ha c sector data heq
    subst heq
    simp only [crossing, List.mem_cons, Action.step.injEq, Step.operate.injEq, reduceCtorEq,
      and_false, false_or, List.not_mem_nil] at ha
  exact ⟨hstart, (whole_of_actions hstart hindirect).2.1⟩

end Traffic

end SectorDisk
