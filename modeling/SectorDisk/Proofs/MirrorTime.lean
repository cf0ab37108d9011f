import SectorDisk.Proofs.BackupOutcome
import SectorDisk.Proofs.LastWriter

/-!
# The mirror and its history

A sector of the mirror is what was delivered to it last: the content that the sector of the primary
buffer had at that time, or given bytes.  What happens to the primary buffer later does not reach
it, and a backup file shows the mirror, not the primary buffer.  The two agree where every sector
was copied and nothing was written since.
-/

namespace SectorDisk

/-! ## §1 What deeds deliver -/

/-- A sector of zeros. -/
def Block.blank : Block :=
  ⟨Storage.zeros, List.length_replicate⟩

namespace Deed

/-- What a deed delivered to a sector of the mirror. -/
def delivered? (s : Sector) : Deed → Option Block
  | captured t content => if t = s then some content else none
  | stored t content => if t = s then some content else none
  | _ => none

/-- Whether what a deed delivered to a sector of the mirror was a copy of the primary buffer. -/
def copied? (s : Sector) : Deed → Option Bool
  | captured t _ => if t = s then some true else none
  | stored t _ => if t = s then some false else none
  | _ => none

/-- A deed delivers the content of a sector of the mirror or leaves it alone. -/
theorem block_onMirror (x : Deed) (image : Image) (s : Sector) :
    (x.onMirror image).block s = (x.delivered? s).getD (image.block s) := by
  have hdelivered (t : Sector) (content : Block) :
      (image.splice t.start content).block s =
        (if t = s then some content else none).getD (image.block s) := by
    apply Subtype.ext
    by_cases heq : t = s
    · subst heq
      rw [if_pos rfl]
      exact image.sector_splice_self t content.property
    · rw [if_neg heq]
      exact image.sector_splice_of_ne content.property (Ne.symm heq)
  cases x with
  | captured t content => exact hdelivered t content
  | stored t content => exact hdelivered t content
  | _ => rfl

theorem delivered?_eq_none {x : Deed} {s : Sector} (hnone : x.copied? s = none) :
    x.delivered? s = none := by
  cases x with
  | captured t content | stored t content =>
    simp only [copied?, delivered?, ite_eq_right_iff, reduceCtorEq, imp_false] at hnone ⊢
    exact hnone
  | _ => rfl

/-- The latest delivery was a copy: there is a deed that made it. -/
theorem captured_of_latest {s : Sector} {ds : List Deed}
    (hcopied : latest? (copied? s) ds = some true) :
    ∃ content, captured s content ∈ ds ∧ latest? (delivered? s) ds = some content := by
  -- nothing was delivered after the deed at which the search ends
  obtain ⟨before, x, later, rfl, hx, hnone⟩ := latest?_eq_some hcopied
  have hlater : latest? (delivered? s) later = none :=
    latest?_eq_none fun y hy => delivered?_eq_none (hnone y hy)
  cases x with
  | captured t content =>
    simp only [copied?] at hx
    split at hx
    · rename_i heq
      subst heq
      refine ⟨content, List.mem_append_right _ List.mem_cons_self, ?_⟩
      rw [latest?_append, latest?_cons, hlater]
      simp only [delivered?, if_true, Option.none_or, Option.some_or]
    · cases hx
  | stored t content =>
    simp only [copied?] at hx
    split at hx <;> cases hx
  | _ => cases hx

/-! ## §2 What is copied -/

/-- If a deed copies a sector, then from the given image. -/
def CopiesFrom (image : Image) : Deed → Prop
  | captured s content => content = image.block s
  | _ => True

end Deed

/-- What an operation may deliver: nothing, copies of sectors as they were when it began, and given
bytes where it stores them. -/
theorem Operation.forall_deeds {P : Deed → Prop} {d : Device} {op : Operation} {result : Value}
    (hother : ∀ x : Deed, (∀ s, x.delivered? s = none) → P x)
    (hcaptured : ∀ s, P (.captured s (d.primary.block s)))
    (hstored : ∀ sector data, op = .store sector data → ∀ s content, P (.stored s content)) :
    ∀ x ∈ op.deeds d result, P x := by
  by_cases hhandle : ∃ index hop, op = .handle index hop
  · obtain ⟨index, hop, rfl⟩ := hhandle
    exact HandleOperation.forall_deeds_of_handle (fun _ _ => hother _ fun _ => rfl)
      (fun _ => hother _ fun _ => rfl) (fun _ => hother _ fun _ => rfl) (hother _ fun _ => rfl)
  · refine forall_deeds_of_device ?_ (hother _ fun _ => rfl) (hother _ fun _ => rfl)
      (fun _ _ => hother _ fun _ => rfl) (fun _ => hother _ fun _ => rfl)
      (fun _ _ => hother _ fun _ => rfl) (fun _ => hother _ fun _ => rfl) hcaptured hstored
    rintro index hop rfl
    exact hhandle ⟨index, hop, rfl⟩

/-- An operation copies sectors as they were when it began. -/
theorem Operation.copiesFrom_deeds {d : Device} {op : Operation} {result : Value} :
    ∀ x ∈ op.deeds d result, x.CopiesFrom d.primary := by
  refine forall_deeds ?_ (fun s => rfl) fun _ _ _ _ _ => trivial
  intro x hnone
  cases x with
  | captured s content =>
    have hdelivers := hnone s
    rw [Deed.delivered?, if_pos rfl] at hdelivers
    cases hdelivers
  | _ => trivial

namespace Host

theorem copiesFrom_deedsOf {h : Host} {step : Step} :
    ∀ x ∈ h.deedsOf step, x.CopiesFrom h.device.primary := by
  cases step with
  | operate c op =>
    simp only [deedsOf]
    split
    · exact Operation.copiesFrom_deeds
    · exact List.forall_mem_nil _
  | _ => exact List.forall_mem_nil _

/-- What was copied in a run was there at some moment of it. -/
theorem captured_mem_history {h : Host} {steps : List Step} {s : Sector} {content : Block}
    (hmem : .captured s content ∈ h.history steps) :
    ∃ more rest, steps = more ++ rest ∧ content = (h.run more).device.primary.block s := by
  induction steps generalizing h with
  | nil => cases hmem
  | cons step rest ih =>
    rcases List.mem_append.mp hmem with hnow | hlater
    · exact ⟨[], step :: rest, rfl, copiesFrom_deedsOf _ hnow⟩
    · obtain ⟨more, rest', rfl, hcontent⟩ := ih hlater
      exact ⟨step :: more, rest', rfl, hcontent⟩

/-! ## §3 The mirror and its history -/

variable {h : Host} {steps : List Step}

/-- What the latest mirroring of a sector in a run delivered; zeros if there was none. -/
def delivered (h : Host) (steps : List Step) (s : Sector) : Block :=
  (latest? (Deed.delivered? s) (h.history steps)).getD Block.blank

theorem run_mirror (h : Host) (steps : List Step) (s : Sector) :
    (h.run steps).device.mirror.block s =
      (latest? (Deed.delivered? s) (h.history steps)).getD (h.device.mirror.block s) :=
  run_view (fun k => k.mirror.block s) _ (fun k x => x.block_onMirror k.mirror s) h steps

theorem step_mirror {step : Step} {s : Sector}
    (hnone : ∀ x ∈ h.deedsOf step, x.delivered? s = none) :
    (h.step step).device.mirror.sector s = h.device.mirror.sector s := by
  have hblock := h.run_mirror [step] s
  rw [history_singleton, latest?_eq_none hnone, Option.getD_none] at hblock
  exact congrArg Subtype.val hblock

/-- On a new device the mirror is what was delivered to it. -/
theorem mirror_delivered {keys : Value} {files : Files} (hstart : start keys files = .ok h)
    (steps : List Step) (s : Sector) :
    (h.run steps).device.mirror.block s = h.delivered steps s := by
  have hblank : Image.blank.block s = Block.blank := Subtype.ext (Image.blank_sector s)
  rw [run_mirror, (start_store hstart).2.1, hblank]
  rfl

/-- In a run every sector was copied into the mirror, where nothing was stored over it, and the
primary buffer did not change. -/
structure CopiedWhole (h : Host) (steps : List Step) : Prop where
  steady : ∀ more rest, steps = more ++ rest → (h.run more).device.primary = h.device.primary
  copied : ∀ s, latest? (Deed.copied? s) (h.history steps) = some true

/-- Without writes and erasures the primary buffer does not change. -/
theorem CopiedWhole.of_history (hquiet : ∀ x ∈ h.history steps, x.writes = false)
    (hcopied : ∀ s, latest? (Deed.copied? s) (h.history steps) = some true) :
    h.CopiedWhole steps := by
  refine ⟨?steady, hcopied⟩
  rintro more rest rfl
  apply run_primary_eq
  intro x hx i _
  apply Deed.byteAt?_eq_none
  apply hquiet
  rw [history_append]
  exact List.mem_append_left _ hx

/-- After such a run the mirror is the primary buffer. -/
theorem CopiedWhole.mirror_eq (hwhole : h.CopiedWhole steps) :
    (h.run steps).device.mirror = (h.run steps).device.primary := by
  apply Image.ext_sector
  intro s
  -- the copy is of a moment of the run, and at every moment the primary buffer was the same
  obtain ⟨content, hmem, hlatest⟩ := Deed.captured_of_latest (hwhole.copied s)
  obtain ⟨more, rest, hsplit, rfl⟩ := captured_mem_history hmem
  have hblock := h.run_mirror steps s
  rw [hlatest, Option.getD_some, hwhole.steady more rest hsplit,
    ← hwhole.steady steps [] (List.append_nil steps).symm] at hblock
  exact congrArg Subtype.val hblock

theorem backup_store {c : Circumstance} {op : Operation} {path : Value}
    (hpath : op.backupPath? = some path) :
    (h.operate c op).2.device.store = h.device.store := by
  have hdeeds : h.deedsOf (.operate c op) = [] := by
    simp only [deedsOf, op.deeds_backup hpath]
    split <;> rfl
  have hstore := (h.step_store (.operate c op)).1
  rw [hdeeds] at hstore
  exact hstore

end Host

/-! ## §4 Snapshots -/

namespace Operation

variable {c : Circumstance} {h : Host}

/-- A snapshot that succeeds is the primary buffer. -/
theorem primarySnapshot_ok {v : Value} (hok : (primarySnapshot.perform c h).1 = .ok v) :
    v = .octets h.device.primary.toList := by
  obtain ⟨data, hdata, rfl⟩ := Op.exists_of_giving_ok hok
  exact congrArg Value.octets (Op.inspect_ok (fun k => k.primary.toList) hdata)

theorem primarySnapshot_of_free (hfree : (h.device.lockOf .primary).owner = none) :
    (primarySnapshot.perform c h).1 = .ok (.octets h.device.primary.toList) := by
  have hran : ∃ v, (primarySnapshot.perform c h).1 = .ok v := by
    obtain ⟨k, held, -, hrun⟩ := Op.exclusively_of_admits (Or.inl hfree)
    simp only [perform, Op.giving_run, Storage.snapshot]
    rw [hrun]
    exact ⟨_, rfl⟩
  obtain ⟨v, hv⟩ := hran
  rw [hv, primarySnapshot_ok hv]

end Operation

/-! ## §5 Mirror and backup -/

namespace Host

variable {h : Host}

/-- **The mirror and its backups show mirror time.**  After every run of a new device a sector of
the mirror is what the latest mirroring delivered to it, and steps that deliver nothing to it leave
it alone.  The file of a successful backup holds what was delivered to each sector.  Where, since
some moment, every sector was copied and the primary buffer did not change, it is what a snapshot
of the primary buffer gives before and after the backup. -/
theorem mirror_of_history {keys : Value} {files : Files} (hstart : start keys files = .ok h)
    (steps : List Step) :
    (∀ s, (h.run steps).device.mirror.sector s = (h.delivered steps s).val) ∧
      (∀ s step, (∀ x ∈ (h.run steps).deedsOf step, x.delivered? s = none) →
        ((h.run steps).step step).device.mirror.sector s = (h.run steps).device.mirror.sector s) ∧
      ∀ c op path result, op.backupPath? = some path →
        ((h.run steps).operate c op).1 = .ok result →
        ∃ place content, (h.run steps).files.backupPlace? path = some place ∧
          ((h.run steps).operate c op).2.files.content? place = some content ∧
          content.length = diskSize ∧
          (∀ s : Sector, (content.drop s.start).take sectorSize = (h.delivered steps s).val) ∧
          ∀ before mid, steps = before ++ mid → (h.run before).CopiedWhole mid →
            ∀ g, g = h.run steps ∨ g = ((h.run steps).operate c op).2 →
              (∀ c' v, (g.operate c' .primarySnapshot).1 = .ok v → v = .octets content) ∧
              ((g.device.lockOf .primary).owner = none →
                ∀ c', (g.operate c' .primarySnapshot).1 = .ok (.octets content)) := by
  have hsector (s : Sector) : (h.run steps).device.mirror.sector s = (h.delivered steps s).val :=
    congrArg Subtype.val (mirror_delivered hstart steps s)
  refine ⟨hsector, fun s step => step_mirror, ?_⟩
  intro c op path result hpath hok
  obtain ⟨place, hplace, hcontent⟩ := op.perform_backup hpath hok
  refine ⟨place, (h.run steps).device.mirror.toList, hplace, ?file, Vector.length_toList, hsector,
    ?snapshot⟩
  case file =>
    rw [← hcontent]
    exact congrArg (Files.content? · place) (settled_files _ c.wake)
  case snapshot =>
    rintro before mid rfl hwhole g hg
    -- the backup did not change the primary buffer either
    have hsame : g.device.primary = (h.run (before ++ mid)).device.primary := by
      rcases hg with rfl | rfl
      · rfl
      · exact congrArg Store.primary (backup_store hpath)
    have hmirror := hwhole.mirror_eq
    rw [← run_append, ← hsame] at hmirror
    rw [hmirror]
    exact ⟨fun c' v => Operation.primarySnapshot_ok,
      fun hfree c' => Operation.primarySnapshot_of_free hfree⟩

/-- A write across two sectors, and one sector is protected. -/
def writing : List Step :=
  [.operate {} (.write (.int 510) (.bytes .fixed [1, 2, 3])), .operate {} (.lock (.int 3))]

/-- Copies of all sectors, in no particular order. -/
def copying : List Step :=
  [7, 3, 0, 1, 2, 4, 5, 6].map fun n => .operate {} (.capture (.int n))

theorem copying_backup :
    start .none Files.empty = .ok fresh ∧
      ∃ place content,
        (fresh.run (writing ++ copying)).files.backupPlace? (.string "disk") = some place ∧
        ((fresh.run (writing ++ copying)).operate {} (.backup (.string "disk"))).2.files.content?
          place = some content ∧
        ((fresh.run (writing ++ copying)).operate {} .primarySnapshot).1 =
          .ok (.octets content) := by
  have hstart : start .none Files.empty = .ok fresh := rfl
  have hok : ((fresh.run (writing ++ copying)).operate {} (.backup (.string "disk"))).1 =
      .ok .none := by
    have hopens : Mirror.Opens (fresh.run (writing ++ copying)).files (.string "disk")
        (.string "disk") [Files.temporary, Text.Utf8.encode "work", Text.Utf8.encode "disk"] :=
      ⟨rfl, rfl⟩
    obtain ⟨h', hrun, -⟩ :=
      Mirror.backup_run (c := {}) hopens (Or.inl rfl) Sink.genuine_ample Sink.ample_takes
    have hend (h : Host) : (h.operate {} (.backup (.string "disk"))).1 =
        ((Mirror.backup (.string "disk")).giving unitValue {} h).1 := rfl
    rw [hend, Op.giving_run, hrun]
    rfl
  have hall : ((fresh.run writing).history copying).all (fun x => !x.writes) = true := rfl
  have hwhole : (fresh.run writing).CopiedWhole copying := by
    apply CopiedWhole.of_history
    · intro x hx
      simpa only [Bool.not_eq_true'] using List.all_eq_true.mp hall x hx
    · decide
  obtain ⟨-, -, hbackup⟩ := mirror_of_history hstart (writing ++ copying)
  obtain ⟨place, content, hplace, hcontent, -, -, hsnapshot⟩ :=
    hbackup {} (.backup (.string "disk")) (.string "disk") .none rfl hok
  have hfree := (hsnapshot writing copying rfl hwhole _ (Or.inl rfl)).2 rfl {}
  exact ⟨hstart, place, content, hplace, hcontent, hfree⟩

end Host

end SectorDisk
