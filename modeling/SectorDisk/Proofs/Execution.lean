import SectorDisk.Device.Run

/-!
# Executing operations

What the primitives of `Op` and their sequences do to a host, one equation each.  With these an
operation is run symbolically: `simp` carries the host through tells and updates, and a failure
ends the run where it occurs.
-/

namespace SectorDisk

variable {α β : Type}

/-! ## §1 Hosts -/

@[simp] theorem Host.tell_device (h : Host) (n : Notice) : (h.tell n).device = h.device := rfl

@[simp] theorem Host.tell_files (h : Host) (n : Notice) : (h.tell n).files = h.files := rfl

@[simp] theorem Host.enter_device (h : Host) (entry : Entry) : (h.enter entry).device = h.device :=
  rfl

@[simp] theorem Host.updateDevice_device (h : Host) (f : Device → Device) :
    (h.updateDevice f).device = f h.device := rfl

@[simp] theorem Host.woken_files (h : Host) (w : Wake) : (h.woken w).files = h.files := by
  cases w with
  | close =>
    simp only [Host.woken, Host.closed]
    split <;> rfl
  | cancel => rfl
  | interrupt b => rfl
  | release => rfl

@[simp] theorem Host.settled_files (h : Host) (wake : Option Wake) :
    (h.settled wake).files = h.files := by
  cases wake with
  | none => rfl
  | some w => exact h.woken_files w

/-! ## §2 Sequences -/

namespace Op

/-- After a success the rest runs on the host that is left. -/
theorem bind_of_ok {op : Op α} {c : Circumstance} {h : Host} {a : α} (hok : (op c h).1 = .ok a)
    (next : α → Op β) : (op >>= next) c h = next a c (op c h).2 := by
  change op.andThen next c h = _
  unfold andThen
  rcases hrun : op c h with ⟨r, h'⟩
  rw [hrun] at hok
  subst hok
  rfl

theorem bind_of_error {op : Op α} {c : Circumstance} {h : Host} {e : Failure}
    (hfail : (op c h).1 = .error e) (next : α → Op β) :
    (op >>= next) c h = (.error e, (op c h).2) := by
  change op.andThen next c h = _
  unfold andThen
  rcases hrun : op c h with ⟨r, h'⟩
  rw [hrun] at hfail
  subst hfail
  rfl

theorem bind_assoc {γ : Type} (op : Op α) (next : α → Op β) (last : β → Op γ) :
    (op >>= next) >>= last = op >>= fun a => next a >>= last := by
  funext c h
  cases hr : (op c h).1 with
  | error e =>
    have hfail : ((op >>= next) c h).1 = .error e := by rw [bind_of_error hr]
    rw [bind_of_error hfail, bind_of_error hr, bind_of_error hr]
  | ok a =>
    have hrest := bind_of_ok hr next
    rw [bind_of_ok hr]
    cases hr' : (next a c (op c h).2).1 with
    | error e =>
      rw [bind_of_error hr', bind_of_error (by rw [hrest, hr']), hrest]
    | ok b => rw [bind_of_ok hr', bind_of_ok (by rw [hrest, hr']), hrest]

/-- A sequence that succeeds went through its first part. -/
theorem exists_of_bind_ok {op : Op α} {next : α → Op β} {c : Circumstance} {h : Host} {b : β}
    (hok : ((op >>= next) c h).1 = .ok b) :
    ∃ a, (op c h).1 = .ok a ∧ (op >>= next) c h = next a c (op c h).2 := by
  cases hr : (op c h).1 with
  | error e =>
    rw [bind_of_error hr] at hok
    cases hok
  | ok a => exact ⟨a, rfl, bind_of_ok hr next⟩

theorem exists_of_judge_ok {r : Except Failure α} {next : α → Op β} {c : Circumstance} {h : Host}
    {b : β} (hok : (((liftM r : Op α) >>= next) c h).1 = .ok b) :
    ∃ a, r = .ok a ∧ ((liftM r : Op α) >>= next) c h = next a c h :=
  exists_of_bind_ok hok

@[simp] theorem pure_run (a : α) (c : Circumstance) (h : Host) :
    (pure a : Op α) c h = (.ok a, h) := rfl

@[simp] theorem fail_run (e : Failure) (c : Circumstance) (h : Host) :
    (fail e : Op α) c h = (.error e, h) := rfl

@[simp] theorem updateDevice_run (f : Device → Device) (c : Circumstance) (h : Host) :
    updateDevice f c h = (.ok (), h.updateDevice f) := rfl

@[simp] theorem tell_run (n : Notice) (c : Circumstance) (h : Host) :
    tell n c h = (.ok (), h.tell n) := rfl

@[simp] theorem fail_bind_run (e : Failure) (next : α → Op β) (c : Circumstance) (h : Host) :
    (fail e >>= next) c h = (.error e, h) := rfl

@[simp] theorem lift_ok_bind_run (a : α) (next : α → Op β) (c : Circumstance) (h : Host) :
    ((liftM (Except.ok a : Except Failure α) : Op α) >>= next) c h = next a c h := rfl

@[simp] theorem host_bind_run (next : Host → Op β) (c : Circumstance) (h : Host) :
    (host >>= next) c h = next h c h := rfl

@[simp] theorem device_bind_run (next : Device → Op β) (c : Circumstance) (h : Host) :
    (device >>= next) c h = next h.device c h := rfl

@[simp] theorem circumstance_bind_run (next : Circumstance → Op β) (c : Circumstance)
    (h : Host) : (circumstance >>= next) c h = next c c h := rfl

@[simp] theorem update_bind_run (f : Host → Host) (next : Unit → Op β) (c : Circumstance)
    (h : Host) : (update f >>= next) c h = next () c (f h) := rfl

@[simp] theorem updateDevice_bind_run (f : Device → Device) (next : Unit → Op β)
    (c : Circumstance) (h : Host) :
    (updateDevice f >>= next) c h = next () c (h.updateDevice f) := rfl

@[simp] theorem tell_bind_run (n : Notice) (next : Unit → Op β) (c : Circumstance) (h : Host) :
    (tell n >>= next) c h = next () c (h.tell n) := rfl

theorem exists_of_giving_ok {op : Op α} {f : α → Value} {c : Circumstance} {h : Host} {v : Value}
    (hok : (op.giving f c h).1 = .ok v) : ∃ a, (op c h).1 = .ok a ∧ v = f a := by
  obtain ⟨a, ha, hrest⟩ := exists_of_bind_ok hok
  rw [giving, hrest] at hok
  exact ⟨a, ha, (Except.ok.inj hok).symm⟩

theorem giving_run (op : Op α) (f : α → Value) (c : Circumstance) (h : Host) :
    op.giving f c h = ((op c h).1.map f, (op c h).2) := by
  unfold giving
  cases hr : (op c h).1 with
  | ok a =>
    rw [bind_of_ok hr]
    rfl
  | error e =>
    rw [bind_of_error hr]
    rfl

end Op

end SectorDisk
