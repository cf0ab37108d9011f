import SectorDisk.Proofs.Contention

/-!
# Asking for locks

The journal shows for which locks an operation asked and what the caller owned then.  An operation
either tells its operator something at most, or it enters its sections: it asks for the locks that
it needs, one after the other, up to one at which it fails.  Such a failure is a late one, by which
the failures of arguments and keys can be told from it.

The rules put the sections of an operation together (`Op.Enters`).
-/

namespace SectorDisk

variable {α β : Type}

/-! ## §1 The journal -/

/-- The lock that an entry of the journal asks for, with the locks that the caller owned then. -/
def Entry.request? : Entry → Option (Buffer × List Buffer)
  | .request b owned => some (b, owned)
  | .notice _ => none

namespace Host

/-- From one host to the other the operator was told something at most. -/
def Tells (h h' : Host) : Prop :=
  ∃ told : List Notice, h'.journal = h.journal ++ told.map Entry.notice

/-- From one host to the other the locks of the given buffers were asked for, in this order, each
while the caller owned the locks `owned`. -/
def AsksOwning (h h' : Host) (owned asked : List Buffer) : Prop :=
  ∃ more, h'.journal = h.journal ++ more ∧
    more.filterMap Entry.request? = asked.map fun b => (b, owned)

variable {h h' h'' : Host} {owned asked more : List Buffer}

theorem Tells.of_journal_eq (hsame : h'.journal = h.journal) : h.Tells h' :=
  ⟨[], by rw [hsame, List.map_nil, List.append_nil]⟩

theorem Tells.refl (h : Host) : h.Tells h := .of_journal_eq rfl

theorem Tells.updateDevice (h : Host) (f : Device → Device) : h.Tells (h.updateDevice f) :=
  .of_journal_eq rfl

theorem Tells.tell (h : Host) (n : Notice) : h.Tells (h.tell n) := ⟨[n], rfl⟩

theorem Tells.trans (hfirst : h.Tells h') (hthen : h'.Tells h'') : h.Tells h'' := by
  obtain ⟨told, hjournal⟩ := hfirst
  obtain ⟨told', hjournal'⟩ := hthen
  exact ⟨told ++ told', by rw [hjournal', hjournal, List.map_append, List.append_assoc]⟩

theorem AsksOwning.trans (hfirst : h.AsksOwning h' owned asked)
    (hthen : h'.AsksOwning h'' owned more) : h.AsksOwning h'' owned (asked ++ more) := by
  obtain ⟨entries, hjournal, hentries⟩ := hfirst
  obtain ⟨entries', hjournal', hentries'⟩ := hthen
  refine ⟨entries ++ entries', ?_, ?_⟩
  · rw [hjournal', hjournal, List.append_assoc]
  · rw [List.filterMap_append, hentries, hentries', List.map_append]

/-- Where nobody but the operator is told something, no lock is asked for. -/
theorem Tells.asks (htells : h.Tells h') (owned : List Buffer) : h.AsksOwning h' owned [] := by
  obtain ⟨told, hjournal⟩ := htells
  refine ⟨_, hjournal, List.filterMap_eq_nil_iff.mpr ?_⟩
  intro entry hentry
  obtain ⟨n, -, rfl⟩ := List.mem_map.mp hentry
  rfl

theorem AsksOwning.tells (hasks : h.AsksOwning h' owned asked) (htells : h'.Tells h'') :
    h.AsksOwning h'' owned asked := by
  have hall := hasks.trans (htells.asks owned)
  rw [List.append_nil] at hall
  exact hall

theorem AsksOwning.after (htells : h.Tells h') (hasks : h'.AsksOwning h'' owned asked) :
    h.AsksOwning h'' owned asked :=
  (htells.asks owned).trans hasks

/-- Which locks were asked for, whatever the caller owned. -/
theorem AsksOwning.forget (hasks : h.AsksOwning h' owned asked) : h.Asks h' asked := by
  obtain ⟨entries, hjournal, hentries⟩ := hasks
  have hfirst : Entry.requested? = fun entry => (entry.request?).map Prod.fst := by
    funext entry
    cases entry <;> rfl
  refine ⟨entries, hjournal, ?_⟩
  rw [hfirst, ← List.map_filterMap, hentries, List.map_map]
  exact List.map_id' asked

end Host

/-! ## §2 Late failures -/

/-- The failures of an operation that has asked for a lock: the wait was given up, the lock was the
caller's own, a sector is protected, or the file of a backup is to blame. -/
inductive Failure.Late (c : Circumstance) (owned : List Buffer) : Failure → Prop
  | interrupted {why lock operation} : Late c owned (.interrupted why lock operation)
  | reentered {b} (hb : b ∈ owned) : Late c owned (.reentered b.lockName)
  | locked {s change} : Late c owned (.locked s change)
  | writeFailed {path cause} : Late c owned (.writeFailed path cause)
  | incomplete {path written} : Late c owned (.incomplete path written)
  | flawed {image content : Bytes} {cause e}
      (hcause : (c.sink.drain image content).failure = some cause)
      (hflaw : cause.flaw? = some e) : Late c owned e

namespace Op

variable {b : Buffer} {purpose : String} {c : Circumstance} {h : Host}

theorem tells_settled (h : Host) (wake : Option Wake) : h.Tells (h.settled wake) := by
  cases wake with
  | none => exact .refl h
  | some w =>
    cases w with
    | close =>
      simp only [Host.settled, Host.woken, Host.closed]
      split
      · exact .refl h
      · exact ⟨[.deviceClosed], rfl⟩
    | cancel => exact .refl h
    | interrupt b => exact .refl h
    | release => exact .refl h

theorem retry_journal (ticket : Nat) (h : Host) :
    (retry b purpose ticket c h).2.journal = h.journal := by
  unfold retry
  split <;> rfl

theorem retry_late {ticket : Nat} {owned : List Buffer} {e : Failure}
    (hfail : (retry b purpose ticket c h).1 = .error e) : e.Late c owned := by
  unfold retry at hfail
  split at hfail
  · cases hfail
  · cases hfail
    exact .interrupted
  · cases hfail
    exact .interrupted

theorem acquire_tells : (asking b h).Tells (acquire b purpose c h).2 := by
  cases howner : (h.device.lockOf b).owner with
  | none =>
    rw [acquire_of_none howner]
    exact .refl _
  | some party =>
    cases party with
    | caller =>
      rw [acquire_of_caller howner]
      exact .refl _
    | rival =>
      rw [acquire_of_rival howner]
      split
      · exact .refl _
      · exact (tells_settled _ c.wake).trans (.of_journal_eq (retry_journal _ _))

theorem acquire_late {e : Failure} (hfail : (acquire b purpose c h).1 = .error e) :
    e.Late c (h.device.ownedBy .caller) := by
  cases howner : (h.device.lockOf b).owner with
  | none =>
    rw [acquire_of_none howner] at hfail
    cases hfail
  | some party =>
    cases party with
    | caller =>
      rw [acquire_of_caller howner] at hfail
      cases hfail
      refine .reentered (List.mem_filter.mpr ⟨?_, decide_eq_true howner⟩)
      cases b <;> simp only [List.mem_cons, true_or, or_true]
    | rival =>
      rw [acquire_of_rival howner] at hfail
      split at hfail
      · cases hfail
        exact .interrupted
      · exact retry_late hfail

theorem asks_acquire : h.AsksOwning (acquire b purpose c h).2 (h.device.ownedBy .caller) [b] :=
  Host.AsksOwning.tells ⟨[.request b (h.device.ownedBy .caller)], rfl, rfl⟩ acquire_tells

/-! ## §3 Sections -/

/-- The run tells its operator something at most, and its failures are late ones. -/
structure Lingers (c : Circumstance) (owned : List Buffer) (h : Host)
    (out : Except Failure α × Host) : Prop where
  tells : h.Tells out.2
  late : ∀ {e}, out.1 = .error e → e.Late c owned

/-- The run asks for the locks that it needs, in this order, each while the caller owns the locks
`owned`: for all of them, or up to one at which it comes to a late failure. -/
inductive Enters (c : Circumstance) (owned : List Buffer) (h : Host) (needs : List Buffer)
    (out : Except Failure α × Host) : Prop
  | through (a : α) (hok : out.1 = .ok a) (hsome : needs ≠ [])
    (hasks : h.AsksOwning out.2 owned needs)
  | stopped (e : Failure) (hfail : out.1 = .error e) (hlate : e.Late c owned)
    (asked : List Buffer) (hsome : asked ≠ []) (hinitial : asked <+: needs)
    (hasks : h.AsksOwning out.2 owned asked)

namespace Lingers

variable {owned : List Buffer} {h' : Host}

theorem quiet (a : α) (htells : h.Tells h') : Lingers c owned h (.ok a, h') :=
  ⟨htells, fun hfail => by cases hfail⟩

theorem failed {e : Failure} (htells : h.Tells h') (hlate : e.Late c owned) :
    Lingers c owned h ((.error e, h') : Except Failure α × Host) := by
  refine ⟨htells, fun hfail => ?_⟩
  cases hfail
  exact hlate

end Lingers

namespace Enters

variable {op : Op α} {next : α → Op β} {needs more owned : List Buffer} {h' : Host}

/-- A section under the lock of a buffer. -/
theorem exclusively {body : Op α} (b : Buffer) (purpose : String)
    (hbody : ∀ held, Lingers c (h.device.ownedBy .caller) held (body c held)) :
    Enters c (h.device.ownedBy .caller) h [b] (Op.exclusively b purpose body c h) := by
  have hasks : h.AsksOwning (acquire b purpose c h).2 (h.device.ownedBy .caller) [b] := asks_acquire
  have hsome : [b] ≠ [] := List.cons_ne_nil b []
  rw [exclusively_eq]
  cases hr : (acquire b purpose c h).1 with
  | error e =>
    rw [bind_of_error hr]
    exact .stopped e rfl (acquire_late hr) [b] hsome (List.prefix_refl _) hasks
  | ok _ =>
    rw [bind_of_ok hr]
    obtain ⟨htells, hlate⟩ := hbody (acquire b purpose c h).2
    -- letting the lock go leaves the journal as it is
    have hall : h.AsksOwning (releasing b body c (acquire b purpose c h).2).2
        (h.device.ownedBy .caller) [b] := hasks.tells htells
    cases hbodyResult : (body c (acquire b purpose c h).2).1 with
    | error e =>
      exact .stopped e hbodyResult (hlate hbodyResult) [b] hsome (List.prefix_refl _) hall
    | ok a => exact .through a hbodyResult hsome hall

theorem inspect (b : Buffer) (purpose : String) (look : Device → α) :
    Enters c (h.device.ownedBy .caller) h [b]
      (Op.exclusively b purpose (do return look (← Op.device)) c h) :=
  exclusively b purpose fun held => .quiet (look held.device) (.refl held)

/-- One part after the other, with what each of them needs. -/
theorem andThen (hfirst : Enters c owned h needs (op c h))
    (hthen : ∀ a, (op c h).1 = .ok a →
      Enters c owned (op c h).2 more (next a c (op c h).2)) :
    Enters c owned h (needs ++ more) ((op >>= next) c h) := by
  cases hfirst with
  | stopped e hfail hlate asked hsome hinitial hasks =>
    rw [bind_of_error hfail]
    exact .stopped e rfl hlate asked hsome (hinitial.trans (List.prefix_append needs more)) hasks
  | through a hok hsome hasks =>
    -- what the second part asks for comes behind all that the first needs
    have hsome' {rest : List Buffer} : needs ++ rest ≠ [] :=
      fun hnone => hsome (List.append_eq_nil_iff.mp hnone).1
    rw [bind_of_ok hok]
    cases hthen a hok with
    | stopped e hfail hlate asked hsome'' hinitial hasks' =>
      have hall : needs ++ asked <+: needs ++ more :=
        (List.prefix_append_right_inj needs).mpr hinitial
      exact .stopped e hfail hlate (needs ++ asked) hsome' hall (hasks.trans hasks')
    | through b hok' hsome'' hasks' => exact .through b hok' hsome' (hasks.trans hasks')

theorem last (hfirst : Enters c owned h needs (op c h))
    (hlast : ∀ a h', Lingers c owned h' (next a c h')) :
    Enters c owned h needs ((op >>= next) c h) := by
  cases hfirst with
  | stopped e hfail hlate asked hsome hinitial hasks =>
    rw [bind_of_error hfail]
    exact .stopped e rfl hlate asked hsome hinitial hasks
  | through a hok hsome hasks =>
    rw [bind_of_ok hok]
    obtain ⟨htells, hlate⟩ := hlast a (op c h).2
    cases hr : (next a c (op c h).2).1 with
    | error e =>
      exact .stopped e hr (hlate hr) needs hsome (List.prefix_refl _) (hasks.tells htells)
    | ok b => exact .through b hr hsome (hasks.tells htells)

theorem after {out : Except Failure α × Host} (htells : h.Tells h')
    (henters : Enters c owned h' needs out) : Enters c owned h needs out := by
  cases henters with
  | stopped e hfail hlate asked hsome hinitial hasks =>
    exact .stopped e hfail hlate asked hsome hinitial (.after htells hasks)
  | through a hok hsome hasks => exact .through a hok hsome (.after htells hasks)

/-- The result may be told in another way, and the operator told more. -/
theorem map {out : Except Failure α × Host} {f : α → β} (henters : Enters c owned h needs out)
    (htells : out.2.Tells h') : Enters c owned h needs (out.1.map f, h') := by
  cases henters with
  | stopped e hfail hlate asked hsome hinitial hasks =>
    exact .stopped e (by rw [hfail]; rfl) hlate asked hsome hinitial (hasks.tells htells)
  | through a hok hsome hasks =>
    exact .through (f a) (by rw [hok]; rfl) hsome (hasks.tells htells)

end Enters

/-! ## §4 Operations that ask for nothing -/

/-- The operation asks for no lock, on any host and under any circumstances. -/
def AsksNothing (op : Op α) : Prop :=
  ∀ (c : Circumstance) (h : Host), h.Tells (op c h).2

namespace AsksNothing

variable {op op' : Op α} {next : α → Op β}

theorem judge (r : Except Failure α) : (Op.judge r).AsksNothing := fun _ h => .refl h

theorem result (a : α) : (pure a : Op α).AsksNothing := judge (.ok a)

theorem fail (e : Failure) : (Op.fail e : Op α).AsksNothing := judge (.error e)

theorem updateDevice (f : Device → Device) : (Op.updateDevice f).AsksNothing :=
  fun _ h => .updateDevice h f

theorem tell (n : Notice) : (Op.tell n).AsksNothing := fun _ h => .tell h n

theorem andThen (hop : op.AsksNothing) (hnext : ∀ a, (next a).AsksNothing) :
    (op >>= next).AsksNothing := by
  intro c h
  cases hr : (op c h).1 with
  | error e =>
    rw [bind_of_error hr]
    exact hop c h
  | ok a =>
    rw [bind_of_ok hr]
    exact (hop c h).trans (hnext a c (op c h).2)

theorem branch {p : Prop} [Decidable p] (hthen : op.AsksNothing) (helse : op'.AsksNothing) :
    (if p then op else op').AsksNothing := by
  split
  · exact hthen
  · exact helse

theorem device_bind {next : Device → Op β} (hnext : ∀ d, (next d).AsksNothing) :
    (Op.device >>= next).AsksNothing :=
  fun c h => hnext h.device c h

end AsksNothing

/-! ## §5 Whether an operation asks for locks -/

/-- The run asks for nothing, and then there is nothing that it needs; or it asks for the locks that
it needs. -/
inductive Asking (c : Circumstance) (h : Host) (Needs : List Buffer → Prop)
    (out : Except Failure α × Host) : Prop
  | silent (hnone : ∀ needs, ¬ Needs needs) (htells : h.Tells out.2)
  | enters (needs : List Buffer) (hneeds : Needs needs)
    (henters : Enters c (h.device.ownedBy .caller) h needs out)

namespace Asking

variable {Needs Needs' : List Buffer → Prop} {h' : Host}

/-- A judgement goes first: where it fails, the operation needs nothing. -/
theorem judge {r : Except Failure α} {next : α → Op β}
    (hrefused : ∀ e, r = .error e → ∀ needs, ¬ Needs needs)
    (hrest : ∀ a, r = .ok a → Asking c h Needs (next a c h)) :
    Asking c h Needs ((liftM r >>= next : Op β) c h) := by
  cases r with
  | error e => exact .silent (hrefused e rfl) (.refl h)
  | ok a => exact hrest a rfl

theorem of_iff {out : Except Failure α × Host} (hasking : Asking c h Needs out)
    (hsame : ∀ needs, Needs needs ↔ Needs' needs) : Asking c h Needs' out := by
  cases hasking with
  | silent hnone htells =>
    exact .silent (fun needs hneeds => hnone needs ((hsame needs).mpr hneeds)) htells
  | enters needs hneeds henters => exact .enters needs ((hsame needs).mp hneeds) henters

theorem map {out : Except Failure α × Host} {f : α → β} (hasking : Asking c h Needs out)
    (htells : out.2.Tells h') : Asking c h Needs (out.1.map f, h') := by
  cases hasking with
  | silent hnone htells' => exact .silent hnone (htells'.trans htells)
  | enters needs hneeds henters => exact .enters needs hneeds (henters.map htells)

theorem giving {op : Op α} {f : α → Value} (hasking : Asking c h Needs (op c h)) :
    Asking c h Needs (op.giving f c h) := by
  rw [giving_run]
  exact hasking.map (.refl _)

end Asking

end Op

end SectorDisk
