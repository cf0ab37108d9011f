import Mathlib.Algebra.GroupWithZero.Nat
import SectorDisk.Proofs.History
import SectorDisk.Proofs.Indifference.Operation

/-!
# Metrics of a run

Commands are counted, and nothing that is done for a command looks at the counts: an operation is
`Unmetered` if it does the same before and after a change of the metrics.

What the counts amount to is told by the dispatches of a run, which are listed from its operations
and what they ended with (`Host.dispatches`).  The metrics of a device account for every one of them
(`Metrics.Accounts`), because one more dispatch adds one to the samples of its command and to no
others.
-/

namespace SectorDisk

open Control (record)

variable {α : Type}

/-! ## §1 What is done for commands -/

/-- The device with other metrics. -/
def Device.withMetrics (d : Device) (m : Metrics) : Device :=
  { d with metrics := m }

/-- The operation neither looks at the metrics nor changes them. -/
def Op.Unmetered (op : Op α) : Prop :=
  ∀ f c h, op c (record f h) = ((op c h).1, record f (op c h).2)

/-- Setting the metrics to what they were shows that they stay so. -/
theorem Op.Unmetered.metrics_eq {op : Op α} (hop : op.Unmetered) (c : Circumstance) (h : Host) :
    (op c h).2.device.metrics = h.device.metrics :=
  Op.Ignores.metrics_eq (fun m c h => hop (fun _ => m) c h) c h

/-- Only exports look at the metrics and only commands that are known change them. -/
theorem Operation.unmetered {op : Operation} (hexport : op ≠ .metrics)
    (hcommand : op.command? = none) : op.perform.Unmetered := by
  intro f
  apply perform_ignores (x := { metrics := f })
  refine ⟨fun _ => ⟨fun _ => rfl, fun _ _ => rfl⟩, fun _ => rfl, fun h => absurd h hexport,
    fun h => ?_, fun _ => rfl⟩
  rw [hcommand] at h
  cases h

/-! ## §2 Tallies -/

namespace Tally

variable {κ : Type} [DecidableEq κ]

/-- The tally counts the labels, each as often as it is listed, and has no other labels. -/
structure Counts (t : Tally κ) (labels : List κ) : Prop where
  count : ∀ label, t.count label = labels.count label
  appears : ∀ label, label ∈ t.map Prod.fst ↔ label ∈ labels
  nodup : (t.map Prod.fst).Nodup
  total : ∀ p : κ → Bool, ((t.filter fun entry => p entry.1).map Prod.snd).sum = labels.countP p

theorem counts_nil : Counts ([] : Tally κ) [] :=
  ⟨fun _ => rfl, fun _ => Iff.rfl, List.nodup_nil, fun _ => rfl⟩

theorem count_cons (entry : κ × Nat) (rest : Tally κ) (label : κ) :
    count (entry :: rest) label = if entry.1 = label then entry.2 else rest.count label := by
  by_cases hsame : entry.1 = label
  · subst hsame
    rw [if_pos rfl, count, List.lookup_cons_self, Option.getD_some]
  · have hbeq : (label == entry.1) = false := beq_eq_false_iff_ne.mpr (Ne.symm hsame)
    rw [if_neg hsame, count, List.lookup_cons, hbeq]
    rfl

theorem count_bump (t : Tally κ) (label other : κ) :
    (t.bump label).count other = t.count other + if label = other then 1 else 0 := by
  induction t with
  | nil => exact (count_cons (label, 1) [] other).trans (Nat.zero_add _).symm
  | cons entry rest ih =>
    by_cases hlabel : entry.1 = label
    · -- the count of this entry goes up, and no other one has its label
      subst hlabel
      simp only [bump, if_true, count_cons]
      split <;> rfl
    · simp only [bump, if_neg hlabel, count_cons]
      split
      · rename_i hother
        rw [if_neg fun hsame => hlabel (hother.trans hsame.symm)]
        rfl
      · exact ih

/-- A label that is new comes last. -/
theorem map_fst_bump (t : Tally κ) (label : κ) :
    (t.bump label).map Prod.fst =
      if label ∈ t.map Prod.fst then t.map Prod.fst else t.map Prod.fst ++ [label] := by
  induction t with
  | nil => rfl
  | cons entry rest ih =>
    by_cases hlabel : entry.1 = label
    · simp [bump, hlabel]
    · have hother : label ≠ entry.1 := Ne.symm hlabel
      simp only [bump, if_neg hlabel, List.map_cons, ih, List.mem_cons, hother, false_or]
      split <;> rfl

theorem total_bump (t : Tally κ) (label : κ) (p : κ → Bool) :
    (((t.bump label).filter fun entry => p entry.1).map Prod.snd).sum =
      ((t.filter fun entry => p entry.1).map Prod.snd).sum + if p label then 1 else 0 := by
  induction t with
  | nil => cases hp : p label <;> simp [bump, hp]
  | cons entry rest ih =>
    by_cases hlabel : entry.1 = label
    · subst hlabel
      cases hp : p entry.1 with
      | true =>
        simp [bump, hp]
        omega
      | false => simp [bump, hp]
    · cases hp : p entry.1 with
      | true =>
        simp [bump, hlabel, hp, ih]
        omega
      | false => simp [bump, hlabel, hp, ih]

/-- One more label adds one to its count. -/
theorem Counts.bump {t : Tally κ} {labels : List κ} (hcounts : t.Counts labels) (label : κ) :
    (t.bump label).Counts (labels ++ [label]) where
  count other := by
    rw [count_bump, hcounts.count, List.count_append, List.count_singleton]
    simp only [beq_iff_eq]
  appears other := by
    have hkeys := hcounts.appears other
    rw [map_fst_bump, List.mem_append, List.mem_singleton]
    split
    · rename_i hknown
      rw [hkeys]
      refine ⟨Or.inl, fun hboth => hboth.elim id ?_⟩
      rintro rfl
      exact hkeys.mp hknown
    · rw [List.mem_append, List.mem_singleton, hkeys]
  nodup := by
    rw [map_fst_bump]
    split
    · exact hcounts.nodup
    · rename_i hnew
      refine List.nodup_append.mpr ⟨hcounts.nodup, List.pairwise_singleton _ label, ?_⟩
      intro a ha b hb
      rw [List.mem_singleton.mp hb]
      rintro rfl
      exact hnew ha
  total p := by
    rw [total_bump, hcounts.total, List.countP_append, List.countP_singleton]

end Tally

/-! ## §3 Histograms -/

/-- Every time fits the last bucket, unless it is no number. -/
theorem le_infinity {time : Float} (hnumber : time.isNaN = false) : time ≤ 1.0 / 0.0 := by
  open Float.Model in
  have hinfinity : (1.0 / 0.0 : Float).toModel.unpack = .infinity .positive := rfl
  have hmodel : time.toModel.le (1.0 / 0.0 : Float).toModel = true := by
    change time.toModel.unpack.isNaN = false at hnumber
    unfold Float.Model.le
    rw [hinfinity]
    cases hunpack : time.toModel.unpack with
    | notANumber =>
      rw [hunpack] at hnumber
      cases hnumber
    | infinity sign => cases sign <;> rfl
    | zero sign => cases sign <;> rfl
    | finite sign mantissa exponent hpos => cases sign <;> rfl
  exact decide_eq_true hmodel

namespace Histogram

variable {time : Float}

/-- The histogram has a count for each bound. -/
def Sized (g : Histogram) : Prop :=
  g.buckets.length = latencyBounds.length

theorem length_place (time : Float) (bounds : List Float) (counts : List Nat) :
    (place time bounds counts).length = counts.length := by
  fun_induction place time bounds counts with
  | case1 => rfl
  | case2 bound bounds n ns hlater ih => rw [List.length_cons, ih, List.length_cons]
  | case3 => rfl

theorem sum_place {bounds : List Float} {counts : List Nat}
    (hfits : ∃ bound ∈ bounds, time ≤ bound) (hsize : counts.length = bounds.length) :
    (place time bounds counts).sum = counts.sum + 1 := by
  fun_induction place time bounds counts with
  | case1 bound bounds n ns hnow =>
    rw [List.sum_cons, List.sum_cons]
    omega
  | case2 bound bounds n ns hlater ih =>
    -- a bound that the time does not fit is not the one that it fits
    obtain ⟨fit, hfit, hle⟩ := hfits
    rcases List.mem_cons.mp hfit with rfl | hrest
    · exact absurd hle hlater
    · rw [List.sum_cons, List.sum_cons, ih ⟨fit, hrest, hle⟩ (Nat.succ.inj hsize)]
      omega
  | case3 bounds counts hnone =>
    obtain ⟨fit, hfit, -⟩ := hfits
    cases bounds with
    | nil => cases hfit
    | cons bound bounds =>
      cases counts with
      | nil => cases hsize
      | cons n ns => exact absurd rfl (hnone bound bounds n ns rfl)

theorem count_eq (g : Histogram) : g.count = g.buckets.sum :=
  List.sum_eq_foldl.symm

theorem Sized.observe {g : Histogram} (hsized : g.Sized) (time : Float) : (g.observe time).Sized :=
  (length_place time latencyBounds g.buckets).trans hsized

theorem Sized.count_observe {g : Histogram} (hsized : g.Sized) (hnumber : time.isNaN = false) :
    (g.observe time).count = g.count + 1 := by
  have hlast : ∃ bound ∈ latencyBounds, time ≤ bound :=
    ⟨1.0 / 0.0, by simp [latencyBounds], le_infinity hnumber⟩
  rw [count_eq, count_eq]
  exact sum_place hlast hsized

theorem sized_empty : empty.Sized := List.length_map _

theorem count_empty : empty.count = 0 := rfl

end Histogram

/-! ## §4 One more dispatch -/

/-- The dispatch of a command that is known: the seconds that it took and what it ended with. -/
structure Dispatch where
  command : Command
  seconds : Float
  result : Except Failure Value

namespace Dispatch

/-- The label under which a dispatch counts as failed, if it failed. -/
def failure? (x : Dispatch) : Option FailureLabel :=
  match x.result with
  | .ok _ => none
  | .error e => some (x.command, e.kind)

/-- Whether the dispatch returned. -/
def returned (x : Dispatch) : Bool :=
  x.failure?.isNone

/-- Every dispatch of a command failed or returned. -/
theorem count_command (xs : List Dispatch) (cmd : Command) :
    (xs.map command).count cmd =
      (xs.filterMap failure?).countP (fun label => decide (label.1 = cmd)) +
        xs.countP fun x => decide (x.command = cmd) && x.returned := by
  induction xs with
  | nil => rfl
  | cons x xs ih =>
    rw [List.map_cons, List.count_cons, List.countP_cons, ih]
    cases hresult : x.result with
    | ok answer =>
      have hnone : x.failure? = none := by simp only [failure?, hresult]
      simp only [List.filterMap_cons, returned, hnone, Option.isNone_none, Bool.and_true,
        beq_iff_eq, decide_eq_true_eq]
      omega
    | error e =>
      have hsome : x.failure? = some (x.command, e.kind) := by simp only [failure?, hresult]
      simp only [List.filterMap_cons, returned, hsome, Option.isNone_some, Bool.and_false,
        List.countP_cons, beq_iff_eq, decide_eq_true_eq, Bool.false_eq_true, if_false]
      omega

end Dispatch

namespace Metrics

/-- How many times were counted under each command. -/
def timed (m : Metrics) : Tally Command :=
  m.latencies.map fun entry => (entry.1, entry.2.count)

/-- The metrics account for the dispatches: every one is counted under its command, every one that
failed under its command and the kind of its failure, and every one whose seconds are a number in
the histogram of its command. -/
structure Accounts (m : Metrics) (xs : List Dispatch) : Prop where
  commands : m.commands.Counts (xs.map Dispatch.command)
  failures : m.failures.Counts (xs.filterMap Dispatch.failure?)
  timed : (∀ x ∈ xs, x.seconds.isNaN = false) → m.timed.Counts (xs.map Dispatch.command)
  sized : ∀ entry ∈ m.latencies, entry.2.Sized

theorem accounts_empty : ({} : Metrics).Accounts [] where
  commands := Tally.counts_nil
  failures := Tally.counts_nil
  timed _ := Tally.counts_nil
  sized _ hentry := by cases hentry

/-- The metrics after one more dispatch. -/
def dispatched (m : Metrics) (x : Dispatch) : Metrics :=
  match x.result with
  | .ok _ => (m.started x.command).observed x.command x.seconds
  | .error e => ((m.started x.command).failed x.command e.kind).observed x.command x.seconds

variable {m : Metrics} {xs : List Dispatch} {time : Float}

theorem observeIn_timed {l : List (Command × Histogram)} (c : Command)
    (hsized : ∀ entry ∈ l, entry.2.Sized) (hnumber : time.isNaN = false) :
    (observeIn c time l).map (fun entry => (entry.1, entry.2.count)) =
      Tally.bump c (l.map fun entry => (entry.1, entry.2.count)) := by
  induction l with
  | nil =>
    have hone : (Histogram.empty.observe time).count = 1 :=
      (Histogram.sized_empty.count_observe hnumber).trans (congrArg (· + 1) Histogram.count_empty)
    simp only [observeIn, List.map_cons, List.map_nil, Tally.bump, hone]
  | cons entry rest ih =>
    obtain ⟨hentry, hrest⟩ := List.forall_mem_cons.mp hsized
    by_cases hsame : entry.1 = c
    · simp only [observeIn, hsame, if_true, List.map_cons, Tally.bump,
        hentry.count_observe hnumber]
    · simp only [observeIn, hsame, if_false, List.map_cons, Tally.bump, ih hrest]

theorem observeIn_sized {l : List (Command × Histogram)} (c : Command) (time : Float)
    (hsized : ∀ entry ∈ l, entry.2.Sized) : ∀ entry ∈ observeIn c time l, entry.2.Sized := by
  induction l with
  | nil =>
    intro entry hentry
    rw [List.mem_singleton.mp hentry]
    exact Histogram.sized_empty.observe time
  | cons first rest ih =>
    obtain ⟨hfirst, hrest⟩ := List.forall_mem_cons.mp hsized
    unfold observeIn
    split
    · exact List.forall_mem_cons.mpr ⟨hfirst.observe time, hrest⟩
    · exact List.forall_mem_cons.mpr ⟨hfirst, ih hrest⟩

/-- **One more dispatch** is counted once wherever it belongs and nowhere else. -/
theorem Accounts.dispatched (haccounts : m.Accounts xs) (x : Dispatch) :
    (m.dispatched x).Accounts (xs ++ [x]) := by
  have hcommands : (m.dispatched x).commands = m.commands.bump x.command := by
    unfold Metrics.dispatched
    split <;> rfl
  have hlatencies : (m.dispatched x).latencies = observeIn x.command x.seconds m.latencies := by
    unfold Metrics.dispatched
    split <;> rfl
  constructor
  case commands =>
    rw [hcommands, List.map_append]
    exact haccounts.commands.bump x.command
  case failures =>
    rw [List.filterMap_append]
    unfold Metrics.dispatched
    split
    · rename_i answer hresult
      have hnone : [x].filterMap Dispatch.failure? = [] := by
        simp [Dispatch.failure?, hresult]
      rw [hnone, List.append_nil]
      exact haccounts.failures
    · rename_i e hresult
      have hsome : [x].filterMap Dispatch.failure? = [(x.command, e.kind)] := by
        simp [Dispatch.failure?, hresult]
      rw [hsome]
      exact haccounts.failures.bump (x.command, e.kind)
  case timed =>
    intro hnumbers
    obtain ⟨hbefore, hnow⟩ := List.forall_mem_append.mp hnumbers
    have htimed := haccounts.timed hbefore
    rw [Metrics.timed, hlatencies,
      observeIn_timed x.command haccounts.sized (hnow x List.mem_cons_self), List.map_append]
    exact htimed.bump x.command
  case sized =>
    rw [hlatencies]
    exact observeIn_sized x.command x.seconds haccounts.sized

theorem Accounts.foldl (haccounts : m.Accounts xs) (more : List Dispatch) :
    (more.foldl Metrics.dispatched m).Accounts (xs ++ more) := by
  induction more generalizing m xs with
  | nil =>
    rw [List.append_nil]
    exact haccounts
  | cons x more ih =>
    have hrest := ih (haccounts.dispatched x)
    rw [List.append_assoc] at hrest
    exact hrest

/-- What was counted and did not fail has returned. -/
theorem Accounts.returned (haccounts : m.Accounts xs) (cmd : Command) :
    m.commands.count cmd =
      ((m.failures.filter fun entry => decide (entry.1.1 = cmd)).map Prod.snd).sum +
        xs.countP fun x => decide (x.command = cmd) && x.returned := by
  rw [haccounts.commands.count, haccounts.failures.total fun label => decide (label.1 = cmd)]
  exact Dispatch.count_command xs cmd

end Metrics

namespace Control

variable {cmd : Command} {payload : Value} {c : Circumstance} {h : Host}

theorem carryOut_metrics : (carryOut cmd payload c h).2.device.metrics = h.device.metrics :=
  Op.Ignores.metrics_eq (fun _ => carryOut_ignores fun _ _ _ => rfl) c h

theorem recorded_metrics {m : Metrics} (hstarted : h.device.metrics = m.started cmd)
    (latency : Float) (r : Except Failure Value) :
    (recorded cmd latency r h).device.metrics = m.dispatched ⟨cmd, latency, r⟩ := by
  cases r with
  | ok answer => exact congrArg (·.observed cmd latency) hstarted
  | error e => exact congrArg (fun m => (m.failed cmd e.kind).observed cmd latency) hstarted

/-- Counting, failing and timing come at three points of a dispatch and to one change. -/
theorem counted_metrics : (counted cmd payload c h).2.device.metrics =
    h.device.metrics.dispatched ⟨cmd, c.latency, (counted cmd payload c h).1⟩ := by
  rw [counted_eq]
  apply recorded_metrics
  exact carryOut_metrics

end Control

/-! ## §5 Runs -/

/-- The command that an operation dispatches, where the device is not closed to it. -/
def Operation.dispatched? (op : Operation) (d : Device) : Option Command :=
  match op with
  | .control .. => if d.isClosed then none else op.command?
  | _ => op.command?

namespace Host

/-- What a step dispatches. -/
def dispatchesOf (h : Host) : Step → List Dispatch
  | .operate c op =>
    match op.dispatched? h.device with
    | some cmd => [⟨cmd, c.latency, (h.operate c op).1⟩]
    | none => []
  | _ => []

/-- What is dispatched in a run, in order. -/
def dispatches (h : Host) : List Step → List Dispatch
  | [] => []
  | step :: rest => h.dispatchesOf step ++ (h.step step).dispatches rest

end Host

section

variable {c : Circumstance} {h : Host} {op : Operation}

theorem Operation.metrics_of_none (hnone : op.command? = none) :
    (op.perform c h).2.device.metrics = h.device.metrics := by
  by_cases hexport : op = .metrics
  · subst hexport
    rfl
  · exact (unmetered hexport hnone).metrics_eq c h

theorem Control.dispatch_metrics {command payload : Value} {cmd : Command}
    (hname : (Command.ofValue command).toOption = some cmd) :
    (dispatch command payload c h).2.device.metrics =
      h.device.metrics.dispatched ⟨cmd, c.latency, (dispatch command payload c h).1⟩ := by
  unfold dispatch
  cases hvalue : Command.ofValue command with
  | error e =>
    rw [hvalue] at hname
    cases hname
  | ok found =>
    rw [hvalue] at hname
    cases hname
    exact counted_metrics

/-- **Every operation** changes the metrics by what it dispatches. -/
theorem Operation.perform_metrics (op : Operation) (c : Circumstance) (h : Host) :
    (op.perform c h).2.device.metrics =
      match op.dispatched? h.device with
      | some cmd => h.device.metrics.dispatched ⟨cmd, c.latency, (op.perform c h).1⟩
      | none => h.device.metrics := by
  cases hcommand : op.command? with
  | none =>
    have hnone : op.dispatched? h.device = none := by
      unfold dispatched?
      split
      · split
        · rfl
        · exact hcommand
      · exact hcommand
    rw [hnone, metrics_of_none hcommand]
  | some cmd =>
    cases op with
    | dispatch command payload =>
      simp only [dispatched?, hcommand]
      exact Control.dispatch_metrics hcommand
    | control command payload =>
      have hrun := Device.check_run c h
      cases hclosed : h.device.isClosed with
      | true =>
        -- a closed device refuses the command before it looks at it
        rw [hclosed, if_pos rfl] at hrun
        simp only [dispatched?, hclosed, if_true, perform, Device.control]
        rw [Op.bind_of_error (congrArg Prod.fst hrun), hrun]
      | false =>
        rw [hclosed, if_neg Bool.false_ne_true] at hrun
        simp only [dispatched?, hclosed, Bool.false_eq_true, if_false, hcommand, perform,
          Device.control]
        rw [Op.bind_of_ok (congrArg Prod.fst hrun), hrun]
        exact Control.dispatch_metrics hcommand
    | _ => cases hcommand

end

namespace Host

theorem settled_metrics (h : Host) (wake : Option Wake) :
    (h.settled wake).device.metrics = h.device.metrics := by
  have hsame : h.beside { metrics := fun _ => h.device.metrics } = h := rfl
  have hsettled := h.beside_settled { metrics := fun _ => h.device.metrics } wake
  rw [hsame] at hsettled
  rw [hsettled]
  rfl

/-- **One step** changes the metrics by what it dispatches. -/
theorem step_metrics (h : Host) (step : Step) : (h.step step).device.metrics =
    (h.dispatchesOf step).foldl Metrics.dispatched h.device.metrics := by
  cases step with
  | operate c op =>
    have hmetrics : (h.step (.operate c op)).device.metrics = (op.perform c h).2.device.metrics :=
      settled_metrics _ c.wake
    simp only [dispatchesOf]
    rw [hmetrics, op.perform_metrics c h]
    split <;> rfl
  | hold | letGo | interrupt | writeFile | makeDirectory =>
    refine h.step_view Device.metrics (fun _ _ _ => rfl) ?_
    rintro _ _ ⟨⟩

theorem run_metrics (h : Host) (steps : List Step) : (h.run steps).device.metrics =
    (h.dispatches steps).foldl Metrics.dispatched h.device.metrics := by
  induction steps generalizing h with
  | nil => rfl
  | cons step rest ih =>
    have hrest := ih (h.step step)
    rw [step_metrics] at hrest
    rw [dispatches, List.foldl_append]
    exact hrest

theorem start_metrics {keys : Value} {files : Files} {h : Host}
    (hstart : start keys files = .ok h) : h.device.metrics = {} := by
  obtain ⟨ring, hdevice⟩ := start_device hstart
  rw [hdevice]

/-- **The metrics of a device** account for every dispatch of its run: commands less failures are
what returned, and a step that dispatches nothing changes no sample. -/
theorem accounts_of_run {keys : Value} {files : Files} {h : Host}
    (hstart : start keys files = .ok h) (steps : List Step) :
    (h.run steps).device.metrics.Accounts (h.dispatches steps) ∧
      (∀ cmd, (h.run steps).device.metrics.commands.count cmd =
        (((h.run steps).device.metrics.failures.filter fun entry =>
            decide (entry.1.1 = cmd)).map Prod.snd).sum +
          (h.dispatches steps).countP fun x => decide (x.command = cmd) && x.returned) ∧
      ∀ step, (h.run steps).dispatchesOf step = [] →
        ((h.run steps).step step).device.metrics = (h.run steps).device.metrics := by
  have haccounts : (h.run steps).device.metrics.Accounts (h.dispatches steps) := by
    rw [run_metrics, start_metrics hstart]
    exact Metrics.accounts_empty.foldl (h.dispatches steps)
  refine ⟨haccounts, haccounts.returned, fun step hnone => ?_⟩
  rw [step_metrics, hnone]
  rfl

/-- A command that succeeds, the same with a sector that the disk does not have, an unknown one, and
one that a closed device refuses. -/
def errands : List Step :=
  [.operate {} (.dispatch (.command .lockSector) (.octets [1, 0, 0, 0])),
    .operate {} (.control (.int 1) (.octets [9, 0, 0, 0])),
    .operate {} (.dispatch (.int 0) .none),
    .operate {} .close,
    .operate {} (.control (.command .lockSector) (.octets [2, 0, 0, 0]))]

theorem errands_accounted : start .none Files.empty = .ok fresh ∧
    (fresh.dispatches errands).map Dispatch.command = [.lockSector, .lockSector] ∧
    (fresh.run errands).device.metrics.commands.count .lockSector = 2 ∧
    (fresh.run errands).device.metrics.failures.count (.lockSector, .invalidSector) = 1 ∧
    (fresh.run errands).device.metrics.timed.count .lockSector = 2 := by
  have hstart : start .none Files.empty = .ok fresh := rfl
  have hcommands : (fresh.dispatches errands).map Dispatch.command = [.lockSector, .lockSector] :=
    rfl
  have hfailures : (fresh.dispatches errands).filterMap Dispatch.failure? =
      [(.lockSector, .invalidSector)] := rfl
  have hnumbers : (fresh.dispatches errands).all (fun x => !x.seconds.isNaN) = true := rfl
  have hseconds : ∀ x ∈ fresh.dispatches errands, x.seconds.isNaN = false := fun x hx =>
    by simpa using List.all_eq_true.mp hnumbers x hx
  obtain ⟨haccounts, -, -⟩ := accounts_of_run hstart errands
  rw [haccounts.commands.count, haccounts.failures.count, (haccounts.timed hseconds).count,
    hcommands, hfailures]
  exact ⟨hstart, rfl, rfl, rfl, rfl⟩

end Host

end SectorDisk
