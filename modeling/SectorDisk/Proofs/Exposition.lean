import SectorDisk.Proofs.Control.Metrics

/-!
# The exposition of metrics

The exposition has one sample for each count: of a command, of a command and the kind of its
failure, and of the times of a command up to each bound, all of them, and their sum.
`Metrics.exposition` says so line by line, and `Metrics.lines_eq_exposition` that it is what a
device shows.  On a device that accounts for its dispatches the samples are those of what was
dispatched, and there are no others (`Metrics.Accounts.mem_samples_iff`).
-/

namespace SectorDisk

/-! ## §1 Samples -/

/-- A sample: what is counted, under which labels, and how much. -/
structure Sample where
  name : String
  labels : List (String × String)
  value : Float

namespace Sample

/-- The line of a sample. -/
def line (x : Sample) : String :=
  x.name ++ "\x7b" ++ ",".intercalate (x.labels.map fun label =>
    label.1 ++ "=\"" ++ label.2 ++ "\"") ++ "\x7d " ++ Decimal.sample x.value

/-- So many dispatches of a command. -/
def ofCommand (c : Command) (n : Nat) : Sample :=
  ⟨"sectorstore_control_commands_total", [("command", c.label)], n.toFloat⟩

/-- So many failures of a kind of a command. -/
def ofFailure (label : FailureLabel) (n : Nat) : Sample :=
  ⟨"sectorstore_control_failures_total",
    [("command", label.1.label), ("error", label.2.name)], n.toFloat⟩

/-- So many times of a command up to a bound. -/
def ofBound (c : Command) (bound : Float) (n : Nat) : Sample :=
  ⟨"sectorstore_control_latency_seconds_bucket",
    [("command", c.label), ("le", Decimal.sample bound)], n.toFloat⟩

/-- So many times of a command. -/
def ofTimes (c : Command) (n : Nat) : Sample :=
  ⟨"sectorstore_control_latency_seconds_count", [("command", c.label)], n.toFloat⟩

/-- The sum of all times of a command. -/
def ofSum (c : Command) (sum : Float) : Sample :=
  ⟨"sectorstore_control_latency_seconds_sum", [("command", c.label)], sum⟩

end Sample

namespace Histogram

/-- How many times fit each bound: those of its bucket and of all before it. -/
def upTo (g : Histogram) : List Nat :=
  (List.range g.buckets.length).map fun i => (g.buckets.take (i + 1)).sum

theorem cumulative_eq (soFar : Nat) (counts : List Nat) :
    cumulative soFar counts =
      (List.range counts.length).map fun i => soFar + (counts.take (i + 1)).sum := by
  induction counts generalizing soFar with
  | nil => rfl
  | cons n ns ih =>
    -- the first count goes into every sum
    have hshift (i : Nat) : soFar + n + (ns.take (i + 1)).sum =
        soFar + ((n :: ns).take (i + 1 + 1)).sum := by
      rw [List.take_succ_cons, List.sum_cons, Nat.add_assoc]
    rw [cumulative, ih, List.length_cons, List.range_succ_eq_map, List.map_cons, List.map_map]
    exact congrArg _ (List.map_congr_left fun i _ => hshift i)

theorem upTo_eq (g : Histogram) : cumulative 0 g.buckets = g.upTo := by
  rw [cumulative_eq, upTo]
  exact List.map_congr_left fun i _ => Nat.zero_add _

end Histogram

namespace Metrics

variable {m : Metrics} {xs : List Dispatch}

/-- The samples of the times of a command. -/
def timeSamples (entry : Command × Histogram) : List Sample :=
  ((latencyBounds.zip entry.2.upTo).map fun bucket => .ofBound entry.1 bucket.1 bucket.2) ++
    [.ofTimes entry.1 entry.2.count, .ofSum entry.1 entry.2.sum]

/-- All samples, in order. -/
def samples (m : Metrics) : List Sample :=
  m.commands.map (fun entry => .ofCommand entry.1 entry.2) ++
    m.failures.map (fun entry => .ofFailure entry.1 entry.2) ++ m.latencies.flatMap timeSamples

/-! ## §2 Lines -/

/-- The exposition: the samples of each metric, introduced by what it is and of which type. -/
def exposition (m : Metrics) : List String :=
  ["# HELP sectorstore_control_commands_total Total number of control commands dispatched",
    "# TYPE sectorstore_control_commands_total counter"] ++
  m.commands.map (fun entry => (Sample.ofCommand entry.1 entry.2).line) ++
  ["# HELP sectorstore_control_failures_total Total number of failed control commands",
    "# TYPE sectorstore_control_failures_total counter"] ++
  m.failures.map (fun entry => (Sample.ofFailure entry.1 entry.2).line) ++
  ["# HELP sectorstore_control_latency_seconds Control command latency",
    "# TYPE sectorstore_control_latency_seconds histogram"] ++
  (m.latencies.flatMap timeSamples).map Sample.line

theorem commandLine_eq (entry : Command × Nat) :
    commandLine entry = (Sample.ofCommand entry.1 entry.2).line := rfl

theorem failureLine_eq (entry : FailureLabel × Nat) :
    failureLine entry = (Sample.ofFailure entry.1 entry.2).line := rfl

theorem latencyLines_eq (entry : Command × Histogram) :
    latencyLines entry = (timeSamples entry).map Sample.line := by
  rw [latencyLines, timeSamples, Histogram.upTo_eq, List.map_append, List.map_map]
  rfl

/-- **What a device shows of its metrics** is their exposition. -/
theorem lines_eq_exposition (m : Metrics) : m.lines = m.exposition := by
  have hlatencies : m.latencies.flatMap latencyLines =
      (m.latencies.flatMap timeSamples).map Sample.line := by
    rw [List.map_flatMap]
    exact congrArg (List.flatMap · m.latencies) (funext latencyLines_eq)
  rw [lines, exposition, hlatencies]
  rfl

/-- The lines that show no sample. -/
def introductions : List String :=
  ["# HELP sectorstore_control_commands_total Total number of control commands dispatched",
    "# TYPE sectorstore_control_commands_total counter",
    "# HELP sectorstore_control_failures_total Total number of failed control commands",
    "# TYPE sectorstore_control_failures_total counter",
    "# HELP sectorstore_control_latency_seconds Control command latency",
    "# TYPE sectorstore_control_latency_seconds histogram"]

/-- Every line introduces a metric or shows a sample, and every sample is shown. -/
theorem mem_lines_iff {line : String} :
    line ∈ m.lines ↔ line ∈ introductions ∨ ∃ x ∈ m.samples, x.line = line := by
  have hsamples : (∃ x ∈ m.samples, x.line = line) ↔
      line ∈ m.commands.map (fun entry => (Sample.ofCommand entry.1 entry.2).line) ∨
      line ∈ m.failures.map (fun entry => (Sample.ofFailure entry.1 entry.2).line) ∨
      line ∈ (m.latencies.flatMap timeSamples).map Sample.line := by
    rw [← List.mem_map, samples, List.map_append, List.map_append, List.map_map, List.map_map,
      List.mem_append, List.mem_append, or_assoc]
    rfl
  rw [lines_eq_exposition, hsamples]
  simp only [exposition, introductions, List.mem_append, List.mem_cons, List.not_mem_nil, or_false]
  -- both sides list the same lines in other orders
  refine Iff.of_eq ?_
  ac_rfl

end Metrics

/-! ## §3 Samples and dispatches -/

namespace Tally

variable {κ : Type} [DecidableEq κ] {t : Tally κ} {labels : List κ} {label : κ} {n : Nat}

theorem mem_iff_of_nodup (hnodup : (t.map Prod.fst).Nodup) :
    (label, n) ∈ t ↔ label ∈ t.map Prod.fst ∧ n = t.count label := by
  induction t with
  | nil => exact iff_of_false List.not_mem_nil fun hboth => List.not_mem_nil hboth.1
  | cons entry rest ih =>
    obtain ⟨hnew, hrest⟩ := List.nodup_cons.mp hnodup
    rw [List.mem_cons, ih hrest, List.map_cons, List.mem_cons, count_cons]
    by_cases hsame : entry.1 = label
    · -- the label stands in front and nowhere else
      subst hsame
      simp only [hnew, false_and, or_false, if_true, true_and, or_false, Prod.ext_iff]
    · have hother : ¬ label = entry.1 := fun h => hsame h.symm
      simp only [Prod.ext_iff, hother, false_and, false_or, if_neg hsame]

end Tally

/-- **The samples of a device** that accounts for its dispatches: for each command that was
dispatched its count, for each kind of failure of a command its count, and those of the times of the
commands. -/
theorem Metrics.Accounts.mem_samples_iff {m : Metrics} {xs : List Dispatch} {x : Sample}
    (haccounts : m.Accounts xs) :
    x ∈ m.samples ↔
      (∃ c ∈ xs.map Dispatch.command, x = .ofCommand c (m.commands.count c)) ∨
      (∃ label ∈ xs.filterMap Dispatch.failure?, x = .ofFailure label (m.failures.count label)) ∨
      ∃ entry ∈ m.latencies, x ∈ timeSamples entry := by
  -- an entry is a label that was counted with its count
  have hentries {κ : Type} [DecidableEq κ] {t : Tally κ} {labels : List κ} (f : κ → Nat → Sample)
      (hcounts : t.Counts labels) :
      x ∈ t.map (fun entry => f entry.1 entry.2) ↔
        ∃ label ∈ labels, x = f label (t.count label) := by
    rw [List.mem_map]
    constructor
    · rintro ⟨⟨label, n⟩, hentry, rfl⟩
      obtain ⟨hlabel, rfl⟩ := (Tally.mem_iff_of_nodup hcounts.nodup).mp hentry
      exact ⟨label, (hcounts.appears label).mp hlabel, rfl⟩
    · rintro ⟨label, hlabel, rfl⟩
      have hentry := (Tally.mem_iff_of_nodup hcounts.nodup).mpr
        ⟨(hcounts.appears label).mpr hlabel, rfl⟩
      exact ⟨(label, t.count label), hentry, rfl⟩
  rw [samples, List.mem_append, List.mem_append, hentries Sample.ofCommand haccounts.commands,
    hentries Sample.ofFailure haccounts.failures, List.mem_flatMap, or_assoc]

end SectorDisk
