import SectorDisk.Command
import SectorDisk.Decimal.Text
import SectorDisk.Report

/-!
# Metrics

Counts of control commands, of their failures, and of the time they took.  A label appears when it
is first counted, and labels keep that order.  `Metrics.lines` is the text exposition.
-/

namespace SectorDisk

/-! ## §1 Tallies -/

/-- Counts by label, in the order in which the labels were first counted. -/
abbrev Tally (κ : Type) := List (κ × Nat)

namespace Tally

variable {κ : Type} [DecidableEq κ]

/-- The count of a label. -/
def count (t : Tally κ) (label : κ) : Nat :=
  (t.lookup label).getD 0

/-- The tally with one more of a label. -/
def bump (label : κ) : Tally κ → Tally κ
  | [] => [(label, 1)]
  | entry :: rest =>
    if entry.1 = label then (label, entry.2 + 1) :: rest else entry :: bump label rest

end Tally

/-! ## §2 Histograms -/

/-- The upper bounds of the buckets. -/
def latencyBounds : List Float :=
  [0.005, 0.01, 0.025, 0.05, 0.075, 0.1, 0.25, 0.5, 0.75, 1.0, 2.5, 5.0, 7.5, 10.0,
    1.0 / 0.0]

/-- Times, counted by bucket and summed up. -/
structure Histogram where
  /-- The counts of the buckets: of each time, in the first bucket that it fits. -/
  buckets : List Nat
  /-- The sum of all times. -/
  sum : Float

namespace Histogram

/-- No times. -/
def empty : Histogram :=
  ⟨latencyBounds.map fun _ => 0, 0.0⟩

/-- Counts a time in the first bucket that it fits. -/
def place (time : Float) : List Float → List Nat → List Nat
  | bound :: bounds, n :: ns => if time ≤ bound then (n + 1) :: ns else n :: place time bounds ns
  | _, ns => ns

/-- The histogram with one more time. -/
def observe (h : Histogram) (time : Float) : Histogram :=
  ⟨place time latencyBounds h.buckets, h.sum + time⟩

/-- How many times were counted. -/
def count (h : Histogram) : Nat :=
  h.buckets.foldl Nat.add 0

/-- The counts of all times up to each bound. -/
def cumulative (soFar : Nat) : List Nat → List Nat
  | [] => []
  | n :: ns => (soFar + n) :: cumulative (soFar + n) ns

end Histogram

/-! ## §3 Metrics of control commands -/

/-- A failed command and the kind of its failure. -/
abbrev FailureLabel := Command × Kind

/-- What is counted about control commands. -/
structure Metrics where
  /-- Commands. -/
  commands : Tally Command := []
  /-- Failed commands. -/
  failures : Tally FailureLabel := []
  /-- Times, by command. -/
  latencies : List (Command × Histogram) := []

namespace Metrics

/-- Counts a time under a command. -/
def observeIn (c : Command) (time : Float) :
    List (Command × Histogram) → List (Command × Histogram)
  | [] => [(c, Histogram.empty.observe time)]
  | entry :: rest =>
    if entry.1 = c then (c, entry.2.observe time) :: rest else entry :: observeIn c time rest

/-- One more command. -/
def started (m : Metrics) (c : Command) : Metrics :=
  { m with commands := m.commands.bump c }

/-- One more failure. -/
def failed (m : Metrics) (c : Command) (kind : Kind) : Metrics :=
  { m with failures := m.failures.bump (c, kind) }

/-- One more time. -/
def observed (m : Metrics) (c : Command) (time : Float) : Metrics :=
  { m with latencies := observeIn c time m.latencies }

/-! ## §4 Exposition -/

/-- A label with its value between quotes. -/
def labelText (name value : String) : String :=
  name ++ "=\"" ++ value ++ "\""

/-- A sample line. -/
def sampleLine (metric : String) (labels : List String) (value : Float) : String :=
  metric ++ "\x7b" ++ ",".intercalate labels ++ "\x7d " ++ Decimal.sample value

/-- The lines that introduce a metric. -/
def header (metric help type : String) : List String :=
  ["# HELP " ++ metric ++ " " ++ help, "# TYPE " ++ metric ++ " " ++ type]

/-- The metric of commands. -/
def commandsMetric : String := "sectorstore_control_commands_total"

/-- The metric of failures. -/
def failuresMetric : String := "sectorstore_control_failures_total"

/-- The metric of times. -/
def latencyMetric : String := "sectorstore_control_latency_seconds"

/-- The label that names a command. -/
def commandLabel (c : Command) : String :=
  labelText "command" c.label

/-- The sample of a count of commands. -/
def commandLine (entry : Command × Nat) : String :=
  sampleLine commandsMetric [commandLabel entry.1] entry.2.toFloat

/-- The sample of a count of failures. -/
def failureLine (entry : FailureLabel × Nat) : String :=
  sampleLine failuresMetric [commandLabel entry.1.1, labelText "error" entry.1.2.name]
    entry.2.toFloat

/-- The samples of the times of a command: every bucket, the count and the sum. -/
def latencyLines (entry : Command × Histogram) : List String :=
  let (c, h) := entry
  let buckets := (latencyBounds.zip (Histogram.cumulative 0 h.buckets)).map fun bucket =>
    sampleLine (latencyMetric ++ "_bucket")
      [commandLabel c, labelText "le" (Decimal.sample bucket.1)] bucket.2.toFloat
  buckets ++
    [sampleLine (latencyMetric ++ "_count") [commandLabel c] h.count.toFloat,
      sampleLine (latencyMetric ++ "_sum") [commandLabel c] h.sum]

/-- The lines of the exposition. -/
def lines (m : Metrics) : List String :=
  header commandsMetric "Total number of control commands dispatched" "counter"
    ++ m.commands.map commandLine
    ++ header failuresMetric "Total number of failed control commands" "counter"
    ++ m.failures.map failureLine
    ++ header latencyMetric "Control command latency" "histogram"
    ++ m.latencies.flatMap latencyLines

end Metrics

end SectorDisk
