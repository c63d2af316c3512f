import BlockStorage.Fault

/-!
# Metrics

The metrics of the library and what is counted in them. A `Metric` is a family
of series told apart by labels; a `Sample` is one change to one series; a
`Meter` holds the series that were used so far, in the order of their first use.

* `Metric.family`: name, help text, labels and kind of a metric.
* `Meter.record`: applies a sample.
* `Meter.use`: the same for samples that may be wrong, with named labels.
* `Meter.readings`: every value of every series.
-/

namespace BlockStorage

inductive Metric
  | pollResults | pollRefreshes | pollDuration | lifecycleOperations | gatewayCallDuration
  | gatewayErrors | breakerState | breakerCalls | breakerRejections
  deriving DecidableEq, Repr

inductive MetricKind
  | counter
  | gauge
  /-- Upper bounds of the buckets, in ascending order. -/
  | histogram (bounds : List Float)

structure Family where
  name : String
  help : String
  labels : List String
  kind : MetricKind

namespace Metric

/-- All metrics in the order in which they are shown. -/
def all : List Metric :=
  [pollResults, pollRefreshes, pollDuration, lifecycleOperations, gatewayCallDuration,
    gatewayErrors, breakerState, breakerCalls, breakerRejections]

/-- Waits: one second to the default budget's hundred minutes. -/
def pollBounds : List Float :=
  [1.0, 2.5, 5.0, 10.0, 20.0, 45.0, 90.0, 180.0, 400.0, 900.0, 2000.0, 6000.0]

/-- Single calls: five milliseconds to a minute. -/
def callBounds : List Float :=
  [0.005, 0.01, 0.02, 0.04, 0.09, 0.18, 0.36, 0.73, 1.5, 3.0, 6.2, 12.7, 26.0, 53.0]

def family : Metric → Family
  | pollResults =>
    ⟨"blockhub_poll_results_total", "Condition poll outcomes", ["condition", "result"], .counter⟩
  | pollRefreshes =>
    ⟨"blockhub_poll_refreshes_total", "Remote re-fetches issued while polling", ["condition"],
      .counter⟩
  | pollDuration =>
    ⟨"blockhub_poll_duration_seconds", "Time spent waiting for a remote condition", ["condition"],
      .histogram pollBounds⟩
  | lifecycleOperations =>
    ⟨"blockhub_lifecycle_operations_total", "Lifecycle operations by outcome",
      ["backend", "operation", "result"], .counter⟩
  | gatewayCallDuration =>
    ⟨"blockhub_gateway_call_duration_seconds", "Remote gateway call latency", ["provider", "call"],
      .histogram callBounds⟩
  | gatewayErrors =>
    ⟨"blockhub_gateway_errors_total", "Remote gateway errors by class",
      ["provider", "call", "error_class"], .counter⟩
  | breakerState =>
    ⟨"blockhub_circuit_breaker_state", "Circuit breaker state (0=closed, 1=half_open, 2=open)",
      ["circuit"], .gauge⟩
  | breakerCalls =>
    ⟨"blockhub_circuit_breaker_calls_total", "Calls through the circuit breaker",
      ["circuit", "result"], .counter⟩
  | breakerRejections =>
    ⟨"blockhub_circuit_breaker_rejections_total", "Calls rejected while the circuit was open",
      ["circuit"], .counter⟩

/-- The name by which users of the metrics address one. -/
def handle : Metric → String
  | pollResults => "POLL_RESULTS_TOTAL"
  | pollRefreshes => "POLL_REFRESHES_TOTAL"
  | pollDuration => "POLL_DURATION"
  | lifecycleOperations => "LIFECYCLE_OPERATIONS_TOTAL"
  | gatewayCallDuration => "GATEWAY_CALL_DURATION"
  | gatewayErrors => "GATEWAY_ERRORS_TOTAL"
  | breakerState => "CIRCUIT_BREAKER_STATE"
  | breakerCalls => "CIRCUIT_BREAKER_CALLS_TOTAL"
  | breakerRejections => "CIRCUIT_BREAKER_REJECTIONS_TOTAL"

/-- The metric addressed by a name. -/
def ofHandle? (s : String) : Option Metric := all.find? (·.handle == s)

end Metric

/-! ## Samples -/

inductive Change
  | add (amount : Float)
  | set (value : Float)
  | observe (value : Float)

/-- One change to the series of a metric with these label values. -/
structure Sample where
  metric : Metric
  labels : List String
  change : Change

/-! ## Meters -/

/-- What a series has come to. -/
inductive Reading
  | value (x : Float)
  /-- How many observations fell into each bucket, the last one unbounded, and their sum. -/
  | buckets (counts : List Nat) (sum : Float)

structure Series where
  metric : Metric
  labels : List String
  reading : Reading

abbrev Meter := List Series

namespace Reading

/-- The reading of a series that has just come into use. -/
def fresh (m : Metric) : Reading :=
  match m.family.kind with
  | .histogram bounds => buckets (List.replicate (bounds.length + 1) 0) 0.0
  | _ => value 0.0

/-- Counts an observation in the first bucket whose bound it does not exceed. -/
def count (x : Float) : List Float → List Nat → List Nat
  | b :: bs, n :: ns => if x ≤ b then (n + 1) :: ns else n :: count x bs ns
  | [], n :: ns => (n + 1) :: ns
  | _, [] => []

def apply (m : Metric) : Change → Reading → Reading
  | .add d, value x => value (x + d)
  | .set y, value _ => value y
  | .observe x, buckets counts sum =>
    match m.family.kind with
    | .histogram bounds => buckets (count x bounds counts) (sum + x)
    | _ => buckets counts sum
  | _, r => r

end Reading

namespace Meter

/-- Changes the series of a metric and its labels, which comes into use if it is new. -/
def update (m : Metric) (labels : List String) (f : Reading → Reading) : Meter → Meter
  | [] => [⟨m, labels, f (.fresh m)⟩]
  | s :: rest =>
    if s.metric = m ∧ s.labels = labels then { s with reading := f s.reading } :: rest
    else s :: update m labels f rest

def record (meter : Meter) (s : Sample) : Meter :=
  meter.update s.metric s.labels (Reading.apply s.metric s.change)

/-- The meter after a list of samples. -/
def ofSamples (ss : List Sample) : Meter := ss.foldl record []

/-- The verbs that change a series. -/
def change? (kind : MetricKind) (verb : String) (amount : Option Float) : Except Fault Change :=
  let lacks (name : String) : Except Fault Change := .error (.misuse (.noField name verb))
  match kind with
  | .counter =>
    if verb = "inc" then
      let d := amount.getD 1.0
      if d < 0.0 then .error (.misuse .negativeCount) else .ok (.add d)
    else lacks "Counter"
  | .gauge =>
    if verb = "inc" then .ok (.add (amount.getD 1.0))
    else if verb = "dec" then .ok (.add (-amount.getD 1.0))
    else if verb = "set" then .ok (.set (amount.getD 0.0))
    else lacks "Gauge"
  | .histogram _ =>
    if verb = "observe" then .ok (.observe (amount.getD 0.0)) else lacks "Histogram"

/-- Changes the series named by its labels. All labels have to be named and no other; the series
comes into use even if the change is refused. -/
def use (meter : Meter) (m : Metric) (labels : List (String × String)) (verb : String)
    (amount : Option Float) : Except Fault Unit × Meter :=
  let names := m.family.labels
  let values := names.filterMap fun n => labels.lookup n
  if values.length ≠ names.length ∨ labels.length ≠ names.length then
    let what := if labels.isEmpty then "count" else "names"
    (.error (.misuse (.metric s!"Incorrect label {what}")), meter)
  else
    match change? m.family.kind verb amount with
    | .ok c => (.ok (), meter.update m values (Reading.apply m c))
    | .error f => (.error f, meter.update m values id)

/-- The total of bucket counts. -/
def total (counts : List Nat) : Float := Float.ofNat (counts.foldl (· + ·) 0)

/-- Every value of every series: its name, its label values, and the value. A histogram shows its
count and its sum. -/
def readings (meter : Meter) : List (String × List String × Float) :=
  meter.flatMap fun s =>
    let name := s.metric.family.name
    match s.reading with
    | .value x => [(name, s.labels, x)]
    | .buckets counts sum =>
      [(name ++ "_count", s.labels, total counts), (name ++ "_sum", s.labels, sum)]

end Meter

end BlockStorage
