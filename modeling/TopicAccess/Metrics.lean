import TopicAccess.Metrics.Number

/-!
# Metrics of a service

Counters, gauges and histograms, each for the labels that have been used. What is exported is a list
of samples; a sample of a counter is there from the first time it is counted on.
-/
namespace TopicAccess

/-- How often each label has been counted, in the order of first use. -/
abbrev Tally (Label : Type) := List (Label × Nat)

namespace Tally

variable {Label : Type} [DecidableEq Label]

def bump (tally : Tally Label) (label : Label) : Tally Label :=
  match tally with
  | [] => [(label, 1)]
  | (other, n) :: rest =>
    if other = label then (other, n + 1) :: rest else (other, n) :: bump rest label

def count (tally : Tally Label) (label : Label) : Nat :=
  (tally.lookup label).getD 0

end Tally

/-- How many observed values do not exceed each bound, and their sum. -/
structure Histogram where
  buckets : List (Float × Nat)
  total : Float

namespace Histogram

/-- The bounds that durations in seconds are sorted by. The last one holds them all. -/
def bounds : List Float := [
  0.005, 0.01, 0.025, 0.05, 0.075, 0.1, 0.25, 0.5, 0.75, 1.0, 2.5, 5.0, 7.5, 10.0, 1.0 / 0.0]

def empty : Histogram := ⟨bounds.map fun bound => (bound, 0), 0.0⟩

def observe (histogram : Histogram) (value : Float) : Histogram :=
  { buckets := histogram.buckets.map fun bucket =>
      (bucket.1, if value ≤ bucket.1 then bucket.2 + 1 else bucket.2)
    total := histogram.total + value }

def count (histogram : Histogram) : Nat :=
  (histogram.buckets.getLast?.map (·.2)).getD 0

end Histogram

/-- The labels of an HTTP request. -/
structure RequestLabels where
  endpoint : String
  method : String
  statusCode : String
deriving DecidableEq, Repr

/-- All that is measured of a service. -/
structure Metrics where
  service : String
  requests : Tally RequestLabels := []
  durations : List ((String × String) × Histogram) := []
  healthChecks : Tally String := []
  errors : Tally (String × String) := []
  checks : Tally (String × Bool) := []
  rulesLoaded : Option (Int × Int) := none
  parseErrors : Nat := 0

/-- The value of a sample: how often something was counted, the level of a gauge, or a measured
amount. -/
inductive SampleValue where
  | count (n : Nat)
  | level (n : Int)
  | amount (value : Float)

/-- One measured value with its name and its labels, these in the order of their names. -/
structure Sample where
  name : String
  labels : List (String × String)
  value : SampleValue

namespace Metrics

def version : String := "1.0.0"

def observeDuration (key : String × String) (duration : Float) :
    List ((String × String) × Histogram) → List ((String × String) × Histogram)
  | [] => [(key, Histogram.empty.observe duration)]
  | (other, histogram) :: rest =>
    if other = key then (other, histogram.observe duration) :: rest
    else (other, histogram) :: observeDuration key duration rest

def recordRequest (metrics : Metrics) (labels : RequestLabels) (duration : Float) : Metrics :=
  { metrics with
    requests := metrics.requests.bump labels
    durations := observeDuration (labels.endpoint, labels.method) duration metrics.durations }

def recordHealthCheck (metrics : Metrics) (status : String) : Metrics :=
  { metrics with healthChecks := metrics.healthChecks.bump status }

/-- Record an error. It counts for the service itself unless another one is named. -/
def recordError (metrics : Metrics) (kind : String) (service : String := "") : Metrics :=
  { metrics with
    errors := metrics.errors.bump (kind, if service = "" then metrics.service else service) }

def recordCheck (metrics : Metrics) (operation : String) (allowed : Bool) : Metrics :=
  { metrics with checks := metrics.checks.bump (operation, allowed) }

/-- The integers that a gauge can show: those nearest to a finite double. -/
def isShowable (n : Int) : Bool :=
  n.natAbs < Nat.pow 2 1024 - Nat.pow 2 970

/-- What is said of an integer that a gauge cannot show. -/
def notShowableMessage : String := "int too large to convert to float"

def recordRulesLoaded (metrics : Metrics) (anonymous users : Int) : Metrics :=
  { metrics with rulesLoaded := some (anonymous, users) }

def recordParseError (metrics : Metrics) : Metrics :=
  { metrics with parseErrors := metrics.parseErrors + 1 }

def decisionLabel (allowed : Bool) : String :=
  if allowed then "allow" else "deny"

def histogramSamples (endpoint method : String) (histogram : Histogram) : List Sample :=
  let labels := [("endpoint", endpoint), ("method", method)]
  histogram.buckets.map (fun bucket =>
    { name := "http_request_duration_seconds_bucket"
      labels := [("endpoint", endpoint), ("le", Number.text bucket.1), ("method", method)]
      value := .count bucket.2 }) ++
  [{ name := "http_request_duration_seconds_count", labels, value := .count histogram.count },
    { name := "http_request_duration_seconds_sum", labels, value := .amount histogram.total }]

def rulesLoadedSamples : Option (Int × Int) → List Sample
  | none => []
  | some (anonymous, users) => [
    { name := "acl_rules_loaded", labels := [("scope", "global")], value := .level anonymous },
    { name := "acl_rules_loaded", labels := [("scope", "user")], value := .level users }]

def samples (metrics : Metrics) : List Sample :=
  [{ name := "service_info_info"
     labels := [("service", metrics.service), ("version", version)]
     value := .count 1 }] ++
  metrics.requests.map (fun (labels, n) =>
    { name := "http_requests_total"
      labels := [("endpoint", labels.endpoint), ("method", labels.method),
        ("status_code", labels.statusCode)]
      value := .count n }) ++
  metrics.durations.flatMap (fun ((endpoint, method), histogram) =>
    histogramSamples endpoint method histogram) ++
  metrics.healthChecks.map (fun (status, n) =>
    { name := "health_check_total", labels := [("status", status)], value := .count n }) ++
  metrics.errors.map (fun ((kind, service), n) =>
    { name := "errors_total", labels := [("error_type", kind), ("service", service)]
      value := .count n }) ++
  metrics.checks.map (fun ((operation, allowed), n) =>
    { name := "acl_checks_total"
      labels := [("decision", decisionLabel allowed), ("operation", operation)]
      value := .count n }) ++
  rulesLoadedSamples metrics.rulesLoaded ++
  [{ name := "acl_parse_errors_total", labels := [], value := .count metrics.parseErrors }]

end Metrics

end TopicAccess
