/-! # Metrics

A program counts what happens under names with labels. Counters count occurrences, and
histograms count their observations. The registry is the list of everything that was counted,
so each figure is a number of occurrences in it.
-/

namespace Rulebook

inductive MetricKind
  | counter
  | histogram
deriving DecidableEq

/-- One increment of a counter or one observation of a histogram. -/
structure Sample where
  kind : MetricKind
  name : String
  labels : List (String × String)
deriving DecidableEq

namespace Sample

def ofRequest (method path : String) (status : Nat) : List Sample :=
  let labels := [("method", method), ("path", path), ("status", toString status)]
  [⟨.counter, "http_requests_total", labels⟩, ⟨.histogram, "http_request_duration_seconds", labels⟩]

def ofCompilation (operation status : String) : List Sample :=
  [⟨.counter, "rule_compilations_total", [("operation", operation), ("status", status)]⟩]

def ofEvaluation (status : String) : List Sample :=
  [⟨.counter, "rule_evaluations_total", [("status", status)]⟩,
    ⟨.histogram, "rule_evaluation_duration_seconds", []⟩]

def ofStart (service : String) : List Sample :=
  [⟨.counter, "service_starts_total", [("service", service)]⟩]

/-- The name of the figure; a histogram shows the number of its observations. -/
def figure (s : Sample) : String :=
  match s.kind with
  | .counter => s.name
  | .histogram => s.name ++ "_count"

/-- The text of a label's value, given whether a backslash waits for what it may escape. -/
def escapeLabel (pending : Bool) : List Char → List Char
  | [] => waiting pending
  | c :: cs =>
    if c = '\n' then '\\' :: 'n' :: escapeLabel pending cs
    else if c = '"' then '\\' :: '"' :: escapeLabel false cs
    -- Only a backslash that escapes a backslash or a quote stays as it is.
    else if c = '\\' then waiting pending ++ escapeLabel (!pending) cs
    else waiting pending ++ c :: escapeLabel false cs
where
  waiting (pending : Bool) : List Char := if pending then ['\\', '\\'] else []

def series (s : Sample) : String :=
  if s.labels.isEmpty then s.figure
  else s.figure ++ "\x7b" ++ ",".intercalate (s.labels.map fun (name, value) =>
    name ++ "=\"" ++ String.ofList (escapeLabel false value.toList) ++ "\"") ++ "\x7d"

end Sample

namespace Metrics

def sort (texts : List String) : List String := texts.mergeSort (fun a b => decide (a ≤ b))

/-- One line for each series with the number of its samples, sorted. -/
def lines (samples : List Sample) : List String :=
  sort (samples.eraseDups.map fun s => s.series ++ " " ++ toString (samples.count s))

def descriptions : List (String × String) :=
  [("http_requests_total", "Total number of HTTP requests"),
    ("http_request_duration_seconds", "HTTP request duration in seconds"),
    ("rule_compilations_total", "Total number of rule compilations and combinations"),
    ("rule_evaluations_total", "Total number of rule evaluations"),
    ("rule_evaluation_duration_seconds", "Rule evaluation duration in seconds")]

def MetricKind.typeName : MetricKind → String
  | .counter => "counter"
  | .histogram => "summary"

/-- The figures with description and type of each metric, sorted, without the observed durations. -/
def exposition (samples : List Sample) : List String :=
  let metrics := (samples.map fun s => (s.name, s.kind)).eraseDups
  let types := metrics.map fun (name, kind) => "# TYPE " ++ name ++ " " ++ MetricKind.typeName kind
  let helps := metrics.filterMap fun (name, _) =>
    (descriptions.lookup name).map fun text => "# HELP " ++ name ++ " " ++ text
  sort (lines samples ++ types ++ helps)

end Metrics

end Rulebook
