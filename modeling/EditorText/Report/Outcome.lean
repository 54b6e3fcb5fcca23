import EditorText.Report.Notice

/-!
# Outcomes

An engine answers or fails, and on the way it reports events: notices for the log and measurements
for the host's telemetry. An `Outcome` holds all three. Sequencing two outcomes appends their events
and stops at the first failure (`Outcome.events_bind_ok`, `Outcome.result_bind_ok` and their
counterparts for failures).
-/

set_option autoImplicit false

namespace EditorText

/-- The quantities that are measured. -/
inductive Measure where
  | alignDuration
  | alignPasses
  | alignErrors
  | alignLines
  | replaceDuration
  | replaceSteps
  | replaceErrors
  | parseDuration
  | parseRequests
  | parseErrors
  deriving DecidableEq, Repr

/-- The name under which telemetry collects a quantity. -/
def Measure.name : Measure → String
  | alignDuration => "align_duration"
  | alignPasses => "align_passes_total"
  | alignErrors => "align_errors_total"
  | alignLines => "align_lines"
  | replaceDuration => "replace_duration"
  | replaceSteps => "replace_steps_total"
  | replaceErrors => "replace_errors_total"
  | parseDuration => "snippet_parse_duration"
  | parseRequests => "snippet_parse_requests_total"
  | parseErrors => "snippet_parse_errors_total"

/-- A measurement. A count and a gauge carry their value, and a count may name the operation that it
belongs to; how long an activity took is left to the host's clock. -/
inductive Measurement where
  | count (what : Measure) (amount : Nat) (operation : Option Text)
  | gauge (what : Measure) (value : Nat)
  | latency (what : Measure)
  deriving DecidableEq, Repr

/-- What an engine reports while it works. -/
inductive Event where
  | notice (fact : Notice)
  | measurement (value : Measurement)

/-- The events of a run in order, and its answer or failure. -/
structure Outcome (ε α : Type) where
  events : List Event
  result : Except ε α

namespace Outcome

variable {ε α β : Type}

/-- An answer without events. -/
def ok (a : α) : Outcome ε α := ⟨[], .ok a⟩

/-- A failure without events. -/
def fail (e : ε) : Outcome ε α := ⟨[], .error e⟩

/-- Reports a notice. -/
def log (fact : Notice) : Outcome ε Unit := ⟨[.notice fact], .ok ()⟩

/-- Reports a measurement. -/
def measure (value : Measurement) : Outcome ε Unit := ⟨[.measurement value], .ok ()⟩

/-- Runs one outcome and, if it answers, the next one on its answer. -/
def bind (x : Outcome ε α) (f : α → Outcome ε β) : Outcome ε β :=
  match x.result with
  | .ok a => ⟨x.events ++ (f a).events, (f a).result⟩
  | .error e => ⟨x.events, .error e⟩

/-- Outcomes are sequenced by `bind`. -/
instance : Monad (Outcome ε) where
  pure := ok
  bind := bind

/-- A failure by another name. -/
def mapError {δ : Type} (f : ε → δ) (x : Outcome ε α) : Outcome δ α :=
  ⟨x.events, match x.result with
    | .ok a => .ok a
    | .error e => .error (f e)⟩

/-- An answer or failure without events. -/
def ofExcept (x : Except ε α) : Outcome ε α := ⟨[], x⟩

/-- The measurements of a run in order. -/
def measurements (x : Outcome ε α) : List Measurement :=
  x.events.filterMap fun
    | .measurement m => some m
    | .notice _ => none

/-- The notices of a run in order. -/
def notices (x : Outcome ε α) : List Notice :=
  x.events.filterMap fun
    | .notice n => some n
    | .measurement _ => none

theorem result_bind_ok {x : Outcome ε α} {f : α → Outcome ε β} {a : α} (h : x.result = .ok a) :
    (x.bind f).result = (f a).result := by
  simp [bind, h]

theorem events_bind_ok {x : Outcome ε α} {f : α → Outcome ε β} {a : α} (h : x.result = .ok a) :
    (x.bind f).events = x.events ++ (f a).events := by
  simp [bind, h]

theorem result_bind_error {x : Outcome ε α} {f : α → Outcome ε β} {e : ε}
    (h : x.result = .error e) : (x.bind f).result = .error e := by
  simp [bind, h]

theorem events_bind_error {x : Outcome ε α} {f : α → Outcome ε β} {e : ε}
    (h : x.result = .error e) : (x.bind f).events = x.events := by
  simp [bind, h]

end Outcome

end EditorText
