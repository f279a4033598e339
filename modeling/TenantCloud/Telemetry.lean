import TenantCloud.Data.Binary
import TenantCloud.Effect.Call

/-!
# Instruments

A `Telemetry` sums up measurements in instruments: counters, a histogram of durations, and a gauge
that holds the last value. Each instrument has one point per set of attributes, up to `maxSets` of
them; what else is measured goes to one point more. Durations are binary numbers of seconds.
`record` adds a measurement, and `report` lists the instruments that have points.
-/

set_option autoImplicit false

namespace TenantCloud

/-- What tells the points of an instrument apart. -/
abbrev Attributes := Dict String String

/-- One value per set of attributes, in the order in which they came. -/
abbrev Points (ν : Type) := List (Attributes × ν)

namespace Points

variable {ν : Type}

/-- How many sets of attributes an instrument tells apart. -/
def maxSets : Nat := 2000

/-- The attributes of what is measured beyond that. -/
def overflow : Attributes := .single "otel.metric.overflow" "true"

/-- Change the value at some attributes; `f` gets none where there is no value yet. -/
def update (a : Attributes) (f : Option ν → ν) : Points ν → Points ν
  | [] => [(a, f none)]
  | (b, v) :: rest => if a = b then (b, f (some v)) :: rest else (b, v) :: update a f rest

/-- There is a value at some attributes. -/
def has (a : Attributes) (p : Points ν) : Bool := p.any (·.1 = a)

/-- The attributes at which a measurement is kept. -/
def slot (a : Attributes) (p : Points ν) : Attributes :=
  if has a p || p.length < maxSets then a else overflow

/-- Add a measurement. -/
def add (a : Attributes) (f : Option ν → ν) (p : Points ν) : Points ν := update (slot a p) f p

/-- Count one more. -/
def count (a : Attributes) (p : Points Nat) : Points Nat := add a (fun n => n.getD 0 + 1) p

end Points

/-- How many durations were recorded, and their sum in seconds. -/
structure Durations where
  count : Nat := 0
  total : Rat := 0
  deriving DecidableEq

namespace Durations

/-- The binary number of some nanoseconds in seconds: whole seconds and the rest of them are rounded
each, and so is their sum. -/
def seconds (nanos : Nat) : Rat :=
  let whole := Binary.nearest (nanos / Nat.pow 10 9 : Nat)
  let rest := Binary.nearest (mkRat (nanos % Nat.pow 10 9) (Nat.pow 10 9))
  Binary.nearest (whole + rest)

/-- One more duration. -/
def add (d : Durations) (nanos : Nat) : Durations :=
  ⟨d.count + 1, Binary.nearest (d.total + seconds nanos)⟩

/-- The most milliseconds that are told. -/
def maxMillis : Nat := Nat.pow 2 64 - 1

/-- The sum in milliseconds; a half goes up. -/
def millis (d : Durations) : Nat :=
  min (Binary.nearest (d.total * 1000) + 1 / 2).floor.toNat maxMillis

end Durations

/-- Sums of measurements. -/
structure Telemetry where
  statusUpdates : Points Nat := []
  statusDurations : Points Durations := []
  reconcileErrors : Points Nat := []
  skippedUpdates : Points Nat := []
  recordsCreated : Points Nat := []
  health : Points Bool := []
  deriving DecidableEq

/-- The value of a point. -/
inductive Reading
  | sum (n : Nat)
  | histogram (d : Durations)
  | gauge (n : Nat)
  deriving DecidableEq

/-- An instrument with its points. -/
structure Instrument where
  name : String
  description : String
  unit : String
  points : Points Reading
  deriving DecidableEq

namespace Telemetry

/-- Two attributes. -/
def tags (k v l w : String) : Attributes := .ofList [(k, v), (l, w)]

/-- Add a measurement. -/
def record (t : Telemetry) : Measurement → Telemetry
  | .statusUpdate controller outcome elapsed =>
    let a := tags "controller" controller "outcome" outcome.word
    { t with
      statusUpdates := t.statusUpdates.count a
      statusDurations := t.statusDurations.add a fun d => (d.getD {}).add elapsed }
  | .reconcileError controller category =>
    let a := tags "controller" controller "category" category
    { t with reconcileErrors := t.reconcileErrors.count a }
  | .skippedUpdate controller reason =>
    let a := tags "controller" controller "reason" reason
    { t with skippedUpdates := t.skippedUpdates.count a }
  | .recordCreated kind outcome =>
    { t with recordsCreated := t.recordsCreated.count (tags "kind" kind "outcome" outcome.word) }
  | .controllerHealth controller healthy =>
    { t with health := t.health.add (.single "controller" controller) fun _ => healthy }

/-- Every instrument, also those without points. -/
def instruments (t : Telemetry) : List Instrument :=
  let sums (p : Points Nat) : Points Reading := p.map fun e => (e.1, .sum e.2)
  [⟨"ssvirt_status_updates_total", "Status writes by controller and outcome", "\x7bupdates\x7d",
      sums t.statusUpdates⟩,
    ⟨"ssvirt_status_update_duration_seconds", "Latency of status writes in seconds", "s",
      t.statusDurations.map fun e => (e.1, .histogram e.2)⟩,
    ⟨"ssvirt_reconcile_errors_total", "Failed reconcile passes by controller and error category",
      "\x7berrors\x7d", sums t.reconcileErrors⟩,
    ⟨"ssvirt_skipped_updates_total", "Reconcile passes that wrote nothing, by reason",
      "\x7bskips\x7d", sums t.skippedUpdates⟩,
    ⟨"ssvirt_records_created_total", "Database records created from cluster objects",
      "\x7brecords\x7d", sums t.recordsCreated⟩,
    ⟨"ssvirt_controller_healthy", "1 while the controller loop is running", "",
      t.health.map fun e => (e.1, .gauge e.2.toNat)⟩]

/-- The instruments that have points. -/
def report (t : Telemetry) : List Instrument := t.instruments.filter (!·.points.isEmpty)

end Telemetry

end TenantCloud
