import TenantCloud.WorkQueue.Loop

/-!
# Planned work

A `Plan` says for each key how long its passes take and how they end; `Plan.run` works off a queue
with it, from given triggers until the loop returns after a cancellation.
-/

set_option autoImplicit false

namespace TenantCloud

/-- A pass that takes a while and ends in a given way. -/
structure PlannedPass where
  duration : Nat := 0
  result : Result Unit := .ok ()

/-- The passes of each key; the last one repeats. -/
abbrev Plan (κ : Type) := List (κ × List PlannedPass)

/-- What happened. -/
inductive WorkEntry (κ : Type)
  | started (key : κ)
  | ended (key : κ) (succeeded : Bool)
  | metric (m : Measurement)

/-- The keys of the passes that were started, and what happened, both latest first. -/
structure WorkRecord (κ : Type) where
  starts : List κ := []
  log : List (Nat × WorkEntry κ) := []

namespace Plan

variable {κ : Type} [DecidableEq κ]

/-- The n-th pass of a key. A key without passes succeeds at once. -/
def pass (p : Plan κ) (k : κ) (n : Nat) : PlannedPass :=
  match p.find? (·.1 == k) with
  | some (_, passes) => (passes[n]? <|> passes.getLast?).getD {}
  | none => {}

/-- The worker that follows a plan. -/
def worker (p : Plan κ) (name : String) (retryDelay : Nat) : Worker κ (WorkRecord κ) where
  name := name
  retryDelay := retryDelay
  start t k r :=
    let planned := p.pass k (r.starts.count k)
    ({ starts := k :: r.starts, log := (t, .started k) :: r.log }, planned.duration, planned.result)
  finish t k ok r := { r with log := (t, .ended k ok) :: r.log }
  measure t m r := { r with log := (t, .metric m) :: r.log }

/-- A bound on the events of a run. Each trigger is taken once; each planned pass is carried out
once; beyond the plan, each key that was triggered is tried again at most once per millisecond; and
each request, pass and end brings a few events. -/
def eventBound (p : Plan κ) (triggers cancelAt : Nat) : Nat :=
  16 * ((triggers + 1) * (cancelAt + 2) + (p.map (·.2.length)).foldl (· + ·) 0)

/-- Work off triggers until the loop returns: what happened, and when the loop returned. -/
def run (p : Plan κ) (name : String) (concurrency retryDelay : Nat) (triggers : List (Nat × κ))
    (cancelAt : Nat) : List (Nat × WorkEntry κ) × Nat :=
  let w := p.worker name retryDelay
  let agenda := Agenda.ofList (triggers.map (fun e => (e.1, QueueEvent.trigger e.2)) ++
    [(cancelAt, .stop)])
  let l := Agenda.run w.react (p.eventBound triggers.length cancelAt) 0 [] agenda
    (w.init concurrency {})
  (l.inner.log.reverse, l.returnedAt.getD cancelAt)

end Plan

end TenantCloud
