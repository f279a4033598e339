import TenantCloud.Effect.Call
import TenantCloud.Timeline.Agenda
import TenantCloud.WorkQueue.Basic

/-!
# Working off a queue

A `Worker` carries out the passes of a `WorkQueue` on a clock in milliseconds. `Worker.react` says
what each event brings about: requests are taken as long as there is room, from triggers and retries
in turns, a pass that takes no time ends before the next request is taken, a failed pass is counted
and tried again after a delay. The loop reports that it is healthy when it starts, and that it is
not once it has stopped and the last pass has ended.
-/

set_option autoImplicit false

namespace TenantCloud

/-- What can happen to a loop. -/
inductive QueueEvent (κ : Type)
  | trigger (key : κ)
  /-- The delay of a retry is over. -/
  | wake (key : κ)
  /-- Take a request, where there is one and room for it; one source is asked first. -/
  | pull (first : WorkQueue.Source)
  | finish (key : κ) (result : Result Unit)
  | stop

/-- How passes are carried out on a state. -/
structure Worker (κ σ : Type) where
  /-- The name under which the loop is measured. -/
  name : String
  retryDelay : Nat
  /-- Start a pass at a time: the state, how long it takes, and how it will end. -/
  start : Nat → κ → σ → σ × Nat × Result Unit
  /-- Note that a pass ended at a time, and whether it succeeded. -/
  finish : Nat → κ → Bool → σ → σ
  measure : Nat → Measurement → σ → σ

/-- A loop at work: its queue, the state of its worker, and when it returned. -/
structure WorkLoop (κ σ : Type) where
  queue : WorkQueue κ
  inner : σ
  returnedAt : Option Nat := none

namespace Worker

variable {κ σ : Type} [DecidableEq κ]

/-- Start a pass. One that takes no time ends at once. -/
def begin (w : Worker κ σ) (t : Nat) (k : κ) (l : WorkLoop κ σ) :
    Reaction (WorkLoop κ σ) (QueueEvent κ) :=
  let (inner, duration, result) := w.start t k l.inner
  let l := { l with inner }
  if duration = 0 then { state := l, atOnce := [.finish k result] }
  else { state := l, later := [(t + duration, .finish k result)] }

/-- Count a pass that failed. -/
def count (w : Worker κ σ) (t : Nat) (result : Result Unit) (s : σ) : σ :=
  match result with
  | .ok () => s
  | .error e => w.measure t (.reconcileError w.name e.category) s

/-- Take one request; the other source comes first the next time. -/
def pull (w : Worker κ σ) (t : Nat) (first : WorkQueue.Source) (l : WorkLoop κ σ) :
    Reaction (WorkLoop κ σ) (QueueEvent κ) :=
  match l.queue.take? first with
  | none => { state := l }
  | some (taken, queue) =>
    let l := { l with queue }
    let r := if taken.starts then w.begin t taken.key l else { state := l }
    { r with atOnce := r.atOnce ++ [.pull first.other] }

/-- End a pass. -/
def finishPass (w : Worker κ σ) (t : Nat) (k : κ) (result : Result Unit) (l : WorkLoop κ σ) :
    Reaction (WorkLoop κ σ) (QueueEvent κ) :=
  let inner := w.count t result (w.finish t k result.isOk l.inner)
  let (fin, queue) := l.queue.finish k (!result.isOk)
  let l := { l with queue, inner }
  let r := if fin.reruns then w.begin t k l else { state := l }
  { r with
    atOnce := r.atOnce ++ [.pull .triggers]
    later := r.later ++ if fin.retries then [(t + w.retryDelay, .wake k)] else [] }

/-- Return once everything has come to its end. -/
def settle (w : Worker κ σ) (t : Nat) (l : WorkLoop κ σ) : WorkLoop κ σ :=
  if l.queue.isDrained && l.returnedAt.isNone then
    { l with
      inner := w.measure t (.controllerHealth w.name false) l.inner
      returnedAt := some t }
  else l

/-- What an event brings about. -/
def react (w : Worker κ σ) (t : Nat) (e : QueueEvent κ) (l : WorkLoop κ σ) :
    Reaction (WorkLoop κ σ) (QueueEvent κ) :=
  let r : Reaction (WorkLoop κ σ) (QueueEvent κ) := match e with
    | .trigger k => { state := { l with queue := l.queue.trigger k }, atOnce := [.pull .triggers] }
    | .wake k => { state := { l with queue := l.queue.wake k }, atOnce := [.pull .retries] }
    | .pull first => w.pull t first l
    | .finish k result => w.finishPass t k result l
    | .stop => { state := { l with queue := l.queue.stop } }
  { r with state := w.settle t r.state }

/-- A loop that starts with an empty queue. -/
def init (w : Worker κ σ) (concurrency : Nat) (s : σ) : WorkLoop κ σ where
  queue := { limit := concurrency }
  inner := w.measure 0 (.controllerHealth w.name true) s

end Worker

end TenantCloud
