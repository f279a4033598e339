import TenantCloud.Controller.Rounds
import TenantCloud.WorkQueue.Loop

/-!
# Controllers of rows that own namespaces

An `OwnerController` works off a queue of rows. It is triggered by a listing of all rows at fixed
intervals, and by each report of a namespace that names its row in a label. Rounds of another pass
may go on beside it. At a given time everything stops, once the passes at work have ended. A
controller that has no interval is never started.
-/

set_option autoImplicit false

namespace TenantCloud

/-- A controller of rows; times are in milliseconds. -/
structure OwnerController where
  /-- The name under which it is measured. -/
  name : String
  concurrency : Nat
  retryDelay : Nat
  /-- How often all rows are listed. -/
  every : Nat
  list : Attempt (List Uuid)
  pass : Uuid → Attempt Unit
  /-- The watch of the namespaces that the rows own. -/
  watch : Watch
  /-- The label that names the row of a namespace. -/
  idLabel : String
  /-- What goes on beside the queue. -/
  beside : Option Rounds := none

/-- Where a controller of rows stands. -/
structure Owning where
  loop : WorkLoop Uuid Stage
  /-- The watch has been listed. -/
  listening : Bool := false

/-- What can happen to a controller of rows. -/
inductive OwnerEvent
  | queue (e : QueueEvent Uuid)
  /-- All rows are listed. -/
  | poll
  | round (r : Rounds)
  /-- The list of the watch is asked for, after some attempts that failed. -/
  | list (attempts : Nat)
  | report (r : Report)
  | cue (c : Cue)

namespace OwnerController

/-- The worker that carries out the passes. -/
def worker (o : OwnerController) : Worker Uuid Stage where
  name := o.name
  retryDelay := o.retryDelay
  start t id s :=
    let (r, s) := s.perform t (o.pass id)
    (s, 0, r)
  finish _ _ _ s := s
  measure t m s := s.measure t m

/-- The queue is at work. -/
def isOpen (s : Owning) : Bool := !s.loop.queue.stopped

/-- `s` with another stage. -/
def onStage (s : Owning) (stage : Stage) : Owning := { s with loop.inner := stage }

/-- An event of the queue. -/
def queue (o : OwnerController) (t : Nat) (e : QueueEvent Uuid) (s : Owning) :
    Reaction Owning OwnerEvent :=
  let r := o.worker.react t e s.loop
  { state := { s with loop := r.state }
    atOnce := r.atOnce.map .queue
    later := r.later.map fun e => (e.1, .queue e.2) }

/-- List all rows; each one is triggered. -/
def poll (o : OwnerController) (t : Nat) (s : Owning) : Reaction Owning OwnerEvent :=
  let (r, stage) := s.loop.inner.attempt t o.name o.list
  let ids := match r with
    | .ok ids => ids
    | .error _ => []
  { state := onStage s stage
    atOnce := ids.map fun id => .queue (.trigger id)
    later := [(t + o.every, .poll)] }

/-- Carry out what goes on beside the queue. -/
def round (t : Nat) (r : Rounds) (s : Owning) : Reaction Owning OwnerEvent :=
  { state := onStage s (r.round t s.loop.inner), later := [(t + r.every, .round r)] }

/-- Ask for the list of the watch; a failure is counted. -/
def listWatch (o : OwnerController) (t attempts : Nat) (s : Owning) : Reaction Owning OwnerEvent :=
  let (listed, stage) := s.loop.inner.serve o.watch
  match listed with
  | none =>
    let failure : Result Unit := .error (.unreachable "list of a watch")
    { state := onStage s (stage.count t o.name failure)
      later := [(t + Watch.backoff attempts, .list (attempts + 1))] }
  | some objects =>
    { state := { onStage s stage with listening := true }
      atOnce := objects.map fun object => .report { object } }

/-- The row that a report is about. -/
def subject? (o : OwnerController) (r : Report) : Option Uuid :=
  match r.object with
  | .ns object => object.owner? o.idLabel
  | _ => none

/-- The watch reports. -/
def report (o : OwnerController) (r : Report) (s : Owning) : Reaction Owning OwnerEvent :=
  { state := s, atOnce := (o.subject? r).toList.map fun id => .queue (.trigger id) }

/-- Others act. -/
def cue (o : OwnerController) (t : Nat) (c : Cue) (s : Owning) : Reaction Owning OwnerEvent :=
  let (reports, stage) := s.loop.inner.disturb t c
  let heard := reports.filter fun r => s.listening && o.watch.admits r.object
  { state := onStage s stage, later := heard.map fun r => (t, .report r) }

/-- What an event brings about. Once the queue has stopped, only what is in it goes on. -/
def react (o : OwnerController) (t : Nat) (e : OwnerEvent) (s : Owning) :
    Reaction Owning OwnerEvent :=
  match e with
  | .queue e => o.queue t e s
  | .poll => if isOpen s then o.poll t s else { state := s }
  | .round r => if isOpen s then round t r s else { state := s }
  | .list attempts => if isOpen s then o.listWatch t attempts s else { state := s }
  | .report r => o.report r s
  | .cue c => o.cue t c s

/-- A controller at its start. -/
def init (o : OwnerController) (world : World) : Owning where
  loop := o.worker.init o.concurrency { world }

/-- It can be started: all that it does at intervals has one. -/
def isPaced (o : OwnerController) : Bool := o.every != 0 && o.beside.all (·.every != 0)

/-- What a controller does until it is stopped at a time, while others act. Without an interval it
does nothing. -/
def run (o : OwnerController) (world : World) (cues : List (Nat × Cue)) (horizon : Nat) : Stage :=
  let s := o.init world
  let heard := cues.filter (·.1 ≤ horizon)
  let first :=
    [(0, .poll)] ++ o.beside.toList.map (fun r => (0, OwnerEvent.round r)) ++ [(0, .list 0)]
  let agenda := Agenda.ofList (
    first ++ heard.map (fun c => (c.1, OwnerEvent.cue c.2)) ++ [(horizon, .queue .stop)])
  if o.isPaced then
    (Agenda.run o.react (s.loop.inner.eventBound cues.length horizon) 0 [] agenda s).loop.inner
  else Stage.idle world heard

end OwnerController

end TenantCloud
