import TenantCloud.Controller.Watch

/-!
# Stages

A `Stage` is where a controller acts on a clock in milliseconds: a world, and a log of what was
done at which time. A `Cue` is what others do meanwhile: they change the world and make the watches
report.
-/

set_option autoImplicit false

namespace TenantCloud

/-- A world, and what was done in it, latest first. -/
structure Stage where
  world : World
  log : List (Nat × Entry) := []

/-- What others did: how they left the world, what of it is logged, and what watches report. -/
structure Disturbance where
  world : World
  trace : Trace := []
  reports : List Report := []

/-- What others do with the world as they find it. -/
abbrev Cue := World → Disturbance

namespace Stage

/-- Log what was done at a time. -/
def append (s : Stage) (t : Nat) (trace : Trace) : Stage :=
  { s with log := (trace.map (t, ·)).reverse ++ s.log }

def measure (s : Stage) (t : Nat) (m : Measurement) : Stage := s.append t [.signal (.metric m)]

/-- Carry out an attempt. -/
def perform {α : Type} (s : Stage) (t : Nat) (a : Attempt α) : Result α × Stage :=
  let r := s.world.run a
  (r.value, { s with world := r.state }.append t r.trace)

/-- Count a failure under the name of a controller. -/
def count {α : Type} (s : Stage) (t : Nat) (name : String) (r : Result α) : Stage :=
  match r with
  | .ok _ => s
  | .error e => s.measure t (.reconcileError name e.category)

/-- Carry out an attempt and count its failure. -/
def attempt {α : Type} (s : Stage) (t : Nat) (name : String) (a : Attempt α) : Result α × Stage :=
  let (r, s) := s.perform t a
  (r, s.count t name r)

/-- Let others act: what watches report of it, and the stage after it. -/
def disturb (s : Stage) (t : Nat) (cue : Cue) : List Report × Stage :=
  let d := cue s.world
  (d.reports.map fun r => { r with object := r.object.served },
    { s with world := d.world }.append t d.trace)

/-- What others do with a world where no controller acts. -/
def idle (world : World) (cues : List (Nat × Cue)) : Stage :=
  (cues.mergeSort fun a b => a.1 ≤ b.1).foldl (fun s c => (s.disturb c.1 c.2).2) { world }

/-- What the watch lists. -/
def serve (s : Stage) (watch : Watch) : Option (List WatchedObject) × Stage :=
  let (listed, world) := s.world.serve watch
  (listed, { s with world })

/-- How many rows and objects there are. -/
def population (s : Stage) : Nat :=
  s.world.store.organizations.length + s.world.store.vdcs.length + s.world.store.vms.length +
    s.world.cluster.namespaces.size + s.world.cluster.vms.size + s.world.cluster.instances.size +
    s.world.cluster.templateInstances.size

/-- How often faults will act, each of those without end once. -/
def troubles (s : Stage) : Nat := (s.world.faults.map fun f => f.times.getD 1).foldl (· + ·) 0

/-- A bound on the events up to a time: in each millisecond each row, object and cue brings about
a few events at most, and so does each time that a fault acts. -/
def eventBound (s : Stage) (cues horizon : Nat) : Nat :=
  16 * ((s.population + cues + 2) * (horizon + 2) + s.troubles)

end Stage

end TenantCloud
