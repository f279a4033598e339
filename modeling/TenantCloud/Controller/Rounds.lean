import TenantCloud.Controller.Stage
import TenantCloud.Timeline.Agenda

/-!
# Rounds

`Rounds` are passes that are carried out at fixed intervals, the first one at once. A pass that
fails is counted and the next one comes at its time. Without an interval nothing is done.
-/

set_option autoImplicit false

namespace TenantCloud

/-- Passes at fixed intervals, in milliseconds. -/
structure Rounds where
  /-- The name under which failures are counted. -/
  name : String
  every : Nat
  /-- One pass, which says how much it did. -/
  pass : Attempt Nat

/-- What can happen between rounds. -/
inductive RoundsEvent
  | round
  | cue (c : Cue)

namespace Rounds

/-- Carry out one pass. -/
def round (r : Rounds) (t : Nat) (s : Stage) : Stage := (s.attempt t r.name r.pass).2

/-- What an event brings about. -/
def react (r : Rounds) (t : Nat) (e : RoundsEvent) (s : Stage) : Reaction Stage RoundsEvent :=
  match e with
  | .round => { state := r.round t s, later := [(t + r.every, .round)] }
  | .cue c => { state := (s.disturb t c).2 }

/-- What is done before a time, while others act. -/
def run (r : Rounds) (world : World) (cues : List (Nat × Cue)) (horizon : Nat) : Stage :=
  let s : Stage := { world }
  let first := if r.every = 0 then [] else [(0, RoundsEvent.round)]
  let agenda := Agenda.ofList (first ++ cues.map fun c => (c.1, RoundsEvent.cue c.2))
  let react (t : Nat) (e : RoundsEvent) (s : Stage) : Reaction Stage RoundsEvent :=
    if horizon ≤ t then { state := s } else r.react t e s
  Agenda.run react (s.eventBound cues.length horizon) 0 [] agenda s

end Rounds

end TenantCloud
