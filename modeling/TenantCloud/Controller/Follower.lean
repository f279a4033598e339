import TenantCloud.Controller.Stage
import TenantCloud.Timeline.Agenda

/-!
# Controllers that follow objects

A `Follower` keeps the objects of one kind as its watch last reported them, and carries out a pass
for each of them: when the object changes, when an object related to it changes or goes, and again
after a pause that is shorter where the pass failed. Several requests for a key at one instant make
one pass, and an earlier request replaces a later one. A request for an object that is not known
means the object of that name in no namespace, and if there is none either, that the object is gone;
nothing is scheduled after that. No pass is carried out before the objects have been listed once. A
follower breaks down when it is told of an object without a name, and when it has to wait longer
than `longestPause`.
-/

set_option autoImplicit false

namespace TenantCloud

/-- A controller of objects of type `α`; times are in milliseconds. -/
structure Follower (α : Type) where
  /-- The name under which it is measured. -/
  name : String
  /-- How long after a success the next pass is due. -/
  resync : Nat
  /-- How long after a failure the next pass is due. -/
  retryDelay : Nat
  /-- The watch of the objects. -/
  main : Watch
  /-- The watch of the objects that are related to them. -/
  other : Watch
  /-- The object that is followed, if it is one. -/
  own? : WatchedObject → Option α
  key : α → ObjectAddress
  /-- Which object a related one belongs to. -/
  related? : WatchedObject → Option ObjectAddress
  pass : α → Attempt Unit
  /-- What is done for an object that is gone. -/
  gone : ObjectKey → Attempt Unit

/-- Where a follower stands. -/
structure Following (α : Type) where
  stage : Stage
  /-- The objects as last reported. -/
  known : Dict ObjectAddress α := ∅
  /-- When the next pass for a key is due. -/
  due : Dict ObjectAddress Nat := ∅
  /-- The watches that have been listed. -/
  listening : List Watch := []
  /-- From when on the follower does nothing, because it broke down. -/
  endsAt : Option Nat := none

/-- What can happen to a follower. -/
inductive FollowerEvent
  /-- The list of a watch is asked for, after some attempts that failed. -/
  | list (watch : Watch) (attempts : Nat)
  | report (r : Report)
  /-- A pass for a key may be due. -/
  | due (key : ObjectAddress)
  | cue (c : Cue)

namespace Follower

variable {α : Type}

/-- The longest pause, in milliseconds: 36 binary digits hold it. -/
def longestPause : Nat := Nat.pow 2 36 - 1

/-- Do nothing from a time on. -/
def breakDown (t : Nat) (s : Following α) : Reaction (Following α) FollowerEvent :=
  { state := { s with endsAt := some t } }

/-- Request a pass for a key at a time, unless one is due before. -/
def request (at_ : Nat) (k : ObjectAddress) (s : Following α) :
    Reaction (Following α) FollowerEvent :=
  if (s.due.get? k).any (· ≤ at_) then { state := s }
  else { state := { s with due := s.due.insert k at_ }, later := [(at_, .due k)] }

/-- Keep what is reported of an object that is followed. -/
def note (f : Follower α) (gone : Bool) (a : α) (s : Following α) : Following α :=
  { s with known := if gone then s.known.erase (f.key a) else s.known.insert (f.key a) a }

/-- A watch reports: an object that is followed asks for a pass unless it is gone, and a related
one asks for a pass in any case. -/
def report (f : Follower α) (t : Nat) (r : Report) (s : Following α) :
    Reaction (Following α) FollowerEvent :=
  if !r.object.isNamed then breakDown t s
  else match f.own? r.object with
  | some a =>
    let s := f.note r.gone a s
    if r.gone then { state := s } else request t (f.key a) s
  | none =>
    match f.related? r.object with
    | some k => request t k s
    | none => { state := s }

/-- The passes that were due before the objects were listed are due now. -/
def release (t : Nat) (s : Following α) : Reaction (Following α) FollowerEvent :=
  let overdue := s.due.filter fun _ u => u ≤ t
  { state := { s with due := overdue.toList.foldl (fun d e => d.insert e.1 t) s.due }
    later := overdue.keys.map (t, .due ·) }

/-- Ask for the list of a watch. -/
def list (f : Follower α) (t : Nat) (watch : Watch) (attempts : Nat) (s : Following α) :
    Reaction (Following α) FollowerEvent :=
  let (listed, stage) := s.stage.serve watch
  let s := { s with stage }
  match listed with
  | none =>
    { state := s, later := [(t + Watch.backoff attempts, .list watch (attempts + 1))] }
  | some objects =>
    let s := { s with listening := watch :: s.listening }
    let r := if watch = f.main then release t s else { state := s }
    { r with atOnce := objects.map fun o => .report { object := o } }

/-- The object that a key means. -/
def find? (k : ObjectAddress) (s : Following α) : Option α :=
  s.known.get? k <|> s.known.get? k.bare

/-- Request a pass for a key after a pause. What is due at the instant of a pause that is too long
is still carried out. -/
def pause (t length : Nat) (k : ObjectAddress) (s : Following α) :
    Reaction (Following α) FollowerEvent :=
  if length ≤ longestPause then request (t + length) k s
  else breakDown (t + 1) s

/-- Carry out what is due for a key: a pass for the object that it means, or else what is done for
an object that is gone. -/
def carryOut (f : Follower α) (t : Nat) (k : ObjectAddress) (s : Following α) :
    Reaction (Following α) FollowerEvent :=
  let s := { s with due := s.due.erase k }
  match find? k s with
  | some a =>
    let (r, stage) := s.stage.attempt t f.name (f.pass a)
    pause t (if r.isOk then f.resync else f.retryDelay) k { s with stage }
  | none =>
    let (_, stage) := s.stage.attempt t f.name (f.gone k.key)
    { state := { s with stage } }

/-- The follower does nothing at a time, because it broke down. -/
def isBroken (t : Nat) (s : Following α) : Bool := s.endsAt.any (· ≤ t)

/-- What an event brings about. Where a follower broke down, only others act. -/
def react (f : Follower α) (t : Nat) (e : FollowerEvent) (s : Following α) :
    Reaction (Following α) FollowerEvent :=
  match e with
  | .list watch attempts => if isBroken t s then { state := s } else f.list t watch attempts s
  | .report r => if isBroken t s then { state := s } else f.report t r s
  | .due k =>
    if s.due.get? k = some t && s.listening.contains f.main && !isBroken t s then f.carryOut t k s
    else { state := s }
  | .cue c =>
    let (reports, stage) := s.stage.disturb t c
    let heard := reports.filter fun r => s.listening.any (·.admits r.object)
    { state := { s with stage }, later := heard.map fun r => (t, .report r) }

/-- A follower at its start. -/
def init (f : Follower α) (world : World) : Following α where
  stage := ({ world } : Stage).measure 0 (.controllerHealth f.name true)

/-- What a follower does up to a time, while others act. -/
def run (f : Follower α) (world : World) (cues : List (Nat × Cue)) (horizon : Nat) : Following α :=
  let s := f.init world
  let agenda := Agenda.ofList (
    [(0, .list f.main 0), (0, .list f.other 0)] ++ cues.map fun c => (c.1, FollowerEvent.cue c.2))
  let react (t : Nat) (e : FollowerEvent) (s : Following α) :=
    if horizon < t then { state := s } else f.react t e s
  Agenda.run react (s.stage.eventBound cues.length horizon) 0 [] agenda s

end Follower

end TenantCloud
