/-!
# Queues of keyed work

A `WorkQueue` runs passes for keys, one at a time per key and a limited number at once. A request
comes from a trigger or from a retry that is due; which of the two is asked first is up to whoever
takes it. Taking a request claims its key and starts a pass, or, where the key is in flight already,
marks that one more pass is owed when the running one ends. A pass that fails schedules a retry,
unless one is pending for its key. After `stop` nothing is taken any more, sleeping retries are
dropped, and the passes that run, and those owed, come to their end.
-/

set_option autoImplicit false

namespace TenantCloud

/-- Requests, passes and retries of keyed work. -/
structure WorkQueue (κ : Type) where
  /-- How many passes run at once; none counts as one. -/
  limit : Nat
  /-- Keys that were triggered, in order. -/
  triggers : List κ := []
  /-- Keys whose retry is due, in order. -/
  dueRetries : List κ := []
  /-- Keys that are claimed, and whether one more pass is owed to each. -/
  inFlight : List (κ × Bool) := []
  /-- Keys of the passes that run. -/
  running : List κ := []
  /-- Keys with a retry that was scheduled and not taken yet. -/
  retryPending : List κ := []
  /-- Keys of the retries whose delay is not over. -/
  sleeping : List κ := []
  stopped : Bool := false
  deriving DecidableEq

namespace WorkQueue

variable {κ : Type} [DecidableEq κ]

/-- A key was triggered. -/
def trigger (q : WorkQueue κ) (k : κ) : WorkQueue κ := { q with triggers := q.triggers ++ [k] }

/-- The delay of a retry is over. -/
def wake (q : WorkQueue κ) (k : κ) : WorkQueue κ :=
  if k ∈ q.sleeping then
    { q with sleeping := q.sleeping.erase k, dueRetries := q.dueRetries ++ [k] }
  else q

/-- Nothing is taken from now on. -/
def stop (q : WorkQueue κ) : WorkQueue κ := { q with stopped := true, sleeping := [] }

/-! ## Taking requests -/

/-- One more pass may run. -/
def hasRoom (q : WorkQueue κ) : Bool := !q.stopped && q.running.length < max 1 q.limit

/-- Where requests come from. -/
inductive Source
  | triggers
  | retries
  deriving DecidableEq

def Source.other : Source → Source
  | triggers => retries
  | retries => triggers

/-- The first request of a source and the queue without it; a retry that is taken is pending no
more. -/
def pop? (q : WorkQueue κ) : Source → Option (κ × WorkQueue κ)
  | .triggers =>
    match q.triggers with
    | [] => none
    | k :: rest => some (k, { q with triggers := rest })
  | .retries =>
    match q.dueRetries with
    | [] => none
    | k :: rest =>
      some (k, { q with dueRetries := rest, retryPending := q.retryPending.filter (· ≠ k) })

/-- The next request: one of the source that is asked first, else one of the other. -/
def next? (q : WorkQueue κ) (first : Source) : Option (κ × WorkQueue κ) :=
  q.pop? first <|> q.pop? first.other

/-- The key is claimed. -/
def isClaimed (q : WorkQueue κ) (k : κ) : Bool := q.inFlight.any (·.1 == k)

/-- Claim a key for a request: say whether a pass starts for it. For a key that is claimed already,
one more pass is owed. -/
def claim (q : WorkQueue κ) (k : κ) : Bool × WorkQueue κ :=
  if q.isClaimed k then
    (false, { q with inFlight := q.inFlight.map fun e => if e.1 = k then (k, true) else e })
  else
    (true, { q with inFlight := q.inFlight ++ [(k, false)], running := q.running ++ [k] })

/-- A request that was taken. -/
structure Taken (κ : Type) where
  key : κ
  /-- A pass starts for it; else one is owed. -/
  starts : Bool

/-- Take the next request, where there is room for one more pass. -/
def take? (q : WorkQueue κ) (first : Source) : Option (Taken κ × WorkQueue κ) := do
  guard q.hasRoom
  let (k, q) ← q.next? first
  let (starts, q) := q.claim k
  return (⟨k, starts⟩, q)

/-! ## Ends of passes -/

/-- Schedule a retry of a key, unless one is pending: say whether a delay starts. After the stop
none does. -/
def retry (q : WorkQueue κ) (k : κ) : Bool × WorkQueue κ :=
  if k ∈ q.retryPending then (false, q)
  else if q.stopped then (false, { q with retryPending := k :: q.retryPending })
  else (true, { q with retryPending := k :: q.retryPending, sleeping := q.sleeping ++ [k] })

/-- One more pass is owed to a key. -/
def owes (q : WorkQueue κ) (k : κ) : Bool := q.inFlight.any fun e => e.1 == k && e.2

/-- Release a key after a pass: say whether the owed pass starts, for which the key stays
claimed. -/
def release (q : WorkQueue κ) (k : κ) : Bool × WorkQueue κ :=
  if q.owes k then
    (true, { q with inFlight := q.inFlight.map fun e => if e.1 = k then (k, false) else e })
  else
    (false, { q with
      inFlight := q.inFlight.filter (·.1 ≠ k)
      running := q.running.erase k })

/-- What the end of a pass brings about. -/
structure Finished where
  /-- The delay of a retry starts. -/
  retries : Bool
  /-- The owed pass starts. -/
  reruns : Bool

/-- A pass for a key ended. -/
def finish (q : WorkQueue κ) (k : κ) (failed : Bool) : Finished × WorkQueue κ :=
  let (retries, q) := if failed then q.retry k else (false, q)
  let (reruns, q) := q.release k
  (⟨retries, reruns⟩, q)

/-- Nothing runs and nothing will. -/
def isDrained (q : WorkQueue κ) : Bool := q.stopped && q.running.isEmpty

end WorkQueue

end TenantCloud
