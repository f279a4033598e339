import TenantCloud.Effect.Call

/-!
# Periodic listings

A source lists keys once per interval, starting at once, and hands them to a consumer one by one.
The n-th listing is due at n intervals, whatever the consumer did before, so one that fell due
while the consumer was busy comes without delay. A listing that fails is counted and gives no keys.
`Listings.consume` is what the consumer sees up to a given time, what happens at that time included.
-/

set_option autoImplicit false

namespace TenantCloud

/-- A source of keys and its consumer; times are in milliseconds. -/
structure Listings (κ : Type) where
  /-- The name under which failures are counted. -/
  name : String
  every : Nat
  /-- What the n-th listing gives. -/
  list : Nat → Result (List κ)
  /-- How long the consumer is busy with a key. -/
  busy : Nat
  /-- How many keys the consumer takes, without end where this is absent. -/
  take : Option Nat
  /-- When everything ends. -/
  horizon : Nat

/-- What happened. -/
inductive ListingEntry (κ : Type)
  | listed (n : Nat)
  | key (k : κ)
  | metric (m : Measurement)
  deriving DecidableEq

/-- Where a consumer stands: the time, how many keys it took, and what happened, latest first. -/
structure Consumer (κ : Type) where
  now : Nat := 0
  taken : Nat := 0
  log : List (Nat × ListingEntry κ) := []

namespace Listings

variable {κ : Type}

/-- The consumer has taken all the keys it wants. -/
def isSated (l : Listings κ) (c : Consumer κ) : Bool := l.take == some c.taken

/-- Note something at the time of the consumer. -/
def note (c : Consumer κ) (e : ListingEntry κ) : Consumer κ :=
  { c with log := (c.now, e) :: c.log }

/-- Hand over the keys of a listing, until the consumer wants no more or time is up. -/
def handOver (l : Listings κ) : List κ → Consumer κ → Consumer κ
  | [], c => c
  | k :: rest, c =>
    if l.isSated c || l.horizon < c.now then c
    else
      let c := note c (.key k)
      handOver l rest { c with now := c.now + l.busy, taken := c.taken + 1 }

/-- The n-th listing and the keys of it. -/
def round (l : Listings κ) (n : Nat) (c : Consumer κ) : Consumer κ :=
  let c := note c (.listed n)
  match l.list n with
  | .ok keys => handOver l keys c
  | .error e => note c (.metric (.reconcileError l.name e.category))

/-- The listings from the n-th on, `rounds` of them at most. Says whether the consumer got all the
keys it wanted in time. -/
def consumeFrom (l : Listings κ) : (rounds n : Nat) → Consumer κ → Bool × Consumer κ
  | 0, _, c => (false, c)
  | rounds + 1, n, c =>
    if l.horizon < c.now then (false, c)
    else if l.isSated c then (true, c)
    else
      let due := max c.now (n * l.every)
      if l.horizon < due then (false, c)
      else consumeFrom l rounds (n + 1) (l.round n { c with now := due })

/-- What the consumer sees, in order, and whether it got all the keys it wanted in time. -/
def consume (l : Listings κ) : Bool × List (Nat × ListingEntry κ) :=
  let (finished, c) := l.consumeFrom (l.horizon / max l.every 1 + 3) 0 {}
  (finished, c.log.reverse)

end Listings

end TenantCloud
