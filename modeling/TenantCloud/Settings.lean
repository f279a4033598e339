/-!
# Settings of the controllers

Intervals in seconds, and how many passes run at once.
-/

set_option autoImplicit false

namespace TenantCloud

/-- Intervals, in seconds, and limits that all controllers share. -/
structure Settings where
  vdcPoll : Nat := 120
  organizationPoll : Nat := 120
  vmResync : Nat := 300
  vappResync : Nat := 300
  /-- A status that did not change is not written again to a row that is younger than this. -/
  staleness : Nat := 600
  /-- How long after a failure the next pass is due. -/
  errorRequeue : Nat := 60
  concurrency : Nat := 8
  deriving DecidableEq

namespace Settings

/-- The largest count that the watching controllers take. -/
def maxWatchConcurrency : Nat := 65535

/-- How many passes a watching controller runs at once. There 0 would stand for no limit, so it
counts as 1, and a larger count than fits is the largest that does. -/
def watchConcurrency (s : Settings) : Nat := min (max s.concurrency 1) maxWatchConcurrency

end Settings

end TenantCloud
