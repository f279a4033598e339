import TenantCloud.Rows.VApp
import TenantCloud.Rows.Vm

/-!
# The status of a vApp

`VAppSignals.status` is the status that a vApp should have, from its instantiation and the statuses
of its machines. `transitions` lists the changes that may be stored, and `mayBecome` says whether
one status may follow another.
-/

set_option autoImplicit false

namespace TenantCloud

/-- What the status of a vApp depends on. -/
structure VAppSignals where
  failed : Bool
  ready : Bool
  hasVms : Bool
  /-- The statuses of the machines. -/
  statuses : List String
  deriving DecidableEq

namespace VAppSignals

/-- A machine of which nothing is known yet. -/
def isUnsettled (status : String) : Bool := status == "" || status == VmStatus.unresolved.word

/-- A machine that goes or is gone. -/
def isGoing (status : String) : Bool :=
  status == VmStatus.deleting.word || status == VmStatus.deleted.word

/-- The status that a vApp should have; the first rule that fits counts. -/
def status (s : VAppSignals) : VAppStatus :=
  if s.failed then .failed
  else if !s.ready || !s.hasVms then .instantiating
  else if s.statuses.any isUnsettled then .instantiating
  else if s.statuses.any isGoing then .deleting
  else .deployed

end VAppSignals

/-- A change of status that may be stored, and what brings it about. -/
structure VAppTransition where
  /-- The status before; any where this is absent. -/
  source : Option VAppStatus
  target : VAppStatus
  trigger : String
  deriving DecidableEq

namespace VAppTransition

/-- The transition leads from one status to another. -/
def fits (t : VAppTransition) (source target : VAppStatus) : Bool :=
  t.target == target && t.source.all (· == source)

end VAppTransition

namespace VAppStatus

/-- The changes of status that may be stored. -/
def transitions : List VAppTransition := [
  ⟨some .instantiating, .deployed, "instantiation ready, all VMs stable"⟩,
  ⟨some .instantiating, .failed, "instantiation failed"⟩,
  ⟨some .deployed, .deleting, "a VM is deleting"⟩,
  ⟨some .deleting, .deleted, "template instance gone"⟩,
  ⟨none, .deleted, "template instance gone"⟩]

/-- One status may follow another. -/
def mayBecome (source target : VAppStatus) : Bool :=
  source == target || transitions.any (·.fits source target)

end VAppStatus

end TenantCloud
