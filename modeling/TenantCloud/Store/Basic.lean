import TenantCloud.Error
import TenantCloud.Store.Table

/-!
# The store

A `Store` holds the rows of organizations, virtual datacenters, vApps and machines. Look-ups give
the first row that fits, creations refuse a row that would break a uniqueness rule, and updates
say whether there was a row to update: a name is used once per virtual datacenter for a vApp, and
once per namespace and once per vApp for a machine.
-/

set_option autoImplicit false

namespace TenantCloud

/-- All rows. -/
structure Store where
  organizations : Table Organization := []
  vdcs : Table Vdc := []
  vapps : Table VApp := []
  vms : Table Vm := []
  deriving DecidableEq, Inhabited

namespace Store

/-! ## Look-ups -/

/-- The virtual datacenter that is not deleted and bound to a namespace. -/
def vdcAt? (s : Store) (ns : String) : Option Vdc := s.vdcs.find? (·.liveAt ns)

/-- The vApp with a name in a virtual datacenter. -/
def vappNamed? (s : Store) (vdcId : Uuid) (name : String) : Option VApp :=
  s.vapps.find? fun a => a.vdcId == vdcId && a.name == name

/-- The machine with a name in a vApp. -/
def vmIn? (s : Store) (vappId : Uuid) (vmName : String) : Option Vm :=
  s.vms.find? (·.isIn vappId vmName)

/-- The machine with a name in a namespace. -/
def vmAt? (s : Store) (ns vmName : String) : Option Vm := s.vms.find? (·.isAt ns vmName)

/-- The machines of a vApp. -/
def vmsIn (s : Store) (vappId : Uuid) : List Vm := s.vms.filter (·.vappId == vappId)

/-! ## Uniqueness -/

/-- A row that forbids a new vApp. -/
def clashesVApp (new : NewVApp) (a : VApp) : Bool := a.vdcId == new.vdcId && a.name == new.name

/-- A row that forbids a new machine. -/
def clashesVm (new : NewVm) (v : Vm) : Bool :=
  v.vmName == new.vmName && (v.ns == new.ns || v.vappId == new.vappId)

/-! ## Creations -/

/-- The row that a new vApp gets. -/
def vappRow (id : Uuid) (now : Timestamp) (new : NewVApp) : VApp where
  id := id
  name := new.name
  vdcId := new.vdcId
  status := new.status
  description := new.description
  createdAt := now
  updatedAt := now

/-- The row that a new machine gets; no fact of it is known yet. -/
def vmRow (id : Uuid) (now : Timestamp) (new : NewVm) : Vm where
  id := id
  name := new.name
  vmName := new.vmName
  ns := new.ns
  vappId := new.vappId
  status := new.status
  cpuCount := none
  memory := none
  guestOs := none
  createdAt := now
  updatedAt := now

/-- Why a vApp cannot be created. -/
def vappExists (new : NewVApp) : Error :=
  .alreadyExists ("vapp " ++ new.name ++ " in vdc " ++ new.vdcId.render)

/-- Why a machine cannot be created. -/
def vmExists (new : NewVm) : Error := .alreadyExists ("vm " ++ new.ns ++ "/" ++ new.vmName)

/-- A new vApp with a given identity. -/
def createVApp (s : Store) (id : Uuid) (now : Timestamp) (new : NewVApp) : Result (VApp × Store) :=
  if s.vapps.any (clashesVApp new) then .error (vappExists new)
  else
    let row := vappRow id now new
    .ok (row, { s with vapps := Table.put s.vapps row })

/-- A new machine with a given identity. -/
def createVm (s : Store) (id : Uuid) (now : Timestamp) (new : NewVm) : Result (Vm × Store) :=
  if s.vms.any (clashesVm new) then .error (vmExists new)
  else
    let row := vmRow id now new
    .ok (row, { s with vms := Table.put s.vms row })

/-! ## Updates -/

/-- Set the status of a vApp, at a given time. -/
def updateVAppStatus (s : Store) (now : Timestamp) (id : Uuid) (status : VAppStatus) :
    Bool × Store :=
  (Table.has s.vapps id,
    { s with vapps := Table.amend s.vapps id fun a => { a with status, updatedAt := now } })

/-- Set the status of a machine, at a given time. -/
def updateVmStatus (s : Store) (now : Timestamp) (id : Uuid) (status : String) : Bool × Store :=
  (Table.has s.vms id,
    { s with vms := Table.amend s.vms id fun v => { v with status, updatedAt := now } })

/-- Set the facts that are present; the time of the last update stays. -/
def updateVmData (s : Store) (id : Uuid) (facts : VmFacts) : Bool × Store :=
  (Table.has s.vms id, { s with vms := Table.amend s.vms id (·.withFacts facts) })

end Store

end TenantCloud
