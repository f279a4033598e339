import TenantCloud.Effect.Pass

/-!
# Worlds

A `World` is what passes run against: a store, a cluster, a source of fresh identities, the time,
and faults to come. `perform` answers a call from the store and the cluster, `answer` lets the
faults decide first. A fault counts calls of one name; once it acts, it makes the call fail, or
makes it find and change nothing.
-/

set_option autoImplicit false

namespace TenantCloud

/-- What a fault does to a call. -/
inductive FaultAction
  /-- The call finds nothing and changes nothing; a creation takes place all the same. -/
  | miss
  | fail (e : Error)
  deriving DecidableEq

/-- A disturbance of the calls with one name. -/
structure Fault where
  /-- The name of the calls. -/
  callName : String
  /-- How many calls go through before it acts. -/
  skip : Nat
  /-- How often it acts, without end where this is absent. -/
  times : Option Nat
  action : FaultAction
  deriving DecidableEq

namespace Fault

/-- The fault will act again. -/
def isActive (f : Fault) : Bool := f.times ≠ some 0

/-- What happens to a call with a given name, and the faults that are left. The first active fault
with the name decides alone. -/
def decide (name : String) : List Fault → Option FaultAction × List Fault
  | [] => (none, [])
  | f :: rest =>
    if f.callName == name && f.isActive then
      match f.skip with
      | k + 1 => (none, { f with skip := k } :: rest)
      | 0 => (some f.action, { f with times := f.times.map (· - 1) } :: rest)
    else
      let (a, rest') := decide name rest
      (a, f :: rest')

end Fault

/-- Where identities of new rows come from, and how many have been taken. -/
structure IdSource where
  vappId : Nat → Uuid
  vmId : Nat → Uuid
  vapps : Nat := 0
  vms : Nat := 0

namespace IdSource

def nextVApp (s : IdSource) : Uuid := s.vappId s.vapps
def nextVm (s : IdSource) : Uuid := s.vmId s.vms

end IdSource

/-- What passes run against. -/
structure World where
  store : Store := {}
  cluster : Cluster := {}
  ids : IdSource
  faults : List Fault := []
  now : Timestamp

namespace World

/-- Answer a call of the store. -/
def performStore (w : World) : (c : StoreCall) → Result c.Answer × World
  | .getOrganization id => (.ok (Table.get? w.store.organizations id), w)
  | .listOrganizations => (.ok w.store.organizations, w)
  | .getVdc id => (.ok (Table.get? w.store.vdcs id), w)
  | .getVdcByNamespace ns => (.ok (w.store.vdcAt? ns), w)
  | .listVdcs => (.ok w.store.vdcs, w)
  | .getVApp id => (.ok (Table.get? w.store.vapps id), w)
  | .getVAppByName vdcId name => (.ok (w.store.vappNamed? vdcId name), w)
  | .createVApp new =>
    match w.store.createVApp w.ids.nextVApp w.now new with
    | .ok (row, store) => (.ok row, { w with store, ids.vapps := w.ids.vapps + 1 })
    | .error e => (.error e, w)
  | .updateVAppStatus id status =>
    let (there, store) := w.store.updateVAppStatus w.now id status
    (.ok there, { w with store })
  | .getVm id => (.ok (Table.get? w.store.vms id), w)
  | .getVmByVAppAndName vappId vmName => (.ok (w.store.vmIn? vappId vmName), w)
  | .getVmByNamespaceAndName ns vmName => (.ok (w.store.vmAt? ns vmName), w)
  | .listVms => (.ok w.store.vms, w)
  | .listVmsByVApp vappId => (.ok (w.store.vmsIn vappId), w)
  | .createVm new =>
    match w.store.createVm w.ids.nextVm w.now new with
    | .ok (row, store) => (.ok row, { w with store, ids.vms := w.ids.vms + 1 })
    | .error e => (.error e, w)
  | .updateVmStatus id status =>
    let (there, store) := w.store.updateVmStatus w.now id status
    (.ok there, { w with store })
  | .updateVmData id facts =>
    let (there, store) := w.store.updateVmData id facts
    (.ok there, { w with store })

/-- The world after a change to the cluster, or as it was where the change failed. -/
def changeCluster (w : World) : Result Cluster → Result Unit × World
  | .ok cluster => (.ok (), { w with cluster })
  | .error e => (.error e, w)

/-- Answer a call of the cluster. -/
def performCluster (w : World) : (c : ClusterCall) → Result c.Answer × World
  | .getNamespace name => (.ok (w.cluster.namespaces.get? name), w)
  | .listManagedNamespaces => (.ok w.cluster.managedNamespaces, w)
  | .createNamespace object => w.changeCluster (.ok (w.cluster.createNamespace object))
  | .patchNamespaceMetadata name labels annotations =>
    w.changeCluster (w.cluster.patchNamespace name labels annotations)
  | .deleteNamespace name => w.changeCluster (.ok (w.cluster.deleteNamespace name))
  | .getResourceQuota ns name => (.ok (w.cluster.quotas.get? ⟨ns, name⟩), w)
  | .createResourceQuota ns quota => w.changeCluster (.ok (w.cluster.createQuota ns quota))
  | .replaceResourceQuotaHard ns name hard =>
    w.changeCluster (w.cluster.replaceQuotaHard ns name hard)
  | .createNetworkPolicy ns policy => w.changeCluster (.ok (w.cluster.createPolicy ns policy))
  | .getVirtualMachine ns name => (.ok (w.cluster.vms.get? ⟨ns, name⟩), w)
  | .getVirtualMachineInstance ns name => (.ok (w.cluster.instances.get? ⟨ns, name⟩), w)
  | .setVirtualMachineLabel ns name key value =>
    w.changeCluster (w.cluster.setVmLabel ns name key value)
  | .findTemplateInstanceByUid uid => (.ok (w.cluster.templateInstanceWithUid? uid), w)

/-- Answer a call from the store and the cluster. -/
def perform : (c : Call) → World → Result c.Answer × World
  | .store c, w => w.performStore c
  | .cluster c, w => w.performCluster c

/-- Answer a call, the faults first. -/
def answer (c : Call) (w : World) : Result c.Answer × World :=
  let (action, faults) := Fault.decide c.name w.faults
  let w := { w with faults }
  match action with
  | some (.fail e) => (.error e, w)
  | some .miss =>
    match c.emptyAnswer? with
    | some a => (.ok a, w)
    | none => w.perform c
  | none => w.perform c

/-- Passes run against a world. -/
def handler : Handler World := ⟨answer, World.now⟩

/-- Carry out an attempt. -/
def run {α : Type} (w : World) (a : Attempt α) : Ran World (Result α) := Pass.run handler a.run w

end World

end TenantCloud
