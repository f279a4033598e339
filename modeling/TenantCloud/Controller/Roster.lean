import TenantCloud.Controller.Follower
import TenantCloud.Controller.Owners
import TenantCloud.Reconcile.Organization
import TenantCloud.Reconcile.VApp
import TenantCloud.Reconcile.Vdc
import TenantCloud.Reconcile.VirtualMachine

/-!
# The controllers

The five loops that keep rows and objects in line, with the intervals that the settings give:
machines and vApps follow objects of the cluster, virtual datacenters and organizations work off
their rows, and a sweeper looks for machines whose deletion nobody reported.
-/

set_option autoImplicit false

namespace TenantCloud

namespace Settings

/-- Milliseconds in some seconds. -/
def millis (seconds : Nat) : Nat := seconds * 1000

end Settings

namespace WatchedObject

def vm? : WatchedObject → Option VirtualMachine
  | vm o => some o
  | _ => none

def vmi? : WatchedObject → Option VirtualMachineInstance
  | vmi o => some o
  | _ => none

def template? : WatchedObject → Option TemplateInstance
  | template o => some o
  | _ => none

end WatchedObject

/-- The labels of the namespaces that rows of a kind own. -/
def ownedLabels (kind : String) : Labels :=
  .ofList [(Vocabulary.managedByLabel, Vocabulary.managedByValue), (Vocabulary.kindLabel, kind)]

/-- Keeps the rows of machines in line with the machines and their instances. -/
def vmController (settings : Settings) : Follower VirtualMachine where
  name := Vocabulary.vmController
  resync := Settings.millis settings.vmResync
  retryDelay := Settings.millis settings.errorRequeue
  main := { collection := .virtualMachines }
  other := { collection := .virtualMachineInstances }
  own? := WatchedObject.vm?
  key vm := ⟨vm.metadata.ns, vm.name⟩
  related? o := o.vmi?.bind (·.machine?)
  pass vm := Reconcile.virtualMachine settings vm
  gone k := Reconcile.vmDeleted k.ns k.name

/-- Keeps the rows of vApps in line with template instances and the machines in them. -/
def vappController (settings : Settings) : Follower TemplateInstance where
  name := Vocabulary.vappController
  resync := Settings.millis settings.vappResync
  retryDelay := Settings.millis settings.errorRequeue
  main := { collection := .templateInstances }
  other := { collection := .virtualMachines }
  own? := WatchedObject.template?
  key ti := ⟨ti.metadata.ns, ti.name⟩
  related? o := o.vm?.bind (·.templateInstance?)
  pass ti := Reconcile.vapp ti
  gone k := Reconcile.templateInstanceDeleted k.ns k.name

/-- Flags namespaces that no virtual datacenter claims. -/
def orphanScan (settings : Settings) : Rounds where
  name := Vocabulary.vdcController
  every := Settings.millis settings.vdcPoll
  pass := Reconcile.flagOrphans

/-- Keeps the namespaces of virtual datacenters in line with their rows. -/
def vdcController (settings : Settings) : OwnerController where
  name := Vocabulary.vdcController
  concurrency := settings.concurrency
  retryDelay := Settings.millis settings.errorRequeue
  every := Settings.millis settings.vdcPoll
  list := (·.map (·.id)) <$> Attempt.store .listVdcs
  pass := Reconcile.vdc
  watch := { collection := .namespaces, selector := ownedLabels Vocabulary.vdcKind }
  idLabel := Vocabulary.vdcIdLabel
  beside := some (orphanScan settings)

/-- Keeps the namespaces of organizations in line with their rows. -/
def organizationController (settings : Settings) : OwnerController where
  name := Vocabulary.organizationController
  concurrency := settings.concurrency
  retryDelay := Settings.millis settings.errorRequeue
  every := Settings.millis settings.organizationPoll
  list := (·.map (·.id)) <$> Attempt.store .listOrganizations
  pass := Reconcile.organization
  watch := { collection := .namespaces, selector := ownedLabels Vocabulary.organizationKind }
  idLabel := Vocabulary.organizationIdLabel

/-- Marks the rows of machines that are gone. -/
def vmSweeper (settings : Settings) : Rounds where
  name := Vocabulary.vmController
  every := Settings.millis settings.vmResync
  pass := Reconcile.sweep

end TenantCloud
