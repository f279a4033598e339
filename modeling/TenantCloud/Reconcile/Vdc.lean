import TenantCloud.Quantity
import TenantCloud.Reconcile.Namespace

/-!
# Passes for virtual datacenters

A virtual datacenter that is enabled has a namespace with its metadata, a quota with its limits and
a policy that isolates the namespace. A new namespace is marked until the policy is written, so
that `Vdc.reconcile` finishes the isolation after an interruption. A disabled virtual datacenter
has its namespace annotated, a deleted one has it removed. `Vdc.flagOrphans` annotates namespaces
that no row claims.
-/

set_option autoImplicit false

namespace TenantCloud

/-! ## What a virtual datacenter wants -/

namespace Vdc

/-- The metadata of its namespace. -/
def namespaceMeta (v : Vdc) : NamespaceMeta where
  labels := .ofList [
    (Vocabulary.managedByLabel, Vocabulary.managedByValue),
    (Vocabulary.kindLabel, Vocabulary.vdcKind),
    (Vocabulary.vdcIdLabel, v.id.render),
    (Vocabulary.organizationIdLabel, v.organizationId.render)]
  annotations := .ofList [(Vocabulary.vdcNameAnnotation, v.name)]

/-- A limit that is positive, as a quantity with a unit. -/
def limit (key : String) (n : Option Int) (unit : String) : List (String × String) :=
  (n.filter (0 < ·)).toList.map fun n => (key, toString n ++ unit)

/-- The hard limits of its quota; what is not limited is left out. -/
def hardLimits (v : Vdc) : Dict String String :=
  .ofList (limit "limits.cpu" v.cpuLimit "" ++ limit "limits.memory" v.memoryLimit "Mi" ++
    limit "requests.storage" v.storageLimit "Gi")

end Vdc

/-- Labels of the objects inside the namespace of a virtual datacenter. -/
def managedLabels : Labels := .single Vocabulary.managedByLabel Vocabulary.managedByValue

/-- The quota with these hard limits. -/
def ResourceQuota.ofHard (hard : Dict String String) : ResourceQuota where
  metadata := { name := some Vocabulary.quotaName, labels := some managedLabels }
  spec := some { hard := some hard }

/-- The policy that lets nothing in, and out only look-ups of names. -/
def NetworkPolicy.defaultDeny : NetworkPolicy where
  metadata := { name := some Vocabulary.policyName, labels := some managedLabels }
  spec := some {
    policyTypes := some ["Ingress", "Egress"]
    egress := some [{ ports := some [dns "UDP", dns "TCP"] }] }
where
  dns (protocol : String) : PolicyPort := { port := some (.number 53), protocol := some protocol }

/-! ## Passes -/

namespace Reconcile

open Attempt

/-- Write the policy, then take off the mark of waiting for it. -/
def completeIsolation (ns : String) : Attempt Unit := do
  cluster (.createNetworkPolicy ns .defaultDeny)
  cluster (.patchNamespaceMetadata ns ∅ (LabelPatch.unset Vocabulary.isolationPendingAnnotation))

/-- Create a namespace that waits for its policy, its quota, and then the policy. -/
def createIsolated (ns : String) (desired : NamespaceMeta) (hard : Dict String String) :
    Attempt Unit := do
  let object := desired.toNamespace ns
  cluster (.createNamespace { object with
    metadata := object.metadata.setAnnotation Vocabulary.isolationPendingAnnotation "true" })
  cluster (.createResourceQuota ns (.ofHard hard))
  completeIsolation ns

/-- Bring the quota of a namespace to these limits with one write at most. -/
def convergeQuota (ns : String) (hard : Dict String String) : Attempt Bool := do
  match ← cluster (.getResourceQuota ns Vocabulary.quotaName) with
  | none =>
    cluster (.createResourceQuota ns (.ofHard hard))
    return true
  | some quota =>
    if Quantity.sameLimits quota.hard hard then return false
    else
      cluster (.replaceResourceQuotaHard ns Vocabulary.quotaName hard)
      return true

/-- Bring the namespace of an enabled virtual datacenter to what it wants. -/
def convergeVdc (vdc : Vdc) (ns : String) : Attempt Unit := do
  match ← cluster (.getNamespace ns) with
  | none => createIsolated ns vdc.namespaceMeta vdc.hardLimits
  | some found =>
    let _ ← convergeMetadata found vdc.namespaceMeta
    let _ ← convergeQuota ns vdc.hardLimits
    if found.hasAnnotation Vocabulary.isolationPendingAnnotation then completeIsolation ns

/-- An enabled virtual datacenter must have a namespace. -/
def unbound (vdc : Vdc) : Error :=
  .malformed ("VDC " ++ vdc.id.render ++ " is enabled but has no namespace")

/-- One pass for the virtual datacenter with an identity. -/
def vdc (id : Uuid) : Attempt Unit := do
  match ← store (.getVdc id) with
  | none => measure (.skippedUpdate Vocabulary.vdcController "not_found")
  | some vdc =>
    if vdc.isDeleted then
      match vdc.bound? with
      | some ns => let _ ← ensureAbsent ns
      | none => return ()
    else if !vdc.enabled then
      match vdc.bound? with
      | some ns => let _ ← markDisabled ns
      | none => return ()
    else
      match vdc.bound? with
      | some ns => convergeVdc vdc ns
      | none => throw (unbound vdc)

/-! ## Orphans -/

/-- A namespace that the controllers made, that stands for no organization, that no row claims and
that is not flagged yet. -/
def isOrphan (claimed : List String) (ns : Namespace) : Bool :=
  ns.labels.get? Vocabulary.kindLabel != some Vocabulary.organizationKind &&
    !claimed.contains ns.name && !ns.hasAnnotation Vocabulary.orphanedAtAnnotation

/-- Annotate each of these namespaces with the time, and count them. -/
def flagEach : List Namespace → Attempt Nat
  | [] => return 0
  | ns :: rest => do
    let now ← clock
    cluster (.patchNamespaceMetadata ns.name ∅
      (LabelPatch.set Vocabulary.orphanedAtAnnotation now.renderSeconds))
    return (← flagEach rest) + 1

/-- Annotate the namespaces that no row claims, rows that are deleted included, and count them. -/
def flagOrphans : Attempt Nat := do
  let vdcs ← store .listVdcs
  let claimed := vdcs.filterMap (·.bound?)
  let namespaces ← cluster .listManagedNamespaces
  flagEach (namespaces.filter (isOrphan claimed))

end Reconcile

end TenantCloud
