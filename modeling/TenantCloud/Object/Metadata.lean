import TenantCloud.Json.Wire

/-!
# Metadata of cluster objects

`Metadata` is what every object of the cluster carries, `objectName` the name it goes by, and
`ObjectReference` how an event points to an object.
-/

set_option autoImplicit false

namespace TenantCloud

/-- Labels and annotations. -/
abbrev Labels := Dict String String

/-- An object that another one belongs to. -/
structure OwnerReference where
  apiVersion : String
  blockOwnerDeletion : Option Bool
  controller : Option Bool
  kind : String
  name : String
  uid : String
  deriving DecidableEq

instance : Wire OwnerReference where
  read? j := do
    let ms ← j.members?
    return {
      apiVersion := ← ms.orElse? "apiVersion" ""
      blockOwnerDeletion := ← ms.optional? "blockOwnerDeletion"
      controller := ← ms.optional? "controller"
      kind := ← ms.orElse? "kind" ""
      name := ← ms.orElse? "name" ""
      uid := ← ms.orElse? "uid" "" }
  write r := .record [
    .mem "apiVersion" r.apiVersion, .opt "blockOwnerDeletion" r.blockOwnerDeletion,
    .opt "controller" r.controller, .mem "kind" r.kind, .mem "name" r.name, .mem "uid" r.uid]

/-- Which writer set which fields of an object. -/
structure ManagedFields where
  apiVersion : Option String
  fieldsType : Option String
  fields : Option Json
  manager : Option String
  operation : Option String
  subresource : Option String
  time : Option Timestamp
  deriving DecidableEq

instance : Wire ManagedFields where
  read? j := do
    let ms ← j.members?
    return {
      apiVersion := ← ms.optional? "apiVersion"
      fieldsType := ← ms.optional? "fieldsType"
      fields := ← ms.optional? "fieldsV1"
      manager := ← ms.optional? "manager"
      operation := ← ms.optional? "operation"
      subresource := ← ms.optional? "subresource"
      time := ← ms.optional? "time" }
  write f := .record [
    .opt "apiVersion" f.apiVersion, .opt "fieldsType" f.fieldsType, .opt "fieldsV1" f.fields,
    .opt "manager" f.manager, .opt "operation" f.operation, .opt "subresource" f.subresource,
    .optSeconds "time" f.time]

/-- What every object of the cluster carries. -/
structure Metadata where
  annotations : Option Labels := none
  creationTimestamp : Option Timestamp := none
  deletionGracePeriodSeconds : Option Int := none
  deletionTimestamp : Option Timestamp := none
  finalizers : Option (List String) := none
  generateName : Option String := none
  generation : Option Int := none
  labels : Option Labels := none
  managedFields : Option (List ManagedFields) := none
  name : Option String := none
  /-- The namespace that the object lies in. -/
  ns : Option String := none
  ownerReferences : Option (List OwnerReference) := none
  resourceVersion : Option String := none
  selfLink : Option String := none
  uid : Option String := none
  deriving DecidableEq, Inhabited

instance : Wire Metadata where
  read? j := do
    let ms ← j.members?
    return {
      annotations := ← ms.optional? "annotations"
      creationTimestamp := ← ms.optional? "creationTimestamp"
      deletionGracePeriodSeconds := ← ms.optionalWith? "deletionGracePeriodSeconds" Json.int64?
      deletionTimestamp := ← ms.optional? "deletionTimestamp"
      finalizers := ← ms.optional? "finalizers"
      generateName := ← ms.optional? "generateName"
      generation := ← ms.optionalWith? "generation" Json.int64?
      labels := ← ms.optional? "labels"
      managedFields := ← ms.optional? "managedFields"
      name := ← ms.optional? "name"
      ns := ← ms.optional? "namespace"
      ownerReferences := ← ms.optional? "ownerReferences"
      resourceVersion := ← ms.optional? "resourceVersion"
      selfLink := ← ms.optional? "selfLink"
      uid := ← ms.optional? "uid" }
  write m := .record [
    .opt "annotations" m.annotations, .optSeconds "creationTimestamp" m.creationTimestamp,
    .optInt "deletionGracePeriodSeconds" m.deletionGracePeriodSeconds,
    .optSeconds "deletionTimestamp" m.deletionTimestamp, .opt "finalizers" m.finalizers,
    .opt "generateName" m.generateName, .optInt "generation" m.generation,
    .opt "labels" m.labels, .opt "managedFields" m.managedFields, .opt "name" m.name,
    .opt "namespace" m.ns, .opt "ownerReferences" m.ownerReferences,
    .opt "resourceVersion" m.resourceVersion, .opt "selfLink" m.selfLink, .opt "uid" m.uid]

namespace Metadata

/-- The name of an object, else the stem its name will be made from, else no text. -/
def objectName (m : Metadata) : String := (m.name <|> m.generateName).getD ""

/-- The namespace of an object, no text where it has none. -/
def objectNamespace (m : Metadata) : String := m.ns.getD ""

def label? (m : Metadata) (key : String) : Option String := m.labels.bind (·.get? key)

def annotation? (m : Metadata) (key : String) : Option String := m.annotations.bind (·.get? key)

/-- A label that has a text. -/
def filledLabel? (m : Metadata) (key : String) : Option String := (m.label? key).filter (· ≠ "")

/-- `m` with one label set. -/
def setLabel (m : Metadata) (key value : String) : Metadata :=
  { m with labels := some ((m.labels.getD ∅).insert key value) }

/-- `m` with one annotation set. -/
def setAnnotation (m : Metadata) (key value : String) : Metadata :=
  { m with annotations := some ((m.annotations.getD ∅).insert key value) }

end Metadata

/-- A pointer to an object of the cluster. -/
structure ObjectReference where
  apiVersion : Option String := none
  fieldPath : Option String := none
  kind : Option String := none
  name : Option String := none
  ns : Option String := none
  resourceVersion : Option String := none
  uid : Option String := none
  deriving DecidableEq

instance : Wire ObjectReference where
  read? j := do
    let ms ← j.members?
    return {
      apiVersion := ← ms.optional? "apiVersion"
      fieldPath := ← ms.optional? "fieldPath"
      kind := ← ms.optional? "kind"
      name := ← ms.optional? "name"
      ns := ← ms.optional? "namespace"
      resourceVersion := ← ms.optional? "resourceVersion"
      uid := ← ms.optional? "uid" }
  write r := .record [
    .opt "apiVersion" r.apiVersion, .opt "fieldPath" r.fieldPath, .opt "kind" r.kind,
    .opt "name" r.name, .opt "namespace" r.ns, .opt "resourceVersion" r.resourceVersion,
    .opt "uid" r.uid]

/-- A kind of cluster object: its API group and version and its name. -/
structure ObjectKind where
  apiVersion : String
  name : String
  deriving DecidableEq

namespace ObjectKind

/-- The members that name the kind, in front of the others. -/
def write (k : ObjectKind) (fs : List Json.Field) : Json :=
  .record (.mem "apiVersion" k.apiVersion :: .mem "kind" k.name :: fs)

/-- An object that names a kind names this one, each time it does. -/
def admits (k : ObjectKind) (ms : Json.Members) : Bool :=
  ms.all fun m =>
    (m.1 ≠ "apiVersion" || m.2 = .str k.apiVersion) && (m.1 ≠ "kind" || m.2 = .str k.name)

/-- The reference to an object of this kind. -/
def reference (k : ObjectKind) (m : Metadata) : ObjectReference where
  apiVersion := some k.apiVersion
  kind := some k.name
  name := some m.objectName
  ns := m.ns
  uid := m.uid
  resourceVersion := m.resourceVersion

end ObjectKind

end TenantCloud
