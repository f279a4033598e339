import TenantCloud.Object.Metadata

/-!
# Resource quotas

A `ResourceQuota` limits what its namespace may use; `hard` maps a resource to the text of a
quantity.
-/

set_option autoImplicit false

namespace TenantCloud

/-- A requirement that an object must meet to be counted. -/
structure ScopeRequirement where
  operator : String
  scopeName : String
  values : Option (List String)
  deriving DecidableEq

instance : Wire ScopeRequirement where
  read? j := do
    let ms ← j.members?
    return {
      operator := ← ms.orElse? "operator" ""
      scopeName := ← ms.orElse? "scopeName" ""
      values := ← ms.optional? "values" }
  write r := .record [
    .mem "operator" r.operator, .mem "scopeName" r.scopeName, .opt "values" r.values]

/-- Requirements that an object must all meet to be counted. -/
structure ScopeSelector where
  matchExpressions : Option (List ScopeRequirement)
  deriving DecidableEq

instance : Wire ScopeSelector where
  read? j := do return { matchExpressions := ← (← j.members?).optional? "matchExpressions" }
  write s := .record [.opt "matchExpressions" s.matchExpressions]

/-- The limits of a quota and what they count. -/
structure QuotaSpec where
  hard : Option (Dict String String) := none
  scopeSelector : Option ScopeSelector := none
  scopes : Option (List String) := none
  deriving DecidableEq

instance : Wire QuotaSpec where
  read? j := do
    let ms ← j.members?
    return {
      hard := ← ms.optional? "hard"
      scopeSelector := ← ms.optional? "scopeSelector"
      scopes := ← ms.optional? "scopes" }
  write s := .record [
    .opt "hard" s.hard, .opt "scopeSelector" s.scopeSelector, .opt "scopes" s.scopes]

/-- The limits in force and what is used of them. -/
structure QuotaStatus where
  hard : Option (Dict String String)
  used : Option (Dict String String)
  deriving DecidableEq

instance : Wire QuotaStatus where
  read? j := do
    let ms ← j.members?
    return { hard := ← ms.optional? "hard", used := ← ms.optional? "used" }
  write s := .record [.opt "hard" s.hard, .opt "used" s.used]

/-- Limits on the resources of a namespace. -/
structure ResourceQuota where
  metadata : Metadata
  spec : Option QuotaSpec := none
  status : Option QuotaStatus := none
  deriving DecidableEq, Inhabited

namespace ResourceQuota

def kind : ObjectKind := ⟨"v1", "ResourceQuota"⟩

/-- The hard limits, none where the quota has no specification. -/
def hard (q : ResourceQuota) : Dict String String := (q.spec.bind (·.hard)).getD ∅

/-- `q` with exactly these hard limits; the rest of its specification stays. -/
def setHard (q : ResourceQuota) (hard : Dict String String) : ResourceQuota :=
  { q with spec := some { q.spec.getD {} with hard := some hard } }

@[simp] theorem hard_setHard (q : ResourceQuota) (h : Dict String String) :
    (q.setHard h).hard = h := rfl

end ResourceQuota

instance : Wire ResourceQuota where
  read? j := do
    let ms ← j.members?
    guard (ResourceQuota.kind.admits ms)
    return {
      metadata := ← ms.orElse? "metadata" {}
      spec := ← ms.optional? "spec"
      status := ← ms.optional? "status" }
  write q := ResourceQuota.kind.write [
    .mem "metadata" q.metadata, .opt "spec" q.spec, .opt "status" q.status]

end TenantCloud
