import TenantCloud.Object.Metadata

/-!
# Network policies

A `NetworkPolicy` says which traffic the pods of its namespace may receive and send. A direction
that `policyTypes` lists is closed but for what a rule of that direction opens.
-/

set_option autoImplicit false

namespace TenantCloud

/-- A number or a name. -/
inductive PortName
  | number (n : Int)
  | name (s : String)
  deriving DecidableEq

instance : Wire PortName where
  read?
    | .str s => some (.name s)
    | j => j.int32?.map .number
  write
    | .number n => .int n
    | .name s => .str s

/-- A requirement on one label. -/
structure LabelRequirement where
  key : String
  operator : String
  values : Option (List String)
  deriving DecidableEq

instance : Wire LabelRequirement where
  read? j := do
    let ms ← j.members?
    return {
      key := ← ms.orElse? "key" ""
      operator := ← ms.orElse? "operator" ""
      values := ← ms.optional? "values" }
  write r := .record [.mem "key" r.key, .mem "operator" r.operator, .opt "values" r.values]

/-- Objects chosen by their labels, all of them where nothing is required. -/
structure LabelSelector where
  matchExpressions : Option (List LabelRequirement) := none
  matchLabels : Option Labels := none
  deriving DecidableEq, Inhabited

instance : Wire LabelSelector where
  read? j := do
    let ms ← j.members?
    return {
      matchExpressions := ← ms.optional? "matchExpressions"
      matchLabels := ← ms.optional? "matchLabels" }
  write s := .record [
    .opt "matchExpressions" s.matchExpressions, .opt "matchLabels" s.matchLabels]

/-- A range of addresses with holes. -/
structure AddressBlock where
  cidr : String
  holes : Option (List String)
  deriving DecidableEq

instance : Wire AddressBlock where
  read? j := do
    let ms ← j.members?
    return { cidr := ← ms.orElse? "cidr" "", holes := ← ms.optional? "except" }
  write b := .record [.mem "cidr" b.cidr, .opt "except" b.holes]

/-- The other end of a connection. -/
structure PolicyPeer where
  addresses : Option AddressBlock
  namespaceSelector : Option LabelSelector
  podSelector : Option LabelSelector
  deriving DecidableEq

instance : Wire PolicyPeer where
  read? j := do
    let ms ← j.members?
    return {
      addresses := ← ms.optional? "ipBlock"
      namespaceSelector := ← ms.optional? "namespaceSelector"
      podSelector := ← ms.optional? "podSelector" }
  write p := .record [
    .opt "ipBlock" p.addresses, .opt "namespaceSelector" p.namespaceSelector,
    .opt "podSelector" p.podSelector]

/-- A port or a range of ports of one protocol. -/
structure PolicyPort where
  endPort : Option Int := none
  port : Option PortName := none
  protocol : Option String := none
  deriving DecidableEq

instance : Wire PolicyPort where
  read? j := do
    let ms ← j.members?
    return {
      endPort := ← ms.optionalWith? "endPort" Json.int32?
      port := ← ms.optional? "port"
      protocol := ← ms.optional? "protocol" }
  write p := .record [
    .optInt "endPort" p.endPort, .opt "port" p.port, .opt "protocol" p.protocol]

/-- Traffic to be let out: to any of the peers, at any of the ports. -/
structure EgressRule where
  ports : Option (List PolicyPort) := none
  peers : Option (List PolicyPeer) := none
  deriving DecidableEq

instance : Wire EgressRule where
  read? j := do
    let ms ← j.members?
    return { ports := ← ms.optional? "ports", peers := ← ms.optional? "to" }
  write r := .record [.opt "ports" r.ports, .opt "to" r.peers]

/-- Traffic to be let in: from any of the peers, at any of the ports. -/
structure IngressRule where
  peers : Option (List PolicyPeer)
  ports : Option (List PolicyPort)
  deriving DecidableEq

instance : Wire IngressRule where
  read? j := do
    let ms ← j.members?
    return { peers := ← ms.optional? "from", ports := ← ms.optional? "ports" }
  write r := .record [.opt "from" r.peers, .opt "ports" r.ports]

/-- The pods that a policy holds for, and what it opens to them. -/
structure PolicySpec where
  egress : Option (List EgressRule) := none
  ingress : Option (List IngressRule) := none
  podSelector : LabelSelector := {}
  policyTypes : Option (List String) := none
  deriving DecidableEq

instance : Wire PolicySpec where
  read? j := do
    let ms ← j.members?
    return {
      egress := ← ms.optional? "egress"
      ingress := ← ms.optional? "ingress"
      podSelector := ← ms.orElse? "podSelector" {}
      policyTypes := ← ms.optional? "policyTypes" }
  write s := .record [
    .opt "egress" s.egress, .opt "ingress" s.ingress, .mem "podSelector" s.podSelector,
    .opt "policyTypes" s.policyTypes]

/-- A network policy. -/
structure NetworkPolicy where
  metadata : Metadata
  spec : Option PolicySpec := none
  deriving DecidableEq, Inhabited

def NetworkPolicy.kind : ObjectKind := ⟨"networking.k8s.io/v1", "NetworkPolicy"⟩

instance : Wire NetworkPolicy where
  read? j := do
    let ms ← j.members?
    guard (NetworkPolicy.kind.admits ms)
    return { metadata := ← ms.orElse? "metadata" {}, spec := ← ms.optional? "spec" }
  write p := NetworkPolicy.kind.write [.mem "metadata" p.metadata, .opt "spec" p.spec]

end TenantCloud
