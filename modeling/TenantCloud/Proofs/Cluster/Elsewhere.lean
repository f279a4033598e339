import TenantCloud.Proofs.Cluster.Isolation

/-!
# One namespace at a time

`Cluster.Elsewhere` says that two clusters differ at most in one namespace and its quotas and
policies. Each operation on a namespace is of this kind, and so is a sequence of them. In a cluster
that is `Cluster.Tidy`, a namespace that is missing has neither quotas nor policies.
-/

set_option autoImplicit false

namespace TenantCloud

namespace Cluster

/-- Namespaces go by their names, and quotas and policies lie in namespaces that are there. -/
structure Tidy (c : Cluster) : Prop where
  names : ∀ n ns, c.namespaces.get? n = some ns → ns.name = n
  quotas : ∀ k q, c.quotas.get? k = some q → (c.namespaces.get? k.ns).isSome
  policies : c.Housed

/-- Outside a namespace everything is as it was. -/
structure Elsewhere (n : String) (c c' : Cluster) : Prop where
  namespaces : ∀ m, m ≠ n → c'.namespaces.get? m = c.namespaces.get? m
  quotas : ∀ k : ObjectKey, k.ns ≠ n → c'.quotas.get? k = c.quotas.get? k
  policies : ∀ k : ObjectKey, k.ns ≠ n → c'.policies.get? k = c.policies.get? k
  vms : c'.vms = c.vms
  instances : c'.instances = c.instances
  templateInstances : c'.templateInstances = c.templateInstances

variable {c c' c'' : Cluster} {n : String}

theorem Elsewhere.refl (n : String) (c : Cluster) : Elsewhere n c c :=
  ⟨fun _ _ => rfl, fun _ _ => rfl, fun _ _ => rfl, rfl, rfl, rfl⟩

theorem Elsewhere.trans (h : Elsewhere n c c') (h' : Elsewhere n c' c'') : Elsewhere n c c'' where
  namespaces m hm := (h'.namespaces m hm).trans (h.namespaces m hm)
  quotas k hk := (h'.quotas k hk).trans (h.quotas k hk)
  policies k hk := (h'.policies k hk).trans (h.policies k hk)
  vms := h'.vms.trans h.vms
  instances := h'.instances.trans h.instances
  templateInstances := h'.templateInstances.trans h.templateInstances

/-- The cluster with a namespace in place of the one that is there. -/
def setNamespace (c : Cluster) (n : String) (ns : Namespace) : Cluster :=
  { c with namespaces := c.namespaces.insert n ns }

/-- The cluster with a quota in place of the one that is there. -/
def setQuota (c : Cluster) (k : ObjectKey) (q : ResourceQuota) : Cluster :=
  { c with quotas := c.quotas.insert k q }

theorem elsewhere_setNamespace (c : Cluster) (n : String) (ns : Namespace) :
    Elsewhere n c (c.setNamespace n ns) := by
  refine { Elsewhere.refl n c with namespaces := fun m hm => ?_ }
  exact (Dict.get?_insert _ _ _ _).trans (if_neg hm)

theorem elsewhere_setQuota (c : Cluster) (n name : String) (q : ResourceQuota) :
    Elsewhere n c (c.setQuota ⟨n, name⟩ q) := by
  refine { Elsewhere.refl n c with quotas := fun k hk => ?_ }
  exact (Dict.get?_insert _ _ _ _).trans (if_neg fun h => hk (congrArg ObjectKey.ns h))

theorem elsewhere_createPolicy (c : Cluster) (n : String) (p : NetworkPolicy) :
    Elsewhere n c (c.createPolicy n p) := by
  refine { Elsewhere.refl n c with policies := fun k hk => ?_ }
  exact (get?_create _ _ _ _).trans (if_neg fun h => hk (congrArg ObjectKey.ns h))

theorem get?_setNamespace (c : Cluster) (n : String) (ns : Namespace) :
    (c.setNamespace n ns).namespaces.get? n = some ns := Dict.get?_insert_self _ _ _

theorem get?_setQuota (c : Cluster) (k : ObjectKey) (q : ResourceQuota) :
    (c.setQuota k q).quotas.get? k = some q := Dict.get?_insert_self _ _ _

/-! ## Operations as changes of one namespace -/

theorem setNamespace_of_get? {ns : Namespace} (h : c.namespaces.get? n = some ns) :
    c.setNamespace n ns = c := by
  rw [setNamespace, Dict.insert_of_get? h]

theorem setQuota_of_get? {k : ObjectKey} {q : ResourceQuota} (h : c.quotas.get? k = some q) :
    c.setQuota k q = c := by
  rw [setQuota, Dict.insert_of_get? h]

theorem patchNamespace_of_get? {ns : Namespace} (h : c.namespaces.get? n = some ns)
    (l a : LabelPatch) : c.patchNamespace n l a = .ok (c.setNamespace n (ns.patched l a)) := by
  obtain ⟨ns', h', heq⟩ | ⟨hnone, -⟩ := c.patchNamespace_cases n l a
  · obtain rfl := Option.some.inj (h.symm.trans h')
    exact heq
  · cases h.symm.trans hnone

theorem create_of_get?_eq_none {κ ν : Type} [Ord κ] [Std.TransOrd κ] [Std.LawfulEqOrd κ]
    {d : Dict κ ν} {k : κ} (h : d.get? k = none) (v : ν) : create d k v = d.insert k v := by
  unfold create Dict.contains
  rw [h]
  rfl

theorem createNamespace_of_missing {ns : Namespace} (h : c.namespaces.get? ns.name = none) :
    c.createNamespace ns = c.setNamespace ns.name ns := by
  rw [createNamespace, create_of_get?_eq_none h]
  rfl

theorem createQuota_of_missing {q : ResourceQuota}
    (h : c.quotas.get? ⟨n, q.metadata.objectName⟩ = none) :
    c.createQuota n q = c.setQuota ⟨n, q.metadata.objectName⟩ q := by
  rw [createQuota, create_of_get?_eq_none h]
  rfl

theorem replaceQuotaHard_of_get? {name : String} {q : ResourceQuota}
    (h : c.quotas.get? ⟨n, name⟩ = some q) (hard : Dict String String) :
    c.replaceQuotaHard n name hard = .ok (c.setQuota ⟨n, name⟩ (q.setHard hard)) := by
  unfold replaceQuotaHard change
  rw [h]
  rfl

end Cluster

end TenantCloud
