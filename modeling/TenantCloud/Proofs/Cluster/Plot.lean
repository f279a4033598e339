import Mathlib.Logic.Function.Basic
import TenantCloud.Proofs.Cluster.Elsewhere

/-!
# Plots

A `Plot` is all that a cluster holds of one namespace: the namespace itself, and its quotas and
policies by name. A cluster consists of its plots and its machines (`Cluster.eq_of_plots`), so that
what happens to different namespaces can be told plot by plot. For each operation on a namespace,
what it makes of the plot.
-/

set_option autoImplicit false

namespace TenantCloud

/-- What a cluster holds of one namespace. -/
@[ext]
structure Plot where
  home : Option Namespace
  quotas : String → Option ResourceQuota
  policies : String → Option NetworkPolicy

namespace Plot

/-- Nothing. -/
def bare : Plot := ⟨none, fun _ => none, fun _ => none⟩

/-- The plot with this namespace. -/
def withHome (P : Plot) (ns : Namespace) : Plot := { P with home := some ns }

/-- The namespace goes by its name, and without it there is nothing. -/
structure Tidy (n : String) (P : Plot) : Prop where
  name : ∀ ns, P.home = some ns → ns.name = n
  bare : P.home = none → P = .bare

theorem tidy_bare (n : String) : bare.Tidy n := ⟨fun _ h => (nomatch h), fun _ => rfl⟩

theorem tidy_of_home {n : String} {P : Plot} {ns : Namespace} (h : P.home = some ns)
    (hname : ns.name = n) : P.Tidy n := by
  refine ⟨fun ns' h' => ?_, fun hnone => ?_⟩
  · rw [h] at h'
    cases h'
    exact hname
  · rw [h] at hnone
    cases hnone

/-- A change to the namespace that keeps its name. -/
theorem Tidy.map {n : String} {P : Plot} (h : P.Tidy n) {f : Namespace → Namespace}
    (hf : ∀ ns, (f ns).name = ns.name) : Tidy n { P with home := P.home.map f } := by
  refine ⟨fun ns hns => ?_, fun hnone => ?_⟩
  · obtain ⟨found, hfound, rfl⟩ := Option.map_eq_some_iff.1 hns
    exact (hf found).trans (h.name found hfound)
  · have hhome : P.home = none := Option.map_eq_none_iff.1 hnone
    rw [h.bare hhome]
    rfl

end Plot

namespace Cluster

/-- What the cluster holds of a namespace. -/
def plot (c : Cluster) (n : String) : Plot where
  home := c.namespaces.get? n
  quotas k := c.quotas.get? ⟨n, k⟩
  policies k := c.policies.get? ⟨n, k⟩

/-- The machines, their instances and the template instances are as they were. -/
structure Beside (c c' : Cluster) : Prop where
  vms : c'.vms = c.vms
  instances : c'.instances = c.instances
  templateInstances : c'.templateInstances = c.templateInstances

variable {c c' c'' : Cluster} {n : String}

theorem Beside.refl (c : Cluster) : c.Beside c := ⟨rfl, rfl, rfl⟩

theorem Beside.trans (h : c.Beside c') (h' : c'.Beside c'') : c.Beside c'' :=
  ⟨h'.vms.trans h.vms, h'.instances.trans h.instances,
    h'.templateInstances.trans h.templateInstances⟩

theorem Elsewhere.beside (h : c.Elsewhere n c') : c.Beside c' :=
  ⟨h.vms, h.instances, h.templateInstances⟩

/-- A cluster is its plots and what is beside them. -/
theorem eq_of_plots (h : ∀ n, c'.plot n = c.plot n) (hbeside : c.Beside c') : c' = c := by
  have hnamespaces : c'.namespaces = c.namespaces :=
    Dict.ext_get? fun n => congrArg Plot.home (h n)
  have hquotas : c'.quotas = c.quotas :=
    Dict.ext_get? fun k => congrFun (congrArg Plot.quotas (h k.ns)) k.name
  have hpolicies : c'.policies = c.policies :=
    Dict.ext_get? fun k => congrFun (congrArg Plot.policies (h k.ns)) k.name
  obtain ⟨hvms, hinstances, htemplates⟩ := hbeside
  cases c
  cases c'
  simp_all

theorem tidy_iff_plots : c.Tidy ↔ ∀ n, (c.plot n).Tidy n := by
  constructor
  · refine fun h n => ⟨fun ns hns => h.names n ns hns, fun hnone => ?_⟩
    have hquotas : ∀ k, c.quotas.get? ⟨n, k⟩ = none := by
      refine fun k => Option.eq_none_iff_forall_ne_some.2 fun q hq => ?_
      have hhoused : (c.plot n).home.isSome = true := h.quotas _ q hq
      rw [hnone] at hhoused
      cases hhoused
    have hpolicies : ∀ k, c.policies.get? ⟨n, k⟩ = none := by
      refine fun k => Option.eq_none_iff_forall_ne_some.2 fun p hp => ?_
      have hhoused : ((c.plot n).home.map Namespace.isPending).isSome = true := h.policies _ p hp
      rw [hnone] at hhoused
      cases hhoused
    exact Plot.ext hnone (funext hquotas) (funext hpolicies)
  · intro h
    have hbare : ∀ k : ObjectKey, (c.namespaces.get? k.ns).isSome = false → c.plot k.ns = .bare :=
      fun k hnone => (h k.ns).bare (Option.not_isSome_iff_eq_none.1 (Bool.eq_false_iff.1 hnone))
    refine ⟨fun n ns hns => (h n).name ns hns, fun k q hq => ?_, fun k p hp => ?_⟩
    · refine Bool.of_not_eq_false fun hnone => ?_
      have hgone := congrFun (congrArg Plot.quotas (hbare k hnone)) k.name
      cases hq.symm.trans hgone
    · rw [isSome_mark?]
      refine Bool.of_not_eq_false fun hnone => ?_
      have hgone := congrFun (congrArg Plot.policies (hbare k hnone)) k.name
      cases hp.symm.trans hgone

/-! ## Operations -/

theorem Elsewhere.plot (h : c.Elsewhere n c') {m : String} (hm : m ≠ n) :
    c'.plot m = c.plot m :=
  Plot.ext (h.namespaces m hm) (funext fun _ => h.quotas _ hm) (funext fun _ => h.policies _ hm)

theorem plot_setNamespace (c : Cluster) (n : String) (ns : Namespace) :
    (c.setNamespace n ns).plot n = (c.plot n).withHome ns :=
  Plot.ext (Dict.get?_insert_self _ _ _) rfl rfl

theorem plot_setQuota (c : Cluster) (n name : String) (q : ResourceQuota) :
    (c.setQuota ⟨n, name⟩ q).plot n =
      { c.plot n with quotas := Function.update (c.plot n).quotas name (some q) } := by
  refine Plot.ext rfl (funext fun k => ?_) rfl
  show (c.quotas.insert ⟨n, name⟩ q).get? ⟨n, k⟩ =
    Function.update (c.plot n).quotas name (some q) k
  rw [Dict.get?_insert, Function.update_apply]
  simp only [ObjectKey.mk.injEq, true_and, plot]

theorem plot_createPolicy (c : Cluster) (n : String) (p : NetworkPolicy) :
    (c.createPolicy n p).plot n = { c.plot n with
      policies := Function.update (c.plot n).policies p.metadata.objectName
        ((c.plot n).policies p.metadata.objectName <|> some p) } := by
  refine Plot.ext rfl rfl (funext fun k => ?_)
  show (create c.policies ⟨n, p.metadata.objectName⟩ p).get? ⟨n, k⟩ =
    Function.update (c.plot n).policies p.metadata.objectName _ k
  rw [get?_create, Function.update_apply]
  simp only [ObjectKey.mk.injEq, true_and, plot]

theorem plot_deleteNamespace (c : Cluster) (n : String) : (c.deleteNamespace n).plot n = .bare := by
  refine Plot.ext ?_ (funext fun k => ?_) (funext fun k => ?_)
  · exact (Dict.get?_erase _ _ _).trans (if_pos rfl)
  · refine (Dict.get?_filter _ _ _).trans ?_
    cases c.quotas.get? ⟨n, k⟩ <;> simp [Plot.bare]
  · exact (policies_deleteNamespace n _).trans (if_pos rfl)

theorem elsewhere_deleteNamespace (c : Cluster) (n : String) :
    c.Elsewhere n (c.deleteNamespace n) := by
  refine { Elsewhere.refl n c with
    namespaces := fun m hm => (Dict.get?_erase _ _ _).trans (if_neg hm)
    quotas := fun k hk => (Dict.get?_filter _ _ _).trans ?_
    policies := fun k hk => (policies_deleteNamespace n k).trans (if_neg hk) }
  cases c.quotas.get? k <;> simp [hk]

end Cluster

end TenantCloud
