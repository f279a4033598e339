import TenantCloud.Proofs.Object.Patches
import TenantCloud.Reconcile.Vdc

/-!
# Marks and policies of namespaces

Two things say how far the isolation of a namespace is: `Cluster.mark?`, whether it is there and
still waits for its policy, and `Cluster.isolation?`, the policy itself. For each operation on a
cluster that touches namespaces or policies, what both are afterwards.
-/

set_option autoImplicit false

namespace TenantCloud

theorem Result.of_bind_ok {α β : Type} {r : Result α} {f : α → Result β} {b : β}
    (h : r >>= f = .ok b) : ∃ a, r = .ok a ∧ f a = .ok b := by
  cases r with
  | error e => cases h
  | ok a => exact ⟨a, rfl, h⟩

/-- The namespace waits for its policy. -/
def Namespace.isPending (ns : Namespace) : Bool :=
  ns.hasAnnotation Vocabulary.isolationPendingAnnotation

theorem Namespace.isPending_patched {a : LabelPatch} (ns : Namespace) (l : LabelPatch)
    (h : a.get? Vocabulary.isolationPendingAnnotation = none) :
    (ns.patched l a).isPending = ns.isPending := by
  unfold isPending
  rw [hasAnnotation_patched, h]

theorem Namespace.isPending_unset (ns : Namespace) (l : LabelPatch) :
    (ns.patched l (LabelPatch.unset Vocabulary.isolationPendingAnnotation)).isPending = false := by
  unfold isPending
  rw [hasAnnotation_patched, LabelPatch.unset, Dict.get?_single]
  rfl

namespace Cluster

variable (c : Cluster)

/-- Whether the namespace waits for its policy; none where it is missing. -/
def mark? (n : String) : Option Bool := (c.namespaces.get? n).map (·.isPending)

/-- The policy that isolates the namespace. -/
def isolation? (n : String) : Option NetworkPolicy := c.policies.get? ⟨n, Vocabulary.policyName⟩

/-- Policies lie in namespaces that are there. -/
def Housed : Prop := ∀ k p, c.policies.get? k = some p → (c.mark? k.ns).isSome

theorem isSome_mark? (n : String) : (c.mark? n).isSome = c.namespaces.contains n :=
  Option.isSome_map

variable {c}

theorem get?_create {κ ν : Type} [Ord κ] [Std.TransOrd κ] [Std.LawfulEqOrd κ] [DecidableEq κ]
    (d : Dict κ ν) (k k' : κ) (v : ν) :
    (create d k v).get? k' = if k' = k then (d.get? k <|> some v) else d.get? k' := by
  unfold create Dict.contains
  cases h : d.get? k with
  | none => simp [Dict.get?_insert]
  | some w =>
    simp only [Option.isSome_some, if_true]
    split
    · rename_i hk
      rw [hk, h]
      rfl
    · rfl

theorem mark?_createNamespace (ns : Namespace) (n : String) :
    (c.createNamespace ns).mark? n =
      if n = ns.name then (c.mark? n <|> some ns.isPending) else c.mark? n := by
  show ((create c.namespaces ns.name ns).get? n).map _ = _
  rw [get?_create]
  split
  · rename_i h
    subst h
    unfold mark?
    cases c.namespaces.get? ns.name <;> rfl
  · rfl

/-- A patch of a namespace that is there changes that namespace only; another one fails. -/
theorem patchNamespace_cases (c : Cluster) (n : String) (l a : LabelPatch) :
    (∃ ns, c.namespaces.get? n = some ns ∧ c.patchNamespace n l a =
      .ok { c with namespaces := c.namespaces.insert n (ns.patched l a) }) ∨
    (c.namespaces.get? n = none ∧ c.patchNamespace n l a = .error (missing "namespace")) := by
  unfold patchNamespace change
  cases h : c.namespaces.get? n with
  | none => exact .inr ⟨rfl, rfl⟩
  | some ns => exact .inl ⟨ns, rfl, rfl⟩

theorem mark?_insert (c : Cluster) (n m : String) (ns : Namespace) :
    { c with namespaces := c.namespaces.insert n ns : Cluster }.mark? m =
      if m = n then some ns.isPending else c.mark? m := by
  show ((c.namespaces.insert n ns).get? m).map _ = _
  rw [Dict.get?_insert]
  split <;> rfl

/-- A patch that leaves the mark alone changes no mark. -/
theorem mark?_patched {n : String} {ns : Namespace} {l a : LabelPatch}
    (h : c.namespaces.get? n = some ns)
    (ha : a.get? Vocabulary.isolationPendingAnnotation = none) (m : String) :
    { c with namespaces := c.namespaces.insert n (ns.patched l a) : Cluster }.mark? m =
      c.mark? m := by
  rw [mark?_insert, ns.isPending_patched l ha]
  split
  · rename_i hm
    rw [hm, mark?, h]
    rfl
  · rfl

theorem mark?_deleteNamespace (n m : String) :
    (c.deleteNamespace n).mark? m = if m = n then none else c.mark? m := by
  show ((c.namespaces.erase n).get? m).map _ = _
  rw [Dict.get?_erase]
  split <;> rfl

theorem policies_deleteNamespace (n : String) (k : ObjectKey) :
    (c.deleteNamespace n).policies.get? k = if k.ns = n then none else c.policies.get? k := by
  show (c.policies.filter fun k _ => k.ns != n).get? k = _
  rw [Dict.get?_filter]
  by_cases h : k.ns = n
  · cases c.policies.get? k <;> simp [h]
  · cases c.policies.get? k <;> simp [h]

/-- A new limit of a quota changes neither marks nor policies. -/
theorem replaceQuotaHard_same {c' : Cluster} {n name : String} {hard : Dict String String}
    (h : c.replaceQuotaHard n name hard = .ok c') :
    c'.namespaces = c.namespaces ∧ c'.policies = c.policies := by
  obtain ⟨quotas, -, he⟩ := Result.of_bind_ok h
  cases he
  exact ⟨rfl, rfl⟩

/-- A new label of a machine changes neither marks nor policies. -/
theorem setVmLabel_same {c' : Cluster} {n name k v : String}
    (h : c.setVmLabel n name k v = .ok c') :
    c'.namespaces = c.namespaces ∧ c'.policies = c.policies := by
  obtain ⟨vms, -, he⟩ := Result.of_bind_ok h
  cases he
  exact ⟨rfl, rfl⟩

theorem mark?_congr {c' : Cluster} (h : c'.namespaces = c.namespaces) (n : String) :
    c'.mark? n = c.mark? n := by
  rw [mark?, h]
  rfl

theorem policies_createPolicy (n : String) (k : ObjectKey) :
    (c.createPolicy n .defaultDeny).policies.get? k =
      if k = ⟨n, Vocabulary.policyName⟩ then (c.isolation? n <|> some .defaultDeny)
      else c.policies.get? k :=
  get?_create _ _ _ _

end Cluster

end TenantCloud
