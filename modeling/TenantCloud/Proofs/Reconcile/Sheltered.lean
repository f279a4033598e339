import TenantCloud.Proofs.Cluster.Isolation
import TenantCloud.Proofs.Effect.Runs
import TenantCloud.Proofs.Reconcile.OwnerCalls

/-!
# Sheltered namespaces

A `Site` is a world with the names of the namespaces that passes for virtual datacenters created
in it. Each call of a pass is carried out or fails without effect (`Site.Responds`). At a site that
is `Site.Sheltered`, each of those namespaces waits for its policy or has it. Most calls leave
everything alone that this depends on (`Site.same_carry`); for the others, when they keep it. Only
writing a policy and taking a mark off need a precondition (`Site.Sheltered.createPolicy`,
`Site.Sheltered.unmark`).
-/

set_option autoImplicit false

namespace TenantCloud

/-- A world, and the namespaces that passes for virtual datacenters created in it and that were not
deleted since. -/
structure Site where
  world : World
  made : List String := []

namespace Site

/-- The namespaces that are made after a call of a pass is carried out. -/
def madeAfter (p : OwnerPass) (s : Site) : Call → List String
  | .cluster (.createNamespace object) =>
    match p with
    | .vdc _ =>
      if s.world.cluster.namespaces.contains object.name then s.made else object.name :: s.made
    | _ => s.made
  | .cluster (.deleteNamespace n) => s.made.filter (· ≠ n)
  | _ => s.made

/-- The site after a call of a pass is carried out. -/
def carry (p : OwnerPass) (c : Call) (s : Site) : Site :=
  ⟨(World.perform c s.world).2, s.madeAfter p c⟩

/-- A call is carried out, or it fails and has no effect. -/
inductive Responds (p : OwnerPass) : Responses Site
  | carried (c : Call) (s : Site) : Responds p c s (World.perform c s.world).1 (s.carry p c)
  | failed (c : Call) (s : Site) (e : Error) : Responds p c s (.error e) s

/-- Each namespace that is made is there and waits for its policy or has it. In a run that began in
a tidy cluster, the policy is the one that lets nothing in. -/
structure Sheltered (tidy : Prop) (s : Site) : Prop where
  marked : ∀ n ∈ s.made, ∃ pending, s.world.cluster.mark? n = some pending ∧
    (pending = true ∨ (s.world.cluster.isolation? n).isSome)
  housed : tidy → s.world.cluster.Housed
  denied : tidy → ∀ n ∈ s.made, ∀ p, s.world.cluster.isolation? n = some p → p = .defaultDeny

end Site

/-! ## Calls that leave marks and policies alone -/

/-- The call creates and deletes no namespace, names no mark of waiting and writes no policy and no
row. -/
def Call.IsQuiet : Call → Prop
  | .store c => c.isWrite = false
  | .cluster (.patchNamespaceMetadata _ _ a) =>
    a.get? Vocabulary.isolationPendingAnnotation = none
  | .cluster (.createNamespace _) | .cluster (.deleteNamespace _)
  | .cluster (.createNetworkPolicy ..) => False
  | .cluster _ => True

namespace Site

/-- Nothing that isolation depends on is different. -/
structure Same (s s' : Site) : Prop where
  made : s'.made = s.made
  mark : ∀ n, s'.world.cluster.mark? n = s.world.cluster.mark? n
  policies : s'.world.cluster.policies = s.world.cluster.policies
  store : s'.world.store = s.world.store

variable {tidy : Prop} {p : OwnerPass} {s s' : Site}

theorem Same.refl (s : Site) : Same s s := ⟨rfl, fun _ => rfl, rfl, rfl⟩

theorem Same.isolation (h : Same s s') (n : String) :
    s'.world.cluster.isolation? n = s.world.cluster.isolation? n := by
  rw [Cluster.isolation?, h.policies]
  rfl

theorem Sheltered.same (hs : s.Sheltered tidy) (h : Same s s') : s'.Sheltered tidy where
  marked := by
    intro n hn
    rw [h.mark, h.isolation]
    exact hs.marked n (h.made ▸ hn)
  housed := by
    intro ht k q hk
    rw [h.mark]
    exact hs.housed ht k q (h.policies ▸ hk)
  denied := by
    intro ht n hn
    rw [h.isolation]
    exact hs.denied ht n (h.made ▸ hn)

theorem same_store {c : StoreCall} (h : c.isWrite = false) : Same s (s.carry p (.store c)) := by
  cases c <;> first | exact .refl s | cases h

theorem same_changeCluster {r : Result Cluster}
    (h : ∀ c, r = .ok c → (∀ n, c.mark? n = s.world.cluster.mark? n) ∧
      c.policies = s.world.cluster.policies) :
    Same s ⟨(s.world.changeCluster r).2, s.made⟩ := by
  cases r with
  | error e => exact .refl s
  | ok c =>
    obtain ⟨hm, hp⟩ := h c rfl
    exact ⟨rfl, hm, hp, rfl⟩

theorem same_patch {n : String} {l a : LabelPatch}
    (h : a.get? Vocabulary.isolationPendingAnnotation = none) :
    Same s (s.carry p (.cluster (.patchNamespaceMetadata n l a))) := by
  refine same_changeCluster fun c hc => ?_
  obtain ⟨ns, hns, he⟩ | ⟨-, he⟩ := s.world.cluster.patchNamespace_cases n l a <;> rw [he] at hc
  · cases hc
    exact ⟨Cluster.mark?_patched hns h, rfl⟩
  · cases hc

theorem same_carry {c : Call} (h : c.IsQuiet) : Same s (s.carry p c) := by
  cases c with
  | store c => exact same_store h
  | cluster c =>
    cases c with
    | patchNamespaceMetadata n l a => exact same_patch h
    | replaceResourceQuotaHard n name hard =>
      refine same_changeCluster fun c hc => ?_
      exact (Cluster.replaceQuotaHard_same hc).imp_left Cluster.mark?_congr
    | setVirtualMachineLabel n name k v =>
      refine same_changeCluster fun c hc => ?_
      exact (Cluster.setVmLabel_same hc).imp_left Cluster.mark?_congr
    | createNamespace ns => exact h.elim
    | deleteNamespace n => exact h.elim
    | createNetworkPolicy n q => exact h.elim
    | createResourceQuota n q => exact ⟨rfl, fun _ => rfl, rfl, rfl⟩
    | _ => exact .refl s

/-- No call of the cluster changes a row. -/
theorem store_carry (c : ClusterCall) :
    (s.carry p (.cluster c)).world.store = s.world.store :=
  World.store_performCluster c s.world

/-! ## Calls that isolation depends on -/

theorem Sheltered.createNamespace (hs : s.Sheltered tidy) {ns : Namespace}
    (hns : ∀ id, p = .vdc id → ns.isPending = true) :
    (s.carry p (.cluster (.createNamespace ns))).Sheltered tidy := by
  have hmark : ∀ m, (s.carry p (.cluster (.createNamespace ns))).world.cluster.mark? m = _ :=
    Cluster.mark?_createNamespace ns
  have hkeep : ∀ m b, s.world.cluster.mark? m = some b →
      (s.carry p (.cluster (.createNamespace ns))).world.cluster.mark? m = some b := by
    intro m b hb
    rw [hmark, hb]
    split <;> rfl
  -- A name that is made now and was not before is that of the new namespace.
  have hmade : ∀ m ∈ (s.carry p (.cluster (.createNamespace ns))).made, m ∈ s.made ∨
      (m = ns.name ∧ s.world.cluster.mark? m = none ∧ ns.isPending = true) := by
    intro m hm
    cases p with
    | vdc id =>
      change m ∈ (if _ then _ else _) at hm
      split at hm
      · exact .inl hm
      · rename_i hc
        rcases List.mem_cons.1 hm with rfl | hm
        · refine .inr ⟨rfl, ?_, hns id rfl⟩
          rw [← Cluster.isSome_mark?] at hc
          exact Option.not_isSome_iff_eq_none.1 hc
        · exact .inl hm
    | organization id => exact .inl hm
    | orphans => exact .inl hm
  refine ⟨fun m hm => ?_, fun ht k q hk => ?_, fun ht m hm q hq => ?_⟩
  · rcases hmade m hm with hm | ⟨rfl, hnone, hpend⟩
    · obtain ⟨b, hb, h⟩ := hs.marked m hm
      exact ⟨b, hkeep m b hb, h⟩
    · refine ⟨true, ?_, .inl rfl⟩
      rw [hmark, hnone, hpend, if_pos rfl]
      rfl
  · obtain ⟨b, hb⟩ := Option.isSome_iff_exists.1 (hs.housed ht k q hk)
    rw [hkeep k.ns b hb]
    rfl
  · rcases hmade m hm with hm | ⟨rfl, hnone, -⟩
    · exact hs.denied ht m hm q hq
    · have := hs.housed ht _ q hq
      rw [hnone] at this
      cases this

theorem Sheltered.deleteNamespace (hs : s.Sheltered tidy) (n : String) :
    (s.carry p (.cluster (.deleteNamespace n))).Sheltered tidy := by
  have hmark : ∀ m, m ≠ n →
      (s.carry p (.cluster (.deleteNamespace n))).world.cluster.mark? m =
        s.world.cluster.mark? m := fun m hm =>
    (Cluster.mark?_deleteNamespace n m).trans (if_neg hm)
  have hpol : ∀ k, (s.carry p (.cluster (.deleteNamespace n))).world.cluster.policies.get? k =
      if k.ns = n then none else s.world.cluster.policies.get? k :=
    Cluster.policies_deleteNamespace n
  have hmade : ∀ m ∈ (s.carry p (.cluster (.deleteNamespace n))).made, m ∈ s.made ∧ m ≠ n := by
    intro m hm
    obtain ⟨hm, hn⟩ := List.mem_filter.1 hm
    exact ⟨hm, of_decide_eq_true hn⟩
  refine ⟨fun m hm => ?_, fun ht k q hk => ?_, fun ht m hm q hq => ?_⟩
  · obtain ⟨hm, hn⟩ := hmade m hm
    rw [hmark m hn, Cluster.isolation?, hpol, if_neg hn]
    exact hs.marked m hm
  · rw [hpol] at hk
    split at hk
    · cases hk
    · rename_i hn
      rw [hmark _ hn]
      exact hs.housed ht k q hk
  · obtain ⟨hm, hn⟩ := hmade m hm
    rw [Cluster.isolation?, hpol, if_neg hn] at hq
    exact hs.denied ht m hm q hq

/-- The policy may be written where the namespace is. -/
theorem Sheltered.createPolicy (hs : s.Sheltered tidy) {n : String}
    (hn : (s.world.cluster.mark? n).isSome) :
    (s.carry p (.cluster (.createNetworkPolicy n .defaultDeny))).Sheltered tidy := by
  have hpol : ∀ k,
      (s.carry p (.cluster (.createNetworkPolicy n .defaultDeny))).world.cluster.policies.get? k =
        if k = ⟨n, Vocabulary.policyName⟩ then
          (s.world.cluster.isolation? n <|> some .defaultDeny)
        else s.world.cluster.policies.get? k := Cluster.policies_createPolicy n
  refine ⟨fun m hm => ?_, fun ht k q hk => ?_, fun ht m hm q hq => ?_⟩
  · obtain ⟨b, hb, h⟩ := hs.marked m hm
    refine ⟨b, hb, h.imp_right fun h => ?_⟩
    rw [Cluster.isolation?, hpol]
    split
    · rename_i hk
      cases hk
      obtain ⟨q, hq⟩ := Option.isSome_iff_exists.1 h
      rw [hq]
      rfl
    · exact h
  · rw [hpol] at hk
    split at hk
    · rename_i he
      rw [he]
      exact hn
    · exact hs.housed ht k q hk
  · rw [Cluster.isolation?, hpol] at hq
    split at hq
    · rename_i hk
      cases hk
      cases h : s.world.cluster.isolation? n with
      | none =>
        rw [h] at hq
        exact (Option.some.inj hq).symm
      | some r =>
        rw [h] at hq
        cases hq
        exact hs.denied ht n hm q h
    · exact hs.denied ht m hm q hq

theorem isolation?_createPolicy (n : String) :
    ((s.carry p (.cluster (.createNetworkPolicy n .defaultDeny))).world.cluster.isolation?
      n).isSome := by
  refine (congrArg Option.isSome (Cluster.policies_createPolicy n _)).trans ?_
  rw [if_pos rfl]
  cases s.world.cluster.isolation? n <;> rfl

/-- The call that takes the mark off. -/
def unmark (n : String) : Call :=
  .cluster (.patchNamespaceMetadata n ∅ (LabelPatch.unset Vocabulary.isolationPendingAnnotation))

theorem mark?_unmark (n m : String) : (s.carry p (unmark n)).world.cluster.mark? m =
    if m = n then (s.world.cluster.mark? n).map fun _ => false else s.world.cluster.mark? m := by
  show (s.world.changeCluster (s.world.cluster.patchNamespace n _ _)).2.cluster.mark? m = _
  obtain ⟨ns, hns, he⟩ | ⟨hns, he⟩ := s.world.cluster.patchNamespace_cases n ∅
    (LabelPatch.unset Vocabulary.isolationPendingAnnotation) <;> rw [he]
  · have hsome : s.world.cluster.mark? n = some ns.isPending := by
      rw [Cluster.mark?, hns]
      rfl
    show Cluster.mark? { s.world.cluster with namespaces := _ } m = _
    rw [Cluster.mark?_insert, Namespace.isPending_unset, hsome]
    rfl
  · have hnone : s.world.cluster.mark? n = none := by
      rw [Cluster.mark?, hns]
      rfl
    show s.world.cluster.mark? m = _
    split
    · rename_i hm
      rw [hm, hnone]
      rfl
    · rfl

theorem policies_unmark (n : String) :
    (s.carry p (unmark n)).world.cluster.policies = s.world.cluster.policies := by
  show (s.world.changeCluster (s.world.cluster.patchNamespace n _ _)).2.cluster.policies = _
  obtain ⟨ns, -, he⟩ | ⟨-, he⟩ := s.world.cluster.patchNamespace_cases n ∅
    (LabelPatch.unset Vocabulary.isolationPendingAnnotation) <;> rw [he] <;> rfl

theorem isolation?_unmark (n m : String) :
    (s.carry p (unmark n)).world.cluster.isolation? m = s.world.cluster.isolation? m := by
  rw [Cluster.isolation?, policies_unmark]
  rfl

/-- The mark may be taken off where the policy is. -/
theorem Sheltered.unmark (hs : s.Sheltered tidy) {n : String}
    (hn : (s.world.cluster.isolation? n).isSome) : (s.carry p (unmark n)).Sheltered tidy := by
  refine ⟨fun m hm => ?_, fun ht k q hk => ?_, fun ht m hm => ?_⟩
  · obtain ⟨b, hb, h⟩ := hs.marked m hm
    rw [mark?_unmark, isolation?_unmark]
    split
    · rename_i he
      subst he
      exact ⟨false, by rw [hb]; rfl, .inr hn⟩
    · exact ⟨b, hb, h⟩
  · rw [policies_unmark] at hk
    have := hs.housed ht k q hk
    rw [mark?_unmark]
    split
    · rename_i he
      rw [Option.isSome_map, ← he]
      exact this
    · exact this
  · rw [isolation?_unmark]
    exact hs.denied ht m hm

end Site

end TenantCloud
