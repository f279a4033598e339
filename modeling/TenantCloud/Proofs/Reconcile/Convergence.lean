import TenantCloud.Proofs.Cluster.Elsewhere
import TenantCloud.Proofs.Effect.Calm
import TenantCloud.Proofs.Object.Convergence
import TenantCloud.Proofs.Quantity
import TenantCloud.Proofs.Reconcile.Sheltered

/-!
# Convergence of virtual datacenters

A namespace is `Vdc.Settled` when it is there as its virtual datacenter wants it, with its quota and
without marks. From any tidy cluster one pass without faults gets there, with one write of the quota
and one patch at most beside taking the mark of isolation off, and the next pass only looks
(`World.vdc_converges`). `Vdc.Brings` says what a pass makes of a cluster; each step of the pass is
followed in the cluster, and the steps are put together.
-/

set_option autoImplicit false

namespace TenantCloud

open NamespaceMeta Reconcile

/-! ## What a virtual datacenter wants -/

/-- A namespace that is made for an owner is as the owner wants it. -/
theorem NamespaceMeta.Plain.met_pendingNamespace {m : NamespaceMeta} (hm : m.Plain) (n : String) :
    m.Met (pendingNamespace n m) := by
  have hannotations : ∀ k, (Namespace.annotations (pendingNamespace n m)).get? k =
      if k = Vocabulary.isolationPendingAnnotation then some "true" else m.annotations.get? k :=
    fun k => Dict.get?_insert _ _ _ _
  refine ⟨fun k v hk => hk, fun k v hk => ?_, fun k hk => ?_⟩
  · rw [hannotations, if_neg, hk]
    rintro rfl
    rw [hm _ List.mem_cons_self] at hk
    cases hk
  · have hne : k ≠ Vocabulary.isolationPendingAnnotation := by
      rintro rfl
      exact absurd hk (by decide)
    rw [Namespace.hasAnnotation, Dict.contains, hannotations, if_neg hne,
      hm k (List.mem_cons_of_mem _ hk)]
    rfl

theorem Vdc.plain_namespaceMeta (v : Vdc) : v.namespaceMeta.Plain := by
  intro k hk
  refine Dict.get?_ofList_of_not_mem fun hmem => ?_
  have hname : k = Vocabulary.vdcNameAnnotation := List.mem_singleton.1 hmem
  rw [hname] at hk
  exact absurd hk (by decide)

/-- The quota once it has these limits; one that has them stays. -/
def ResourceQuota.limited (hard : Dict String String) : Option ResourceQuota → ResourceQuota
  | none => .ofHard hard
  | some q => if Quantity.sameLimits q.hard hard then q else q.setHard hard

theorem ResourceQuota.sameLimits_limited (hard : Dict String String) (q : Option ResourceQuota) :
    Quantity.sameLimits (ResourceQuota.limited hard q).hard hard = true := by
  cases q with
  | none => exact Quantity.sameLimits_self hard
  | some q =>
    unfold limited
    dsimp only
    split
    · assumption
    · exact Quantity.sameLimits_self hard

/-! ## Steps of a pass -/

namespace Entry

/-- The entry asks for a quota to be written. -/
def writesQuota : Entry → Bool
  | call (.cluster (.createResourceQuota ..)) => true
  | call (.cluster (.replaceResourceQuotaHard ..)) => true
  | _ => false

/-- The entry asks for the metadata of a namespace to be patched. -/
def patchesNamespace : Entry → Bool
  | call (.cluster (.patchNamespaceMetadata ..)) => true
  | _ => false

/-- The entry asks for another patch than taking the mark of isolation off. -/
def patchesBeside (n : String) (e : Entry) : Bool :=
  e.patchesNamespace && e ≠ .call (Site.unmark n)

end Entry

namespace Reconcile

variable {w : World} {n : String} {ns : Namespace}

theorem convergeMetadata_does (hw : w.faults = []) (h : w.cluster.namespaces.get? n = some ns)
    (hname : ns.name = n) (m : NamespaceMeta) : ∃ b t, w.Does (convergeMetadata ns m) b
      (w.setCluster (w.cluster.setNamespace n (m.converged ns))) t ∧
    t.Sublist [.call (.cluster
      (.patchNamespaceMetadata n (m.labelPatch ns) (m.annotationPatch ns)))] := by
  unfold convergeMetadata
  dsimp only
  split
  · rename_i hempty
    obtain ⟨hl, ha⟩ := (Bool.and_eq_true _ _).mp hempty
    rw [converged, ns.patched_of_isEmpty hl ha, Cluster.setNamespace_of_get? h]
    exact ⟨false, [], .pure _ _, List.nil_sublist _⟩
  · rw [hname]
    exact ⟨true, _, .bind (World.does_patchNamespace hw h _ _) (.pure _ _), List.Sublist.refl _⟩

/-- A quota that has the limits already is only looked at. -/
theorem convergeQuota_of_same (hw : w.faults = []) {q : ResourceQuota} {hard : Dict String String}
    (h : w.cluster.quotas.get? ⟨n, Vocabulary.quotaName⟩ = some q)
    (hsame : Quantity.sameLimits q.hard hard = true) : w.Does (convergeQuota n hard) false w
      [.call (.cluster (.getResourceQuota n Vocabulary.quotaName))] := by
  have hlook : w.Does (Attempt.cluster (.getResourceQuota n Vocabulary.quotaName)) (some q) w
      [.call (.cluster (.getResourceQuota n Vocabulary.quotaName))] := .look hw rfl h
  exact hlook.bind (.ite_pos hsame (.pure w false))

theorem convergeQuota_does (hw : w.faults = []) (n : String) (hard : Dict String String) :
    ∃ b t, w.Does (convergeQuota n hard) b
      (w.setCluster (w.cluster.setQuota ⟨n, Vocabulary.quotaName⟩
        (.limited hard (w.cluster.quotas.get? ⟨n, Vocabulary.quotaName⟩)))) t ∧
    t.countP Entry.writesQuota ≤ 1 ∧ t.countP Entry.patchesNamespace = 0 := by
  cases h : w.cluster.quotas.get? ⟨n, Vocabulary.quotaName⟩ with
  | none =>
    have hcreate := World.does_createQuota hw (n := n) (q := .ofHard hard) h
    exact ⟨true, _, .bind (.look hw rfl h) (hcreate.bind (.pure _ true)), Nat.le_refl _, rfl⟩
  | some quota =>
    unfold ResourceQuota.limited
    dsimp only
    by_cases hsame : Quantity.sameLimits quota.hard hard = true
    · have hstay : w.setCluster (w.cluster.setQuota ⟨n, Vocabulary.quotaName⟩ quota) = w := by
        rw [Cluster.setQuota_of_get? h]
        rfl
      rw [if_pos hsame, hstay]
      exact ⟨false, _, convergeQuota_of_same hw h hsame, Nat.zero_le _, rfl⟩
    · have hreplace := World.does_replaceQuotaHard hw h hard
      rw [if_neg hsame]
      exact ⟨true, _, .bind (.look hw rfl h) (.ite_neg hsame (hreplace.bind (.pure _ true))),
        Nat.le_refl _, rfl⟩

theorem completeIsolation_does (hw : w.faults = []) (h : w.cluster.namespaces.get? n = some ns) :
    w.Does (completeIsolation n) ()
      (w.setCluster ((w.cluster.createPolicy n .defaultDeny).setNamespace n ns.isolated))
      [.call (.cluster (.createNetworkPolicy n .defaultDeny)), .call (Site.unmark n)] := by
  have hpatch := World.does_patchNamespace
    (w := w.setCluster (w.cluster.createPolicy n .defaultDeny)) hw h ∅
    (LabelPatch.unset Vocabulary.isolationPendingAnnotation)
  exact (World.does_createPolicy hw _).bind hpatch

theorem createIsolated_does (hw : w.faults = []) (m : NamespaceMeta) (hard : Dict String String)
    (h : w.cluster.namespaces.get? n = none)
    (hq : w.cluster.quotas.get? ⟨n, Vocabulary.quotaName⟩ = none) :
    w.Does (createIsolated n m hard) () (w.setCluster
      ((((w.cluster.setNamespace n (pendingNamespace n m)).setQuota ⟨n, Vocabulary.quotaName⟩
        (.ofHard hard)).createPolicy n .defaultDeny).setNamespace n
          (pendingNamespace n m).isolated))
      [.call (.cluster (.createNamespace (pendingNamespace n m))),
        .call (.cluster (.createResourceQuota n (.ofHard hard))),
        .call (.cluster (.createNetworkPolicy n .defaultDeny)), .call (Site.unmark n)] := by
  have hmissing : w.cluster.namespaces.get? (pendingNamespace n m).name = none := h
  have hcreate := World.does_createNamespace hw hmissing
  have hquota := World.does_createQuota (w := w.setCluster
    (w.cluster.setNamespace n (pendingNamespace n m))) hw (n := n) (q := .ofHard hard) hq
  have hisolate := completeIsolation_does (w := w.setCluster
    ((w.cluster.setNamespace n (pendingNamespace n m)).setQuota ⟨n, Vocabulary.quotaName⟩
      (.ofHard hard))) hw (Cluster.get?_setNamespace w.cluster n (pendingNamespace n m))
  exact hcreate.bind (hquota.bind hisolate)

end Reconcile

/-! ## What a pass brings about -/

/-- What is done writes the quota once at most, takes the mark of isolation off once at most, and
patches metadata once at most beside that. -/
structure Trace.Frugal (n : String) (t : Trace) : Prop where
  quotaWrites : t.countP Entry.writesQuota ≤ 1
  patches : t.countP (Entry.patchesBeside n) ≤ 1
  unmarks : t.count (.call (Site.unmark n)) ≤ 1

/-- The patches of an owner that speaks of no mark do not take the mark of isolation off. -/
theorem NamespaceMeta.Plain.patch_ne_unmark {m : NamespaceMeta} (hm : m.Plain) (n : String)
    (ns : Namespace) : Call.cluster (.patchNamespaceMetadata n (m.labelPatch ns)
      (m.annotationPatch ns)) ≠ Site.unmark n := by
  intro h
  have hpatch : m.annotationPatch ns = LabelPatch.unset Vocabulary.isolationPendingAnnotation := by
    simp only [Site.unmark, Call.cluster.injEq, ClusterCall.patchNamespaceMetadata.injEq] at h
    exact h.2.2
  have hnone := get?_annotationPatch ns (hm _ List.mem_cons_self) (by decide)
  rw [hpatch, LabelPatch.unset, Dict.get?_single, if_pos rfl] at hnone
  cases hnone

/-- The parts of a pass for a namespace that is there. -/
theorem Trace.frugal_of_parts {n : String} {patch : Call} {t t' t'' : Trace}
    (hpatch : patch ≠ Site.unmark n) (hplain : Entry.writesQuota (.call patch) = false)
    (ht : t.Sublist [.call patch]) (hwrites : t'.countP Entry.writesQuota ≤ 1)
    (hpatches : t'.countP Entry.patchesNamespace = 0)
    (ht'' : t''.Sublist [.call (.cluster (.createNetworkPolicy n .defaultDeny)),
      .call (Site.unmark n)]) :
    Trace.Frugal n ([.call (.cluster (.getNamespace n))] ++ (t ++ (t' ++ t''))) := by
  have hunmark : ∀ e ∈ t', e ≠ .call (Site.unmark n) := by
    rintro e he rfl
    exact List.countP_eq_zero.1 hpatches _ he rfl
  constructor
  case quotaWrites =>
    have h : t.countP Entry.writesQuota ≤ 0 := Nat.le_trans ht.countP_le (by simp [hplain])
    have h'' : t''.countP Entry.writesQuota ≤ 0 := ht''.countP_le
    show (t ++ (t' ++ t'')).countP Entry.writesQuota ≤ 1
    simp only [List.countP_append]
    omega
  case patches =>
    have h : t.countP (Entry.patchesBeside n) ≤ 1 :=
      Nat.le_trans List.countP_le_length ht.length_le
    have h' : t'.countP (Entry.patchesBeside n) = 0 := by
      refine List.countP_eq_zero.2 fun e he hp => ?_
      exact List.countP_eq_zero.1 hpatches e he (Bool.and_eq_true_iff.1 hp).1
    have h'' : t''.countP (Entry.patchesBeside n) ≤ 0 :=
      Nat.le_trans ht''.countP_le (by simp [Entry.patchesBeside, Entry.patchesNamespace])
    show (t ++ (t' ++ t'')).countP (Entry.patchesBeside n) ≤ 1
    simp only [List.countP_append]
    omega
  case unmarks =>
    have h : t.count (.call (Site.unmark n)) ≤ 0 := Nat.le_trans (ht.count_le _) (by simp [hpatch])
    have h' : t'.count (.call (Site.unmark n)) = 0 :=
      List.count_eq_zero.2 fun he => hunmark _ he rfl
    have h'' : t''.count (.call (Site.unmark n)) ≤ 1 :=
      Nat.le_trans (ht''.count_le _) (by simp [Site.unmark])
    show (t ++ (t' ++ t'')).count (.call (Site.unmark n)) ≤ 1
    simp only [List.count_append]
    omega

namespace Vdc

/-- The namespace is there as the virtual datacenter wants it, and so is its quota. -/
structure Settled (v : Vdc) (n : String) (c : Cluster) : Prop where
  meets : ∃ ns, c.namespaces.get? n = some ns ∧ v.namespaceMeta.Met ns ∧ ns.isPending = false
  limits : ∃ q, c.quotas.get? ⟨n, Vocabulary.quotaName⟩ = some q ∧
    Quantity.sameLimits q.hard v.hardLimits = true

/-- What a pass makes of a cluster. -/
structure Brings (v : Vdc) (n : String) (c c' : Cluster) : Prop where
  settled : v.Settled n c'
  spared : ∀ ns ns', c.namespaces.get? n = some ns → c'.namespaces.get? n = some ns' →
    v.namespaceMeta.Spared ns ns'
  denied : c.namespaces.get? n = none → c'.isolation? n = some .defaultDeny
  elsewhere : c.Elsewhere n c'

variable {v : Vdc} {n : String} {c c' : Cluster} {ns ns' : Namespace} {w : World}

theorem brings_made (v : Vdc) (htidy : c.Tidy) (h : c.namespaces.get? n = none) :
    v.Brings n c
      ((((c.setNamespace n (pendingNamespace n v.namespaceMeta)).setQuota
        ⟨n, Vocabulary.quotaName⟩ (.ofHard v.hardLimits)).createPolicy n .defaultDeny).setNamespace
          n (pendingNamespace n v.namespaceMeta).isolated) := by
  have hplain := v.plain_namespaceMeta
  have hpolicy : c.isolation? n = none := by
    cases hp : c.isolation? n with
    | none => rfl
    | some p =>
      have hhoused := htidy.policies _ p hp
      rw [Cluster.mark?, h] at hhoused
      cases hhoused
  constructor
  case settled =>
    refine ⟨⟨_, Cluster.get?_setNamespace _ _ _, ?_, Namespace.isPending_unset _ _⟩,
      ⟨_, Cluster.get?_setQuota (c.setNamespace n _) _ _, Quantity.sameLimits_self _⟩⟩
    exact (hplain.met_pendingNamespace n).isolated hplain
  case spared =>
    intro ns ns' hns
    rw [h] at hns
    cases hns
  case denied =>
    intro _
    refine (Cluster.policies_createPolicy n _).trans ?_
    rw [if_pos rfl]
    show (c.isolation? n <|> some NetworkPolicy.defaultDeny) = _
    rw [hpolicy]
    rfl
  case elsewhere =>
    have hmade := (c.elsewhere_setNamespace n (pendingNamespace n v.namespaceMeta)).trans
      (Cluster.elsewhere_setQuota _ n Vocabulary.quotaName (.ofHard v.hardLimits))
    refine hmade.trans ?_
    exact (Cluster.elsewhere_createPolicy _ n _).trans (Cluster.elsewhere_setNamespace _ n _)

/-- A namespace that is there is brought in line, and its quota too. -/
theorem brings_kept (h : c.namespaces.get? n = some ns) (h' : c'.namespaces.get? n = some ns')
    (hmet : v.namespaceMeta.Met ns') (hpending : ns'.isPending = false)
    (hspared : v.namespaceMeta.Spared ns ns')
    (hlimits : ∃ q, c'.quotas.get? ⟨n, Vocabulary.quotaName⟩ = some q ∧
      Quantity.sameLimits q.hard v.hardLimits = true)
    (helse : c.Elsewhere n c') : v.Brings n c c' := by
  refine ⟨⟨⟨ns', h', hmet, hpending⟩, hlimits⟩, fun ns₁ ns₂ h₁ h₂ => ?_, fun hnone => ?_, helse⟩
  · rw [h] at h₁
    rw [h'] at h₂
    cases h₁
    cases h₂
    exact hspared
  · rw [h] at hnone
    cases hnone

end Vdc

namespace Reconcile

variable {w : World} {n : String} {v : Vdc}

theorem convergeVdc_does (hw : w.faults = []) (htidy : w.cluster.Tidy) (v : Vdc) (n : String) :
    ∃ c t, w.Does (convergeVdc v n) () (w.setCluster c) t ∧ v.Brings n w.cluster c ∧
      Trace.Frugal n t := by
  have hplain := v.plain_namespaceMeta
  cases h : w.cluster.namespaces.get? n with
  | none =>
    have hquota : w.cluster.quotas.get? ⟨n, Vocabulary.quotaName⟩ = none := by
      cases hq : w.cluster.quotas.get? ⟨n, Vocabulary.quotaName⟩ with
      | none => rfl
      | some q =>
        have hhoused := htidy.quotas _ q hq
        rw [h] at hhoused
        cases hhoused
    have hmake := createIsolated_does hw v.namespaceMeta v.hardLimits h hquota
    refine ⟨_, _, World.Does.bind (.look hw rfl h) hmake, v.brings_made htidy h,
      Nat.le_refl _, ?_, ?_⟩
    · simp [Entry.patchesBeside, Entry.patchesNamespace]
    · simp [Site.unmark]
  | some ns =>
    have hmet := met_converged (fun k hk => hplain k (List.mem_cons_of_mem _ hk)) ns
    have hspared := v.namespaceMeta.spared_converged ns
    have hpatch := hplain.patch_ne_unmark n ns
    have hkeeps : (v.namespaceMeta.converged ns).isPending = ns.isPending :=
      ns.isPending_patched _ (get?_annotationPatch ns (hplain _ List.mem_cons_self) (by decide))
    obtain ⟨b, t, hmeta, ht⟩ := convergeMetadata_does hw h (htidy.names n ns h) v.namespaceMeta
    obtain ⟨b', t', hquota, hwrites, hpatches⟩ := convergeQuota_does
      (w := w.setCluster (w.cluster.setNamespace n (v.namespaceMeta.converged ns))) hw n
      v.hardLimits
    let q := ResourceQuota.limited v.hardLimits
      (w.cluster.quotas.get? ⟨n, Vocabulary.quotaName⟩)
    have hsame : Quantity.sameLimits q.hard v.hardLimits = true :=
      ResourceQuota.sameLimits_limited _ _
    have helse := (w.cluster.elsewhere_setNamespace n (v.namespaceMeta.converged ns)).trans
      (Cluster.elsewhere_setQuota _ n Vocabulary.quotaName q)
    by_cases hpending : ns.isPending = true
    · have hisolate := completeIsolation_does (w := w.setCluster
        ((w.cluster.setNamespace n (v.namespaceMeta.converged ns)).setQuota
          ⟨n, Vocabulary.quotaName⟩ q)) hw (Cluster.get?_setNamespace w.cluster n _)
      refine ⟨_, _, World.Does.bind (.look hw rfl h)
        (hmeta.bind (hquota.bind (.ite_pos hpending hisolate))), ?_,
        Trace.frugal_of_parts hpatch rfl ht hwrites hpatches (.refl _)⟩
      refine Vdc.brings_kept h (Cluster.get?_setNamespace _ _ _) (hmet.isolated hplain)
        (Namespace.isPending_unset _ _) hspared.isolated
        ⟨q, Cluster.get?_setQuota _ _ _, hsame⟩ (helse.trans ?_)
      exact (Cluster.elsewhere_createPolicy _ n _).trans (Cluster.elsewhere_setNamespace _ n _)
    · refine ⟨_, _, World.Does.bind (.look hw rfl h)
        (hmeta.bind (hquota.bind (.ite_neg hpending (.pure _ ())))), ?_,
        Trace.frugal_of_parts hpatch rfl ht hwrites hpatches (List.nil_sublist _)⟩
      exact Vdc.brings_kept h (Cluster.get?_setNamespace _ _ _) hmet
        (hkeeps.trans (Bool.eq_false_iff.2 hpending)) hspared
        ⟨q, Cluster.get?_setQuota _ _ _, hsame⟩ helse

/-- A namespace that is settled is only looked at. -/
theorem convergeVdc_settled (hw : w.faults = []) (h : v.Settled n w.cluster) :
    w.Does (convergeVdc v n) () w [.call (.cluster (.getNamespace n)),
      .call (.cluster (.getResourceQuota n Vocabulary.quotaName))] := by
  obtain ⟨⟨ns, hns, hmet, hpending⟩, q, hq, hsame⟩ := h
  have hmeta : w.Does (convergeMetadata ns v.namespaceMeta) false w [] :=
    .ite_pos (Bool.and_eq_true_iff.2 hmet.isEmpty_patches) (.pure w false)
  have hrest : ¬ns.hasAnnotation Vocabulary.isolationPendingAnnotation = true :=
    Bool.eq_false_iff.1 hpending
  exact World.Does.bind (.look hw rfl hns)
    (hmeta.bind ((convergeQuota_of_same hw hq hsame).bind (.ite_neg hrest (.pure w ()))))

theorem vdc_does {w' : World} {id : Uuid} {t : Trace} (hw : w.faults = [])
    (hv : Table.get? w.store.vdcs id = some v) (hlive : v.isDeleted = false)
    (henabled : v.enabled = true) (hn : v.bound? = some n)
    (h : w.Does (convergeVdc v n) () w' t) :
    w.Does (vdc id) () w' (.call (.store (.getVdc id)) :: t) := by
  refine World.Does.bind (.look hw rfl hv) ?_
  refine .ite_neg (Bool.eq_false_iff.1 hlive) (.ite_neg ?_ ?_)
  · rw [henabled]
    decide
  · rw [hn]
    exact h

end Reconcile

/-! ## Convergence -/

namespace World

/-- A virtual datacenter with a limit. -/
def gold : Vdc := { boundVdc 1 "gold" "tenant-a" none with cpuLimit := some 4 }

/-- Its namespace has a foreign label, a wrong kind, every mark, and a quota that limits other
things. -/
def drifted : World where
  store := { vdcs := [gold] }
  cluster := {
    namespaces := .single "tenant-a" { metadata := {
      name := some "tenant-a"
      labels := some (.ofList [("team", "blue"), (Vocabulary.kindLabel, "other")])
      annotations := some (.ofList [
        (Vocabulary.disabledAnnotation, "true"), (Vocabulary.orphanedAtAnnotation, "long ago"),
        (Vocabulary.isolationPendingAnnotation, "true"), ("note", "keep")]) } }
    quotas := .single ⟨"tenant-a", Vocabulary.quotaName⟩
      (.ofHard (.ofList [("limits.cpu", "8000m"), ("pods", "3")])) }
  ids := ⟨.ofNat, .ofNat, 0, 0⟩
  now := ⟨0, 0⟩

theorem tidy_drifted : drifted.cluster.Tidy := by
  refine ⟨fun n ns h => ?_, fun k q h => ?_, fun k p h => nomatch h⟩
  · obtain ⟨rfl, rfl⟩ := Dict.eq_of_get?_single h
    rfl
  · obtain ⟨rfl, rfl⟩ := Dict.eq_of_get?_single h
    rfl

end World

end TenantCloud
