import TenantCloud.Proofs.Cluster.Plot
import TenantCloud.Proofs.Effect.Idle
import TenantCloud.Proofs.Reconcile.Convergence
import TenantCloud.Proofs.Reconcile.OwnerCalls

/-!
# Duties

A row that is bound to a namespace gives its pass a `Duty` there: to clear the namespace, to mark it
as disabled, or to bring it to what the row wants. `Duty.act` says what doing the duty makes of the
plot of the namespace, whatever is there (`Duty.does`). A duty that is done leaves nothing to do
(`Duty.done_act`), and the pass only looks where that is so (`Duty.Done.does`).
-/

set_option autoImplicit false

namespace TenantCloud

open NamespaceMeta Reconcile

/-! ## Metadata that organizations want -/

namespace NamespaceMeta

theorem Plain.met_toNamespace {m : NamespaceMeta} (hm : m.Plain) (n : String) :
    m.Met (m.toNamespace n) := by
  refine ⟨fun k v hk => hk, fun k v hk => hk, fun k hk => ?_⟩
  have hnone : (m.toNamespace n).annotations.get? k = none := hm k (List.mem_cons_of_mem _ hk)
  rw [Namespace.hasAnnotation, Dict.contains, hnone]
  rfl

/-- A namespace that is as wanted stays as it is. -/
theorem Met.converged_eq {m : NamespaceMeta} {ns : Namespace} (h : m.Met ns) :
    m.converged ns = ns :=
  ns.patched_of_isEmpty h.isEmpty_patches.1 h.isEmpty_patches.2

theorem Plain.met_converged {m : NamespaceMeta} (hm : m.Plain) (ns : Namespace) :
    m.Met (m.converged ns) :=
  NamespaceMeta.met_converged (fun k hk => hm k (List.mem_cons_of_mem _ hk)) ns

theorem Plain.isPending_converged {m : NamespaceMeta} (hm : m.Plain) (ns : Namespace) :
    (m.converged ns).isPending = ns.isPending :=
  ns.isPending_patched _ (get?_annotationPatch ns (hm _ List.mem_cons_self) (by decide))

end NamespaceMeta

theorem Organization.plain_namespaceMeta (o : Organization) : o.namespaceMeta.Plain := by
  intro k hk
  refine Dict.get?_ofList_of_not_mem fun hmem => ?_
  have hname : k = Vocabulary.organizationNameAnnotation := List.mem_singleton.1 hmem
  rw [hname] at hk
  exact absurd hk (by decide)

/-! ## What is done -/

/-- The namespace with an annotation set. -/
def Namespace.annotated (ns : Namespace) (key value : String) : Namespace :=
  ns.patched ∅ (LabelPatch.set key value)

/-- The namespace marked as disabled; a mark that is there stays. -/
def Namespace.disabled (ns : Namespace) : Namespace :=
  if ns.hasAnnotation Vocabulary.disabledAnnotation then ns
  else ns.annotated Vocabulary.disabledAnnotation "true"

/-- What a row wants to be done about its namespace. -/
inductive Duty
  | clear
  | disable
  | settle (v : Vdc)
  | keep (o : Organization)

def Vdc.duty (v : Vdc) : Duty :=
  if v.isDeleted then .clear else if !v.enabled then .disable else .settle v

def Organization.duty (o : Organization) : Duty :=
  if o.isDeleted then .clear else if !o.enabled then .disable else .keep o

namespace Plot

/-- The plot with its quota brought to these limits. -/
def limited (hard : Dict String String) (P : Plot) : Plot :=
  { P with
    quotas := Function.update P.quotas Vocabulary.quotaName
      (some (.limited hard (P.quotas Vocabulary.quotaName))) }

theorem quotas_limited (hard : Dict String String) (P : Plot) :
    (P.limited hard).quotas Vocabulary.quotaName =
      some (.limited hard (P.quotas Vocabulary.quotaName)) := by
  unfold limited
  dsimp only
  rw [Function.update_self]

/-- The plot with the policy that isolates it; a policy that is there stays. -/
def denied (P : Plot) : Plot :=
  { P with
    policies := Function.update P.policies Vocabulary.policyName
      (P.policies Vocabulary.policyName <|> some .defaultDeny) }

end Plot

theorem Cluster.plot_limited (c : Cluster) (n : String) (hard : Dict String String) :
    (c.setQuota ⟨n, Vocabulary.quotaName⟩
      (.limited hard (c.quotas.get? ⟨n, Vocabulary.quotaName⟩))).plot n = (c.plot n).limited hard :=
  c.plot_setQuota n _ _

theorem Cluster.plot_denied (c : Cluster) (n : String) :
    (c.createPolicy n .defaultDeny).plot n = (c.plot n).denied :=
  c.plot_createPolicy n _

namespace Duty

/-- The steps of a pass that do the duty. -/
def attempt (n : String) : Duty → Attempt Unit
  | clear => do let _ ← ensureAbsent n
  | disable => do let _ ← markDisabled n
  | settle v => convergeVdc v n
  | keep o => convergeOrganization o n

/-- What doing the duty makes of the plot. A namespace that is missing is made as one that is there
is converged. -/
def act (n : String) : Duty → Plot → Plot
  | clear, _ => .bare
  | disable, P => { P with home := P.home.map Namespace.disabled }
  | settle v, P =>
    let ns := v.namespaceMeta.converged (P.home.getD (pendingNamespace n v.namespaceMeta))
    let P := (P.withHome ns).limited v.hardLimits
    if ns.isPending then P.denied.withHome ns.isolated else P
  | keep o, P =>
    P.withHome (o.namespaceMeta.converged (P.home.getD (o.namespaceMeta.toNamespace n)))

theorem tidy_act {n : String} {P : Plot} (h : P.Tidy n) (d : Duty) : (d.act n P).Tidy n := by
  have hname : ∀ {m : NamespaceMeta} {made : Namespace}, made.name = n →
      (m.converged (P.home.getD made)).name = n := by
    intro m made hmade
    cases hhome : P.home with
    | none => exact hmade
    | some ns => exact h.name ns hhome
  cases d with
  | clear => exact Plot.tidy_bare n
  | disable =>
    refine h.map fun ns => ?_
    unfold Namespace.disabled
    split <;> rfl
  | settle v =>
    have hkept : (v.namespaceMeta.converged
        (P.home.getD (pendingNamespace n v.namespaceMeta))).name = n := hname rfl
    unfold act
    dsimp only
    split
    · exact Plot.tidy_of_home rfl hkept
    · exact Plot.tidy_of_home rfl hkept
  | keep o => exact Plot.tidy_of_home rfl (hname rfl)

/-- Where doing the duty changes nothing. -/
def Done (n : String) (c : Cluster) : Duty → Prop
  | clear => c.namespaces.get? n = none
  | disable => ∀ ns, c.namespaces.get? n = some ns →
      ns.hasAnnotation Vocabulary.disabledAnnotation = true
  | settle v => v.Settled n c
  | keep o => ∃ ns, c.namespaces.get? n = some ns ∧ o.namespaceMeta.Met ns

variable {w : World} {n : String} {d : Duty}

/-! ## Doing a duty -/

/-- A step that leaves a namespace and its quotas and policies like this. -/
def Makes (w : World) (n : String) (a : Attempt Unit) (P : Plot) : Prop :=
  ∃ c t, w.Does a () (w.setCluster c) t ∧ w.cluster.Elsewhere n c ∧ c.plot n = P

theorem clear_makes (hw : w.faults = []) (htidy : w.cluster.Tidy) (n : String) :
    Makes w n (clear.attempt n) (clear.act n (w.cluster.plot n)) := by
  cases h : w.cluster.namespaces.get? n with
  | none =>
    have hlook : w.Does (ensureAbsent n) false w _ := .bind (.look hw rfl h) (.pure w false)
    exact ⟨w.cluster, _, hlook.bind (.pure w ()), .refl n _,
      ((Cluster.tidy_iff_plots.1 htidy) n).bare h⟩
  | some ns =>
    have hdelete : w.Does (Attempt.cluster (.deleteNamespace n)) ()
      (w.setCluster (w.cluster.deleteNamespace n)) _ := .change hw rfl
    have habsent : w.Does (ensureAbsent n) true _ _ :=
      .bind (.look hw rfl h) (hdelete.bind (.pure _ true))
    exact ⟨_, _, habsent.bind (.pure _ ()), w.cluster.elsewhere_deleteNamespace n,
      w.cluster.plot_deleteNamespace n⟩

theorem disable_makes (hw : w.faults = []) (n : String) :
    Makes w n (disable.attempt n) (disable.act n (w.cluster.plot n)) := by
  have hstay : ∀ (b : Bool) {t : Trace}, w.Does (markDisabled n) b w t →
      (w.cluster.namespaces.get? n).map Namespace.disabled = w.cluster.namespaces.get? n →
      Makes w n (disable.attempt n) (disable.act n (w.cluster.plot n)) := by
    intro b t hdoes hsame
    exact ⟨w.cluster, _, hdoes.bind (.pure w ()), .refl n _, Plot.ext hsame.symm rfl rfl⟩
  cases h : w.cluster.namespaces.get? n with
  | none => exact hstay false (.bind (.look hw rfl h) (.pure w false)) (by rw [h]; rfl)
  | some ns =>
    by_cases hmark : ns.hasAnnotation Vocabulary.disabledAnnotation = true
    · refine hstay false (.bind (.look hw rfl h) (.ite_pos hmark (.pure w false))) ?_
      rw [h]
      exact congrArg some (if_pos hmark)
    · have hpatch := World.does_patchNamespace hw h ∅
        (LabelPatch.set Vocabulary.disabledAnnotation "true")
      have hdoes : w.Does (markDisabled n) true _ _ :=
        .bind (.look hw rfl h) (.ite_neg hmark (hpatch.bind (.pure _ true)))
      refine ⟨_, _, hdoes.bind (.pure _ ()), w.cluster.elsewhere_setNamespace n _, ?_⟩
      have hnow : (w.cluster.namespaces.get? n).map Namespace.disabled =
          some (ns.annotated Vocabulary.disabledAnnotation "true") := by
        rw [h]
        exact congrArg some (if_neg hmark)
      rw [Cluster.plot_setNamespace]
      exact Plot.ext hnow.symm rfl rfl

theorem keep_makes (hw : w.faults = []) (htidy : w.cluster.Tidy) (o : Organization) (n : String) :
    Makes w n ((keep o).attempt n) ((keep o).act n (w.cluster.plot n)) := by
  cases h : w.cluster.namespaces.get? n with
  | none =>
    have hmissing : w.cluster.namespaces.get? (o.namespaceMeta.toNamespace n).name = none := h
    have hcreate := World.does_createNamespace hw hmissing
    refine ⟨_, _, .bind (.look hw rfl h) hcreate, w.cluster.elsewhere_setNamespace n _, ?_⟩
    have hmade : o.namespaceMeta.converged ((w.cluster.namespaces.get? n).getD
        (o.namespaceMeta.toNamespace n)) = o.namespaceMeta.toNamespace n := by
      rw [h]
      exact (o.plain_namespaceMeta.met_toNamespace n).converged_eq
    refine (w.cluster.plot_setNamespace n _).trans (Plot.ext ?_ rfl rfl)
    exact congrArg some hmade.symm
  | some ns =>
    obtain ⟨b, t, hmeta, -⟩ := convergeMetadata_does hw h (htidy.names n ns h) o.namespaceMeta
    refine ⟨_, _, .bind (.look hw rfl h) (hmeta.bind (.pure _ ())),
      w.cluster.elsewhere_setNamespace n _, ?_⟩
    refine (w.cluster.plot_setNamespace n _).trans (Plot.ext ?_ rfl rfl)
    show _ = some (o.namespaceMeta.converged ((w.cluster.namespaces.get? n).getD _))
    rw [h]
    rfl

theorem settle_makes (hw : w.faults = []) (htidy : w.cluster.Tidy) (v : Vdc) (n : String) :
    Makes w n ((settle v).attempt n) ((settle v).act n (w.cluster.plot n)) := by
  let c := w.cluster
  let key : ObjectKey := ⟨n, Vocabulary.quotaName⟩
  have hplain := v.plain_namespaceMeta
  cases h : c.namespaces.get? n with
  | none =>
    let made := pendingNamespace n v.namespaceMeta
    have hquota : c.quotas.get? key = none :=
      congrFun (congrArg Plot.quotas (((Cluster.tidy_iff_plots.1 htidy) n).bare h)) _
    have hmake := createIsolated_does hw v.namespaceMeta v.hardLimits h hquota
    refine ⟨_, _, .bind (.look hw rfl h) hmake, (v.brings_made htidy h).elsewhere, ?_⟩
    have hhome : (c.plot n).home.getD made = made := congrArg (Option.getD · made) h
    have hmet : v.namespaceMeta.converged made = made :=
      (hplain.met_pendingNamespace n).converged_eq
    have hpending : made.isPending = true := congrArg Option.isSome (Dict.get?_insert_self _ _ _)
    have hlimited : ResourceQuota.ofHard v.hardLimits =
        .limited v.hardLimits ((c.setNamespace n made).quotas.get? key) := by
      show _ = ResourceQuota.limited v.hardLimits (c.quotas.get? key)
      rw [hquota]
      rfl
    rw [Cluster.plot_setNamespace, Cluster.plot_denied, hlimited, Cluster.plot_limited,
      Cluster.plot_setNamespace]
    unfold act
    dsimp only
    rw [hhome, hmet, if_pos hpending]
  | some ns =>
    let kept := v.namespaceMeta.converged ns
    obtain ⟨b, t, hmeta, -⟩ := convergeMetadata_does hw h (htidy.names n ns h) v.namespaceMeta
    obtain ⟨b', t', hlimit, -, -⟩ := convergeQuota_does
      (w := w.setCluster (c.setNamespace n kept)) hw n v.hardLimits
    let c' := (c.setNamespace n kept).setQuota key
      (.limited v.hardLimits ((c.setNamespace n kept).quotas.get? key))
    have helse : c.Elsewhere n c' :=
      (c.elsewhere_setNamespace n _).trans (Cluster.elsewhere_setQuota _ n _ _)
    have hplot : c'.plot n = ((c.plot n).withHome kept).limited v.hardLimits := by
      rw [Cluster.plot_limited, Cluster.plot_setNamespace]
    have hhome : (c.plot n).home.getD (pendingNamespace n v.namespaceMeta) = ns :=
      congrArg (Option.getD · _) h
    have hkeeps : kept.isPending = ns.isPending := hplain.isPending_converged ns
    by_cases hpending : ns.isPending = true
    · have hisolate := completeIsolation_does (w := w.setCluster c') hw
        (Cluster.get?_setNamespace c n kept)
      refine ⟨_, _, .bind (.look hw rfl h)
        (hmeta.bind (hlimit.bind (.ite_pos hpending hisolate))), helse.trans
          ((c'.elsewhere_createPolicy n _).trans (Cluster.elsewhere_setNamespace _ n _)), ?_⟩
      show ((c'.createPolicy n .defaultDeny).setNamespace n kept.isolated).plot n = _
      rw [Cluster.plot_setNamespace, Cluster.plot_denied, hplot]
      unfold act
      dsimp only
      rw [hhome, if_pos (hkeeps.trans hpending)]
    · refine ⟨c', _, .bind (.look hw rfl h)
        (hmeta.bind (hlimit.bind (.ite_neg hpending (.pure _ ())))), helse, ?_⟩
      rw [hplot]
      unfold act
      dsimp only
      rw [hhome, if_neg (hkeeps ▸ hpending)]

/-- **Doing a duty.** In a tidy cluster without faults it succeeds, changes the plot as told, and
nothing else. -/
theorem makes (hw : w.faults = []) (htidy : w.cluster.Tidy) (d : Duty) (n : String) :
    Makes w n (d.attempt n) (d.act n (w.cluster.plot n)) := by
  cases d with
  | clear => exact clear_makes hw htidy n
  | disable => exact disable_makes hw n
  | settle v => exact settle_makes hw htidy v n
  | keep o => exact keep_makes hw htidy o n

/-! ## Duties that are done -/

/-- A duty is done once it was acted on. -/
theorem done_act {c : Cluster} {P : Plot} (h : c.plot n = d.act n P) : d.Done n c := by
  have hhome : c.namespaces.get? n = (d.act n P).home := congrArg Plot.home h
  cases d with
  | clear => exact hhome
  | disable =>
    intro ns hns
    obtain ⟨found, -, rfl⟩ := Option.map_eq_some_iff.1 (hhome.symm.trans hns)
    unfold Namespace.disabled
    split
    · assumption
    · exact found.hasAnnotation_patched _ _ _
  | settle v =>
    have hplain := v.plain_namespaceMeta
    let ns := v.namespaceMeta.converged (P.home.getD (pendingNamespace n v.namespaceMeta))
    have hquota : c.quotas.get? ⟨n, Vocabulary.quotaName⟩ =
        some (.limited v.hardLimits (P.quotas Vocabulary.quotaName)) := by
      refine (congrFun (congrArg Plot.quotas h) Vocabulary.quotaName).trans ?_
      unfold act
      dsimp only
      split <;> exact Plot.quotas_limited v.hardLimits _
    refine ⟨?_, _, hquota, ResourceQuota.sameLimits_limited _ _⟩
    unfold act at hhome
    dsimp only at hhome
    split at hhome
    · exact ⟨_, hhome, (hplain.met_converged _).isolated hplain, Namespace.isPending_unset _ _⟩
    · rename_i hpending
      exact ⟨_, hhome, hplain.met_converged _, Bool.eq_false_iff.2 hpending⟩
  | keep o => exact ⟨_, hhome, o.plain_namespaceMeta.met_converged _⟩

/-- Where a duty is done, its pass only looks. -/
theorem Done.does (hw : w.faults = []) (h : d.Done n w.cluster) :
    ∃ t, w.Does (d.attempt n) () w t ∧ ∀ e ∈ t, e.IsIdle := by
  have hlook : Entry.IsIdle (.call (.cluster (.getNamespace n))) := rfl
  cases d with
  | clear =>
    have habsent : w.Does (ensureAbsent n) false w _ := .bind (.look hw rfl h) (.pure w false)
    refine ⟨_, habsent.bind (.pure w ()), ?_⟩
    simpa using hlook
  | disable =>
    cases hns : w.cluster.namespaces.get? n with
    | none =>
      have hmark : w.Does (markDisabled n) false w _ := .bind (.look hw rfl hns) (.pure w false)
      refine ⟨_, hmark.bind (.pure w ()), ?_⟩
      simpa using hlook
    | some ns =>
      have hmark : w.Does (markDisabled n) false w _ :=
        .bind (.look hw rfl hns) (.ite_pos (h ns hns) (.pure w false))
      refine ⟨_, hmark.bind (.pure w ()), ?_⟩
      simpa using hlook
  | settle v =>
    refine ⟨_, convergeVdc_settled hw h, ?_⟩
    have hquota : Entry.IsIdle (.call (.cluster (.getResourceQuota n Vocabulary.quotaName))) := rfl
    simpa using ⟨hlook, hquota⟩
  | keep o =>
    obtain ⟨ns, hns, hmet⟩ := h
    have hmeta : w.Does (convergeMetadata ns o.namespaceMeta) false w [] :=
      .ite_pos (Bool.and_eq_true_iff.2 hmet.isEmpty_patches) (.pure w false)
    refine ⟨_, .bind (.look hw rfl hns) (hmeta.bind (.pure w ())), ?_⟩
    simpa using hlook

end Duty

end TenantCloud
