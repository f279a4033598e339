import TenantCloud.Proofs.Reconcile.Commuting

/-!
# Owners disabled and enabled again

The pass for a disabled owner marks the namespace (`Reconcile.markDisabled`), and the pass for an
enabled one brings the metadata in line (`Reconcile.convergeMetadata`). Neither knows of the other,
but on a namespace that is as its owner wants it the second undoes the first: of all patches it
finds only the one that takes the mark off (`NamespaceMeta.Met.patches_marked`), and what is left is
the namespace from before (`Namespace.patched_marked`). `Store.setEnabled` is what others do to a
row between the passes.
-/

set_option autoImplicit false

namespace TenantCloud

open NamespaceMeta Reconcile

/-- The call, where it may change a row or an object. -/
def Entry.write? : Entry → Option Call
  | call c => if c.isWrite then some c else none
  | signal _ => none

/-- The calls that may change a row or an object. -/
def Trace.writes (t : Trace) : List Call := t.filterMap Entry.write?

theorem Trace.writes_of_idle {t : Trace} (h : ∀ e ∈ t, e.IsIdle) : t.writes = [] := by
  refine List.filterMap_eq_nil_iff.2 fun e he => ?_
  have hidle := h e he
  cases e with
  | call c => exact if_neg (Bool.eq_false_iff.1 hidle)
  | signal s => rfl

theorem Trace.writes_look {c : Call} (h : c.isWrite = false) (t : Trace) :
    Trace.writes (.call c :: t) = t.writes :=
  List.filterMap_cons_none (if_neg (Bool.eq_false_iff.1 h))

/-! ## The mark of a disabled owner -/

namespace Namespace

/-- The namespace with the mark of a disabled owner. -/
def marked (ns : Namespace) : Namespace := ns.annotated Vocabulary.disabledAnnotation "true"

/-- The mark comes off again where there were annotations before, and no mark. -/
theorem patched_marked {ns : Namespace} (hsome : ns.metadata.annotations.isSome)
    (hmark : ns.hasAnnotation Vocabulary.disabledAnnotation = false) :
    ns.marked.patched ∅ (LabelPatch.unset Vocabulary.disabledAnnotation) = ns := by
  obtain ⟨a, ha⟩ := Option.isSome_iff_exists.1 hsome
  have hnone : a.get? Vocabulary.disabledAnnotation = none := by
    rw [Namespace.hasAnnotation, annotations, ha] at hmark
    exact Option.not_isSome_iff_eq_none.1 (Bool.eq_false_iff.1 hmark)
  have hback : Namespace.annotations (ns.marked.patched ∅
      (LabelPatch.unset Vocabulary.disabledAnnotation)) = a := by
    refine Dict.ext_get? fun k => ?_
    rw [annotations_unset, marked, get?_annotations_annotated, annotations, ha]
    split
    · rename_i hk
      rw [hk, hnone]
    · rfl
  let withAnnotations (a : Option Labels) : Namespace :=
    { ns with metadata := { ns.metadata with annotations := a } }
  calc ns.marked.patched ∅ (LabelPatch.unset Vocabulary.disabledAnnotation)
    _ = withAnnotations (some a) := congrArg (fun a => withAnnotations (some a)) hback
    _ = withAnnotations ns.metadata.annotations := by rw [ha]
    _ = ns := rfl

end Namespace

namespace NamespaceMeta

variable {m : NamespaceMeta} {ns : Namespace}

theorem Met.isSome_annotations (h : m.Met ns) (hm : ∃ k v, m.annotations.get? k = some v) :
    ns.metadata.annotations.isSome := by
  obtain ⟨k, v, hk⟩ := hm
  have hthere : ns.annotations.get? k = some v := h.annotations k v hk
  cases ha : ns.metadata.annotations with
  | none =>
    rw [Namespace.annotations, ha] at hthere
    cases hthere
  | some a => rfl

/-- On a namespace that is as wanted but for the mark, the mark is all that there is to patch. -/
theorem Met.patches_marked (h : m.Met ns) : m.labelPatch ns.marked = ∅ ∧
    m.annotationPatch ns.marked = LabelPatch.unset Vocabulary.disabledAnnotation := by
  have hlabels := LabelPatch.isEmpty_changes.2 h.labels
  refine ⟨Dict.ext_get? (Dict.isEmpty_iff.1 hlabels), Dict.ext_get? fun k => ?_⟩
  rw [annotationPatch, Dict.get?_union, LabelPatch.get?_removals, LabelPatch.unset,
    Dict.get?_single]
  by_cases hk : k = Vocabulary.disabledAnnotation
  · subst hk
    rw [if_pos rfl, if_pos ⟨by decide, ns.hasAnnotation_annotated _ _⟩]
    rfl
  · have hother : ns.marked.annotations.get? k = ns.annotations.get? k :=
      (ns.get?_annotations_annotated _ _ _).trans (if_neg hk)
    have hchanges : (LabelPatch.changes ns.marked.metadata.annotations m.annotations).get? k =
        none := by
      rw [LabelPatch.get?_changes]
      cases hv : m.annotations.get? k with
      | none => rfl
      | some v => exact if_pos (hother.trans (h.annotations k v hv))
    have hgone : ¬(k ∈ marks ∧ ns.marked.hasAnnotation k = true) := by
      rintro ⟨hmark, hthere⟩
      rw [Namespace.marked, ns.hasAnnotation_annotated_of_ne _ hk, h.unmarked k hmark] at hthere
      cases hthere
    rw [hchanges, if_neg hk]
    exact congrArg (· <|> none) (if_neg hgone)

end NamespaceMeta

/-- Of two namespaces put in one place the second stays. -/
theorem Cluster.setNamespace_setNamespace (c : Cluster) (n : String) (ns ns' : Namespace) :
    (c.setNamespace n ns).setNamespace n ns' = c.setNamespace n ns' := by
  refine congrArg (fun d => { c with namespaces := d }) (Dict.ext_get? fun k => ?_)
  rw [Dict.get?_insert]
  show (if k = n then _ else (c.namespaces.insert n ns).get? k) = (c.namespaces.insert n ns').get? k
  rw [Dict.get?_insert, Dict.get?_insert]
  split <;> rfl

/-- The call that marks the namespace of a disabled owner. -/
def markCall (n : String) : Call :=
  .cluster (.patchNamespaceMetadata n ∅ (LabelPatch.set Vocabulary.disabledAnnotation "true"))

/-- The call that takes only this mark off. -/
def unmarkCall (n : String) : Call :=
  .cluster (.patchNamespaceMetadata n ∅ (LabelPatch.unset Vocabulary.disabledAnnotation))

namespace Reconcile

variable {w : World} {n : String} {ns : Namespace} {m : NamespaceMeta}

theorem markDisabled_does (hw : w.faults = []) (h : w.cluster.namespaces.get? n = some ns)
    (hmark : ns.hasAnnotation Vocabulary.disabledAnnotation = false) :
    w.Does (markDisabled n) true (w.setCluster (w.cluster.setNamespace n ns.marked))
      [.call (.cluster (.getNamespace n)), .call (markCall n)] := by
  have hpatch := World.does_patchNamespace hw h ∅
    (LabelPatch.set Vocabulary.disabledAnnotation "true")
  have hmarks : w.Does (markDisabled n) true _ _ :=
    .bind (.look hw rfl h) (.ite_neg (Bool.eq_false_iff.1 hmark) (hpatch.bind (.pure _ true)))
  exact hmarks

/-- Where only the mark is wrong, one patch takes it off and restores the namespace. -/
theorem convergeMetadata_marked (hw : w.faults = []) (h : w.cluster.namespaces.get? n = some ns)
    (hname : ns.name = n) (hmet : m.Met ns) (hm : ∃ k v, m.annotations.get? k = some v) :
    (w.setCluster (w.cluster.setNamespace n ns.marked)).Does (convergeMetadata ns.marked m) true w
      [.call (unmarkCall n)] := by
  let marked := w.setCluster (w.cluster.setNamespace n ns.marked)
  let patch := LabelPatch.unset Vocabulary.disabledAnnotation
  have hpatch := World.does_patchNamespace (w := marked) hw
    (Cluster.get?_setNamespace _ n ns.marked) ∅ patch
  have hrestored : marked.setCluster (marked.cluster.setNamespace n (ns.marked.patched ∅ patch)) =
      w := by
    rw [Namespace.patched_marked (hmet.isSome_annotations hm) (hmet.unmarked _ (by decide))]
    refine congrArg w.setCluster ?_
    exact (w.cluster.setNamespace_setNamespace n _ _).trans (Cluster.setNamespace_of_get? h)
  rw [hrestored] at hpatch
  obtain ⟨hlabels, hannotations⟩ := hmet.patches_marked
  have hmarked : ns.marked.name = n := hname
  unfold convergeMetadata
  rw [hlabels, hannotations, hmarked]
  exact .ite_neg (by decide) (hpatch.bind (.pure w true))

end Reconcile

/-! ## Duties before and after -/

namespace Duty

/-- What the namespace is to carry, where the duty is to keep one. -/
def wants? : Duty → Option NamespaceMeta
  | clear | disable => none
  | settle v => some v.namespaceMeta
  | keep o => some o.namespaceMeta

/-- What becomes of the duty once its owner is disabled. -/
def whenDisabled : Duty → Duty
  | clear => clear
  | disable | settle _ | keep _ => disable

variable {w : World} {n : String} {ns : Namespace} {d : Duty} {m : NamespaceMeta}

/-- An owner wants its name as an annotation. -/
theorem exists_wanted (h : d.wants? = some m) : ∃ k v, m.annotations.get? k = some v := by
  cases d with
  | clear | disable => cases h
  | settle v =>
    obtain rfl := Option.some.inj h
    exact ⟨Vocabulary.vdcNameAnnotation, v.name, Dict.get?_insert_self _ _ _⟩
  | keep o =>
    obtain rfl := Option.some.inj h
    exact ⟨Vocabulary.organizationNameAnnotation, o.name, Dict.get?_insert_self _ _ _⟩

theorem whenDisabled_of_wants? (h : d.wants? = some m) : d.whenDisabled = .disable := by
  cases d with
  | clear => cases h
  | disable | settle v | keep o => rfl

/-- Without the namespace a disabled owner has nothing to be done. -/
theorem done_whenDisabled {c : Cluster} (h : c.namespaces.get? n = none) (d : Duty) :
    d.whenDisabled.Done n c := by
  cases d with
  | clear => exact h
  | disable | settle v | keep o =>
    intro ns hns
    cases h.symm.trans hns

theorem Done.meets {c : Cluster} (hm : d.wants? = some m) (h : d.Done n c) :
    ∃ ns, c.namespaces.get? n = some ns ∧ m.Met ns := by
  cases d with
  | clear | disable => cases hm
  | settle v =>
    obtain rfl := Option.some.inj hm
    obtain ⟨ns, hns, hmet, -⟩ := h.meets
    exact ⟨ns, hns, hmet⟩
  | keep o =>
    obtain rfl := Option.some.inj hm
    exact h

/-- Where a duty was done before its namespace was marked, doing it takes the mark off and
restores the cluster. -/
theorem Done.unmarks (hw : w.faults = []) (hm : d.wants? = some m) (h : d.Done n w.cluster)
    (hns : w.cluster.namespaces.get? n = some ns) (hname : ns.name = n) :
    ∃ t, (w.setCluster (w.cluster.setNamespace n ns.marked)).Does (d.attempt n) () w t ∧
      t.writes = [unmarkCall n] := by
  let marked := w.setCluster (w.cluster.setNamespace n ns.marked)
  have hget : marked.cluster.namespaces.get? n = some ns.marked := Cluster.get?_setNamespace _ n _
  have hlook : marked.Does (Attempt.cluster (.getNamespace n)) (some ns.marked) marked
      [.call (.cluster (.getNamespace n))] := .look hw rfl hget
  obtain ⟨found, hfound, hmet⟩ := h.meets hm
  obtain rfl := Option.some.inj (hns.symm.trans hfound)
  have hmeta := convergeMetadata_marked hw hns hname hmet (exists_wanted hm)
  cases d with
  | clear | disable => cases hm
  | settle v =>
    obtain rfl := Option.some.inj hm
    obtain ⟨⟨found, hfound', -, hpending⟩, q, hq, hsame⟩ := h
    obtain rfl := Option.some.inj (hns.symm.trans hfound')
    have hrest : ¬ns.marked.hasAnnotation Vocabulary.isolationPendingAnnotation = true := by
      rw [Namespace.marked, ns.hasAnnotation_annotated_of_ne _ (by decide)]
      exact Bool.eq_false_iff.1 hpending
    exact ⟨_, hlook.bind (hmeta.bind
      ((convergeQuota_of_same hw hq hsame).bind (.ite_neg hrest (.pure w ())))), rfl⟩
  | keep o =>
    obtain rfl := Option.some.inj hm
    exact ⟨_, hlook.bind (hmeta.bind (.pure w ())), rfl⟩

end Duty

/-! ## Rows that are disabled and enabled -/

theorem Table.get?_amend_self {ρ : Type} [Row ρ] {t : Table ρ} {id : Uuid} {r : ρ} {f : ρ → ρ}
    (hf : ∀ r, Row.rowId (f r) = Row.rowId r) (h : get? t id = some r) :
    get? (amend t id f) id = some (f r) := by
  rw [get?_amend hf, h]
  exact congrArg some (if_pos (beq_iff_eq.2 (get?_eq_some h).2))

namespace Vdc

/-- The row, enabled or disabled. -/
def switched (b : Bool) (v : Vdc) : Vdc := { v with enabled := b }

theorem duty_switched (v : Vdc) : (v.switched false).duty = v.duty.whenDisabled := by
  unfold duty
  show (if v.isDeleted then Duty.clear else .disable) = _
  split
  · rfl
  · split <;> rfl

/-- Only a row that is enabled wants something on its namespace. -/
theorem switched_of_wants? {v : Vdc} {m : NamespaceMeta} (h : v.duty.wants? = some m) :
    (v.switched false).switched true = v := by
  have henabled : v.enabled = true := by
    refine Bool.of_not_eq_false fun hdisabled => ?_
    rw [duty, hdisabled] at h
    split at h <;> cases h
  show { v with enabled := true } = v
  rw [← henabled]

end Vdc

namespace Organization

/-- The row, enabled or disabled. -/
def switched (b : Bool) (o : Organization) : Organization := { o with enabled := b }

theorem duty_switched (o : Organization) : (o.switched false).duty = o.duty.whenDisabled := by
  unfold duty
  show (if o.isDeleted then Duty.clear else .disable) = _
  split
  · rfl
  · split <;> rfl

theorem switched_of_wants? {o : Organization} {m : NamespaceMeta} (h : o.duty.wants? = some m) :
    (o.switched false).switched true = o := by
  have henabled : o.enabled = true := by
    refine Bool.of_not_eq_false fun hdisabled => ?_
    rw [duty, hdisabled] at h
    split at h <;> cases h
  show { o with enabled := true } = o
  rw [← henabled]

end Organization

namespace Store

/-- The row that the pass is for is enabled or disabled. -/
def setEnabled (s : Store) (b : Bool) : OwnerPass → Store
  | .vdc id => { s with vdcs := Table.amend s.vdcs id (.switched b) }
  | .organization id => { s with organizations := Table.amend s.organizations id (.switched b) }
  | .orphans => s

variable {s : Store} {p : OwnerPass} {n : String} {d : Duty} {m : NamespaceMeta}

theorem duty?_of_vdc {id : Uuid} {v : Vdc} (hv : Table.get? s.vdcs id = some v)
    (hn : v.bound? = some n) : s.duty? (.vdc id) = some (n, v.duty) := by
  rw [duty?, hv, Option.bind_some, hn, Option.map_some]

theorem duty?_of_organization {id : Uuid} {o : Organization}
    (ho : Table.get? s.organizations id = some o) (hn : o.bound? = some n) :
    s.duty? (.organization id) = some (n, o.duty) := by
  rw [duty?, ho, Option.bind_some, hn, Option.map_some]

theorem duty?_disabled (h : s.duty? p = some (n, d)) :
    (s.setEnabled false p).duty? p = some (n, d.whenDisabled) := by
  cases p with
  | vdc id =>
    obtain ⟨v, hv, hn, rfl⟩ := duty?_vdc h
    rw [← v.duty_switched]
    exact duty?_of_vdc (Table.get?_amend_self (fun _ => rfl) hv) hn
  | organization id =>
    obtain ⟨o, ho, hn, rfl⟩ := duty?_organization h
    rw [← o.duty_switched]
    exact duty?_of_organization (Table.get?_amend_self (fun _ => rfl) ho) hn
  | orphans => cases h

/-- A row that was enabled has its duty again. -/
theorem duty?_enabled (h : s.duty? p = some (n, d)) (hm : d.wants? = some m) :
    ((s.setEnabled false p).setEnabled true p).duty? p = some (n, d) := by
  cases p with
  | vdc id =>
    obtain ⟨v, hv, hn, rfl⟩ := duty?_vdc h
    have hback := Table.get?_amend_self (f := Vdc.switched true) (fun _ => rfl)
      (Table.get?_amend_self (f := Vdc.switched false) (fun _ => rfl) hv)
    rw [Vdc.switched_of_wants? hm] at hback
    exact duty?_of_vdc hback hn
  | organization id =>
    obtain ⟨o, ho, hn, rfl⟩ := duty?_organization h
    have hback := Table.get?_amend_self (f := Organization.switched true) (fun _ => rfl)
      (Table.get?_amend_self (f := Organization.switched false) (fun _ => rfl) ho)
    rw [Organization.switched_of_wants? hm] at hback
    exact duty?_of_organization hback hn
  | orphans => cases h

end Store

/-! ## Passes -/

namespace World

open OwnerPass (attempt)

variable {w : World} {p : OwnerPass} {n : String} {d : Duty}

/-- Passes for a row whose duty is done, one after another, succeed and write nothing. -/
theorem quiet_of_done (hw : w.faults = []) (hduty : w.store.duty? p = some (n, d))
    (hdone : d.Done n w.cluster) (times : List Timestamp) :
    (∃ now, w.afterRound attempt (times.map (p, ·)) = { w with now }) ∧
    ∀ e ∈ w.round attempt (times.map (p, ·)), e.2.value = .ok () ∧ e.2.trace.writes = [] := by
  induction times generalizing w with
  | nil => exact ⟨⟨w.now, rfl⟩, nofun⟩
  | cons t times ih =>
    have hrests : p.Rests w.store w.cluster := by
      refine ⟨fun n' d' hduty' => ?_, ?_⟩
      · cases hduty.symm.trans hduty'
        exact hdone
      · rintro rfl
        cases hduty
    obtain ⟨hends, hstate, htrace⟩ := hrests.run (w := { w with now := t }) hw
    have hvalue : ({ w with now := t }.run p.attempt).value = .ok () := by
      have hbound : w.store.unbound? p = none := OwnerPass.unbound?_of_duty? hduty
      simp only [OwnerPass.Ends, hbound] at hends
      exact hends
    obtain ⟨⟨now, hlater⟩, hround⟩ := ih (w := { w with now := t }) hw hduty hdone
    rw [List.map_cons]
    unfold afterRound round
    dsimp only
    rw [hstate]
    exact ⟨⟨now, hlater⟩,
      List.forall_mem_cons.2 ⟨⟨hvalue, Trace.writes_of_idle htrace⟩, hround⟩⟩

/-- The pass for a disabled owner marks a namespace that has no mark. -/
theorem does_mark (hw : w.faults = []) (hduty : w.store.duty? p = some (n, .disable))
    {ns : Namespace} (hns : w.cluster.namespaces.get? n = some ns)
    (hmark : ns.hasAnnotation Vocabulary.disabledAnnotation = false) :
    ∃ t, w.Does p.attempt () (w.setCluster (w.cluster.setNamespace n ns.marked)) t ∧
      t.writes = [markCall n] := by
  have hmarks : w.Does (Duty.disable.attempt n) () _ _ :=
    (markDisabled_does hw hns hmark).bind (.pure _ ())
  obtain ⟨c, hc, hdoes⟩ := OwnerPass.does_duty hw hduty hmarks
  exact ⟨_, hdoes, Trace.writes_look (c := .store c) hc _⟩

/-- The pass for an owner takes the mark off and restores a cluster that was as the owner wants
it. -/
theorem does_unmark (hw : w.faults = []) (hduty : w.store.duty? p = some (n, d))
    {m : NamespaceMeta} (hm : d.wants? = some m) (hdone : d.Done n w.cluster) {ns : Namespace}
    (hns : w.cluster.namespaces.get? n = some ns) (hname : ns.name = n) :
    ∃ t, (w.setCluster (w.cluster.setNamespace n ns.marked)).Does p.attempt () w t ∧
      t.writes = [unmarkCall n] := by
  obtain ⟨t, hdoes, ht⟩ := hdone.unmarks hw hm hns hname
  obtain ⟨c, hc, hpass⟩ := OwnerPass.does_duty
    (w := w.setCluster (w.cluster.setNamespace n ns.marked)) hw hduty hdoes
  exact ⟨_, hpass, (Trace.writes_look (c := .store c) hc t).trans ht⟩

/-- **Disabling is undone by enabling.** Let the namespace of a virtual datacenter or an
organization be as the enabled row wants it. Once the row is disabled, a pass without faults marks
the namespace and writes nothing else, and any number of passes after it write nothing. Once the
row is enabled again, a pass takes the mark off, writes nothing else, and restores the cluster.
Where there is no namespace, passes for the disabled row write nothing. -/
theorem disabling_undone (hw : w.faults = []) (hduty : w.store.duty? p = some (n, d))
    (hname : ∀ ns, w.cluster.namespaces.get? n = some ns → ns.name = n) :
    let off := w.setStore (w.store.setEnabled false p)
    (d.wants?.isSome → d.Done n w.cluster → ∃ ns, w.cluster.namespaces.get? n = some ns ∧
      ns.hasAnnotation Vocabulary.disabledAnnotation = false ∧
      let marked := off.setCluster (w.cluster.setNamespace n ns.marked)
      (∃ t, off.Does p.attempt () marked t ∧ t.writes = [markCall n]) ∧
      ∀ (times : List Timestamp) (now : Timestamp),
        let later := marked.afterRound attempt (times.map (p, ·))
        let on := { later.setStore (later.store.setEnabled true p) with now }
        later.cluster = marked.cluster ∧
        (∀ e ∈ marked.round attempt (times.map (p, ·)),
          e.2.value = .ok () ∧ e.2.trace.writes = []) ∧
        ∃ t, on.Does p.attempt () (on.setCluster w.cluster) t ∧ t.writes = [unmarkCall n]) ∧
    (w.cluster.namespaces.get? n = none → ∀ times : List Timestamp,
      (off.afterRound attempt (times.map (p, ·))).cluster = w.cluster ∧
      ∀ e ∈ off.round attempt (times.map (p, ·)), e.2.value = .ok () ∧ e.2.trace.writes = []) := by
  intro off
  have hoff : off.store.duty? p = some (n, d.whenDisabled) := Store.duty?_disabled hduty
  refine ⟨fun hwants hdone => ?_, fun hnone times => ?_⟩
  · obtain ⟨m, hm⟩ := Option.isSome_iff_exists.1 hwants
    obtain ⟨ns, hns, hmet⟩ := hdone.meets hm
    have hunmarked := hmet.unmarked Vocabulary.disabledAnnotation (by decide)
    rw [Duty.whenDisabled_of_wants? hm] at hoff
    let marked := off.setCluster (w.cluster.setNamespace n ns.marked)
    have hmarks := does_mark (w := off) hw hoff hns hunmarked
    refine ⟨ns, hns, hunmarked, hmarks, fun times now => ?_⟩
    have hrests : Duty.disable.Done n marked.cluster := by
      intro found hfound
      obtain rfl := Option.some.inj ((Cluster.get?_setNamespace _ n _).symm.trans hfound)
      exact ns.hasAnnotation_annotated _ _
    obtain ⟨⟨now', hlater⟩, hround⟩ := quiet_of_done (w := marked) hw hoff hrests times
    dsimp only
    rw [hlater]
    let on := { w.setStore ((w.store.setEnabled false p).setEnabled true p) with now }
    have hon : on.store.duty? p = some (n, d) := Store.duty?_enabled hduty hm
    exact ⟨rfl, hround, does_unmark (w := on) hw hon hm hdone hns (hname ns hns)⟩
  · have hrests : d.whenDisabled.Done n off.cluster := d.done_whenDisabled hnone
    obtain ⟨⟨now, hlater⟩, hround⟩ := quiet_of_done (w := off) hw hoff hrests times
    rw [hlater]
    exact ⟨rfl, hround⟩

/-- An organization that is bound to a namespace. -/
def acme : Organization := ⟨.ofNat 4, "acme", "Acme", "", true, some "acme", none, ⟨0, 0⟩, ⟨0, 0⟩⟩

/-- A virtual datacenter and an organization whose namespaces are as they want them. -/
def furnished : World where
  store := { vdcs := [gold], organizations := [acme] }
  cluster := {
    namespaces := .ofList [("tenant-a", gold.namespaceMeta.toNamespace "tenant-a"),
      ("acme", acme.namespaceMeta.toNamespace "acme")]
    quotas := .single ⟨"tenant-a", Vocabulary.quotaName⟩ (.ofHard gold.hardLimits) }
  ids := ⟨.ofNat, .ofNat, 0, 0⟩
  now := ⟨0, 0⟩

/-- Either is disabled for three passes and enabled again. -/
theorem furnished_disabling_undone :
    let undone (p : OwnerPass) (n : String) : Prop :=
      let off := furnished.setStore (furnished.store.setEnabled false p)
      ∃ marked, (∃ t, off.Does p.attempt () marked t ∧ t.writes = [markCall n]) ∧
        let later := marked.afterRound attempt [(p, ⟨5, 0⟩), (p, ⟨6, 0⟩)]
        let on := { later.setStore (later.store.setEnabled true p) with now := ⟨7, 0⟩ }
        ∃ t, on.Does p.attempt () (on.setCluster furnished.cluster) t ∧ t.writes = [unmarkCall n]
    undone (.vdc gold.id) "tenant-a" ∧ undone (.organization acme.id) "acme" := by
  intro undone
  constructor
  · have hdone : (Duty.settle gold).Done "tenant-a" furnished.cluster :=
      ⟨⟨_, rfl, gold.plain_namespaceMeta.met_toNamespace _, by decide⟩,
        ⟨_, rfl, Quantity.sameLimits_self _⟩⟩
    obtain ⟨ns, -, -, hmarks, hlater⟩ := (disabling_undone (w := furnished) (p := .vdc gold.id)
      (d := .settle gold) rfl rfl (by rintro _ ⟨⟩; rfl)).1 rfl hdone
    obtain ⟨-, -, hback⟩ := hlater [⟨5, 0⟩, ⟨6, 0⟩] ⟨7, 0⟩
    exact ⟨_, hmarks, hback⟩
  · have hdone : (Duty.keep acme).Done "acme" furnished.cluster :=
      ⟨_, rfl, acme.plain_namespaceMeta.met_toNamespace _⟩
    obtain ⟨ns, -, -, hmarks, hlater⟩ := (disabling_undone (w := furnished)
      (p := .organization acme.id) (d := .keep acme) rfl rfl (by rintro _ ⟨⟩; rfl)).1 rfl hdone
    obtain ⟨-, -, hback⟩ := hlater [⟨5, 0⟩, ⟨6, 0⟩] ⟨7, 0⟩
    exact ⟨_, hmarks, hback⟩

end World

end TenantCloud
