import TenantCloud.Proofs.Reconcile.Duties

/-!
# Flags of orphans

`Cluster.flagged` is what the scan for orphans makes of a cluster (`Reconcile.flagOrphans_does`);
once it is done, another scan only looks (`Reconcile.flagOrphans_idle`). Duties commute with the
scan (`Duty.act_flagged`): it spares namespaces that virtual datacenters claim, an organization
takes the flag off a namespace that it keeps and gives it a kind that is spared, and the mark of a
disabled owner is another annotation than the flag.
-/

set_option autoImplicit false

namespace TenantCloud

open NamespaceMeta Reconcile

/-! ## Flagged namespaces -/

namespace Namespace

/-- The scan for orphans flags the namespace. -/
def needsFlag (claimed : List String) (ns : Namespace) : Bool :=
  Cluster.isManaged ns && isOrphan claimed ns

/-- The namespace after a scan for orphans. -/
def flagged (claimed : List String) (t : Timestamp) (ns : Namespace) : Namespace :=
  if ns.needsFlag claimed then ns.annotated Vocabulary.orphanedAtAnnotation t.renderSeconds else ns

variable {ns : Namespace} {claimed : List String} {k k' v v' : String} {t : Timestamp}

theorem get?_annotations_annotated (ns : Namespace) (k v q : String) :
    (Namespace.annotations (ns.annotated k v)).get? q =
      if q = k then some v else ns.annotations.get? q := by
  show (((LabelPatch.set k v).applyTo ns.metadata.annotations).getD ∅).get? q = _
  rw [LabelPatch.get?_applyTo, LabelPatch.set, Dict.get?_single]
  split <;> rfl

theorem hasAnnotation_annotated (ns : Namespace) (k v : String) :
    Namespace.hasAnnotation (ns.annotated k v) k = true := by
  rw [Namespace.hasAnnotation, Dict.contains, get?_annotations_annotated, if_pos rfl]
  rfl

theorem hasAnnotation_annotated_of_ne (ns : Namespace) (v : String) {q : String} (h : q ≠ k) :
    Namespace.hasAnnotation (ns.annotated k v) q = ns.hasAnnotation q := by
  rw [Namespace.hasAnnotation, Dict.contains, get?_annotations_annotated, if_neg h]
  rfl

/-- Annotations with different keys may be set in either order. -/
theorem annotated_comm (ns : Namespace) (h : k ≠ k') :
    (ns.annotated k v).annotated k' v' = (ns.annotated k' v').annotated k v := by
  have hsame : (Namespace.annotations ((ns.annotated k v).annotated k' v')) =
      Namespace.annotations ((ns.annotated k' v').annotated k v) := by
    refine Dict.ext_get? fun q => ?_
    simp only [get?_annotations_annotated]
    split <;> split <;> simp_all
  exact congrArg (fun a => { ns with metadata := { ns.metadata with annotations := some a } }) hsame

theorem needsFlag_annotated (ns : Namespace) (v : String)
    (h : Vocabulary.orphanedAtAnnotation ≠ k) :
    Namespace.needsFlag claimed (ns.annotated k v) = ns.needsFlag claimed := by
  unfold needsFlag isOrphan
  rw [hasAnnotation_annotated_of_ne ns v h]
  rfl

/-- A namespace that was scanned is not flagged again. -/
theorem needsFlag_flagged (claimed : List String) (t : Timestamp) (ns : Namespace) :
    Namespace.needsFlag claimed (ns.flagged claimed t) = false := by
  unfold flagged
  split
  · unfold needsFlag isOrphan
    rw [hasAnnotation_annotated]
    simp
  · rename_i h
    exact Bool.eq_false_iff.2 h

theorem flagged_of_kind
    (h : ns.labels.get? Vocabulary.kindLabel = some Vocabulary.organizationKind) :
    ns.flagged claimed t = ns := by
  refine if_neg (Bool.eq_false_iff.1 ?_)
  unfold needsFlag isOrphan
  rw [h]
  simp

theorem name_flagged (ns : Namespace) : (ns.flagged claimed t).name = ns.name := by
  unfold flagged
  split <;> rfl

/-- The mark of a disabled owner and the flag may be set in either order. -/
theorem disabled_flagged (ns : Namespace) (claimed : List String) (t : Timestamp) :
    (ns.flagged claimed t).disabled = ns.disabled.flagged claimed t := by
  have hmark : Namespace.hasAnnotation (ns.flagged claimed t) Vocabulary.disabledAnnotation =
      ns.hasAnnotation Vocabulary.disabledAnnotation := by
    unfold flagged
    split
    · exact ns.hasAnnotation_annotated_of_ne _ (by decide)
    · rfl
  have hflag : ns.disabled.needsFlag claimed = ns.needsFlag claimed := by
    unfold disabled
    split
    · rfl
    · exact ns.needsFlag_annotated _ (by decide)
  unfold disabled at hflag ⊢
  rw [hmark]
  unfold flagged
  rw [hflag]
  split <;> split
  · rfl
  · rfl
  · exact ns.annotated_comm (by decide)
  · rfl

end Namespace

namespace Organization

variable {o : Organization} {ns : Namespace} {claimed : List String} {t : Timestamp}

/-- A namespace that its organization keeps is spared. -/
theorem flagged_converged (o : Organization) (ns : Namespace) (claimed : List String)
    (t : Timestamp) : (o.namespaceMeta.converged ns).flagged claimed t =
      o.namespaceMeta.converged ns := by
  refine Namespace.flagged_of_kind ?_
  have hkind : o.namespaceMeta.labels.get? Vocabulary.kindLabel =
      some Vocabulary.organizationKind := by
    refine Dict.get?_ofList_of_mem (by simp) ?_
    simp [Vocabulary.managedByLabel, Vocabulary.kindLabel, Vocabulary.organizationIdLabel]
  rw [get?_labels_converged, hkind]
  rfl

/-- The flag is taken off a namespace that its organization keeps. -/
theorem converged_flagged (o : Organization) (ns : Namespace) (claimed : List String)
    (t : Timestamp) : o.namespaceMeta.converged (ns.flagged claimed t) =
      o.namespaceMeta.converged ns := by
  have hsome : ∀ ns : Namespace, (o.namespaceMeta.converged ns).metadata.annotations =
      some (o.namespaceMeta.converged ns).annotations := by
    intro ns
    have hname := (o.plain_namespaceMeta.met_converged ns).annotations
      Vocabulary.organizationNameAnnotation o.name (Dict.get?_insert_self _ _ _)
    cases h : (o.namespaceMeta.converged ns).metadata.annotations with
    | none =>
      rw [Namespace.annotations, h] at hname
      cases hname
    | some a =>
      rw [Namespace.annotations, h]
      rfl
  unfold Namespace.flagged
  split
  · rename_i hflag
    let ns' := ns.annotated Vocabulary.orphanedAtAnnotation t.renderSeconds
    have hclean : ns.hasAnnotation Vocabulary.orphanedAtAnnotation = false := by
      unfold Namespace.needsFlag isOrphan at hflag
      simp_all
    have hsame : (o.namespaceMeta.converged ns').annotations =
        (o.namespaceMeta.converged ns).annotations := by
      refine Dict.ext_get? fun k => ?_
      rw [get?_annotations_converged, get?_annotations_converged]
      by_cases hk : k = Vocabulary.orphanedAtAnnotation
      · subst hk
        have hnone : ns.annotations.get? Vocabulary.orphanedAtAnnotation = none :=
          Option.not_isSome_iff_eq_none.1 (Bool.eq_false_iff.1 hclean)
        rw [if_pos ⟨by decide, ns.hasAnnotation_annotated _ _⟩, hnone,
          o.plain_namespaceMeta _ (by decide)]
        split <;> rfl
      · rw [ns.hasAnnotation_annotated_of_ne _ hk, ns.get?_annotations_annotated, if_neg hk]
    have hall : (o.namespaceMeta.converged ns').metadata.annotations =
        (o.namespaceMeta.converged ns).metadata.annotations := by
      rw [hsome, hsome, hsame]
    exact congrArg (fun a => { o.namespaceMeta.converged ns with
      metadata := { (o.namespaceMeta.converged ns).metadata with annotations := a } }) hall
  · rfl

end Organization

/-! ## Flagged plots -/

/-- The plot after a scan for orphans. -/
def Plot.flagged (claimed : List String) (t : Timestamp) (n : String) (P : Plot) : Plot :=
  if n ∈ claimed then P else { P with home := P.home.map (·.flagged [] t) }

theorem Plot.tidy_flagged {n : String} {P : Plot} (h : P.Tidy n) (claimed : List String)
    (t : Timestamp) : (P.flagged claimed t n).Tidy n := by
  unfold flagged
  split
  · exact h
  · exact h.map fun ns => ns.name_flagged

/-- The cluster after a scan for orphans. -/
def Cluster.flagged (claimed : List String) (t : Timestamp) (c : Cluster) : Cluster :=
  { c with namespaces := c.namespaces.mapValues (·.flagged claimed t) }

theorem Cluster.plot_flagged {c : Cluster} (hc : c.Tidy) (claimed : List String) (t : Timestamp)
    (n : String) : (c.flagged claimed t).plot n = (c.plot n).flagged claimed t n := by
  have hflag : ∀ ns : Namespace, ns.name = n →
      ns.needsFlag claimed = (ns.needsFlag [] && !claimed.contains n) := by
    rintro ns rfl
    unfold Namespace.needsFlag isOrphan
    cases claimed.contains ns.name <;> simp
  have hhome : ((c.flagged claimed t).plot n).home =
      (c.namespaces.get? n).map (·.flagged claimed t) := Dict.get?_mapValues _ _ _
  unfold Plot.flagged
  cases hns : c.namespaces.get? n with
  | none =>
    rw [hns] at hhome
    split
    · exact Plot.ext (hhome.trans hns.symm) rfl rfl
    · refine Plot.ext (hhome.trans ?_) rfl rfl
      show none = (c.namespaces.get? n).map _
      rw [hns]
      rfl
  | some ns =>
    have hname := hflag ns (hc.names n ns hns)
    rw [hns] at hhome
    split
    · rename_i hn
      refine Plot.ext (hhome.trans ?_) rfl rfl
      rw [List.contains_iff_mem.2 hn, Bool.not_true, Bool.and_false] at hname
      show some (ns.flagged claimed t) = c.namespaces.get? n
      rw [hns, Namespace.flagged, hname]
      rfl
    · rename_i hn
      refine Plot.ext (hhome.trans ?_) rfl rfl
      show some (ns.flagged claimed t) = (c.namespaces.get? n).map _
      have hfree : claimed.contains n = false :=
        Bool.eq_false_iff.2 fun h => hn (List.contains_iff_mem.1 h)
      rw [hfree, Bool.not_false, Bool.and_true] at hname
      rw [hns, Namespace.flagged, hname]
      rfl

/-- After a scan no namespace is left to be flagged. -/
theorem Cluster.needsFlag_of_flagged {c : Cluster} {claimed : List String} {t : Timestamp}
    {ns : Namespace} (h : ns ∈ (c.flagged claimed t).namespaces.values) :
    ns.needsFlag claimed = false := by
  obtain ⟨⟨k, ns⟩, hmem, rfl⟩ := List.mem_map.1 h
  have hget : (c.namespaces.mapValues (·.flagged claimed t)).get? k = some ns :=
    Dict.get?_eq_some_iff.2 hmem
  rw [Dict.get?_mapValues] at hget
  obtain ⟨found, -, rfl⟩ := Option.map_eq_some_iff.1 hget
  exact Namespace.needsFlag_flagged claimed t found

/-! ## The scan -/

namespace Cluster

/-- Namespaces go by their names. -/
def Named (c : Cluster) : Prop := ∀ n ns, c.namespaces.get? n = some ns → ns.name = n

variable {c : Cluster}

theorem Named.mem_values_iff {n : String} {ns : Namespace} (hc : c.Named) :
    ns ∈ c.namespaces.values ∧ ns.name = n ↔ c.namespaces.get? n = some ns := by
  constructor
  · rintro ⟨hns, rfl⟩
    obtain ⟨⟨k, ns⟩, hmem, rfl⟩ := List.mem_map.1 hns
    have hget := Dict.get?_eq_some_iff.2 hmem
    rw [hc k ns hget]
    exact hget
  · intro h
    exact ⟨List.mem_map.2 ⟨_, Dict.get?_eq_some_iff.1 h, rfl⟩, hc n ns h⟩

theorem Named.pairwise_values (hc : c.Named) :
    c.namespaces.values.Pairwise fun ns ns' => ns.name ≠ ns'.name := by
  refine List.pairwise_map.2 (c.namespaces.sorted.imp_of_mem fun {a b} ha hb hlt hname => ?_)
  rw [← hc _ _ (Dict.get?_eq_some_iff.2 ha), ← hc _ _ (Dict.get?_eq_some_iff.2 hb), hname] at hlt
  simp at hlt

end Cluster

namespace Reconcile

variable {w : World}

/-- Each namespace of the list is annotated, and nothing else is done. -/
theorem flagEach_does (hw : w.faults = []) {l : List Namespace}
    (hnames : l.Pairwise fun ns ns' => ns.name ≠ ns'.name)
    (hthere : ∀ ns ∈ l, w.cluster.namespaces.get? ns.name = some ns) :
    ∃ d t, w.Does (flagEach l) l.length (w.setCluster { w.cluster with namespaces := d }) t ∧
      ∀ n, d.get? n = if n ∈ l.map (·.name) then (w.cluster.namespaces.get? n).map
          (·.annotated Vocabulary.orphanedAtAnnotation w.now.renderSeconds)
        else w.cluster.namespaces.get? n := by
  induction l generalizing w with
  | nil => exact ⟨w.cluster.namespaces, [], .pure w 0, fun n => rfl⟩
  | cons ns rest ih =>
    obtain ⟨hhead, htail⟩ := List.pairwise_cons.1 hnames
    have hns := hthere ns List.mem_cons_self
    let flag := ns.annotated Vocabulary.orphanedAtAnnotation w.now.renderSeconds
    have hrest : ∀ ns' ∈ rest, (w.cluster.setNamespace ns.name flag).namespaces.get? ns'.name =
        some ns' := fun ns' hns' => (Dict.get?_insert _ _ _ _).trans
      ((if_neg (hhead ns' hns').symm).trans (hthere ns' (List.mem_cons_of_mem _ hns')))
    obtain ⟨d, t, hdoes, hd⟩ := ih (w := w.setCluster (w.cluster.setNamespace ns.name flag)) hw
      htail hrest
    have hclock : w.Does Attempt.clock w.now w [] := rfl
    have hpatch := World.does_patchNamespace hw hns ∅
      (LabelPatch.set Vocabulary.orphanedAtAnnotation w.now.renderSeconds)
    refine ⟨d, _, hclock.bind (hpatch.bind (hdoes.bind (.pure _ _))), fun n => (hd n).trans ?_⟩
    show (if n ∈ rest.map (·.name) then
      ((w.cluster.namespaces.insert ns.name flag).get? n).map _
      else (w.cluster.namespaces.insert ns.name flag).get? n) = _
    rw [Dict.get?_insert]
    simp only [List.map_cons, List.mem_cons]
    by_cases hn : n = ns.name
    · have hout : n ∉ rest.map (·.name) := by
        intro hmem
        obtain ⟨ns', hns', hname⟩ := List.mem_map.1 hmem
        exact hhead ns' hns' (hn ▸ hname.symm)
      rw [if_neg hout, if_pos hn, if_pos (.inl hn), hn, hns]
      rfl
    · simp only [hn, if_false, false_or]
      rfl

/-- What the scan for orphans makes of a tidy cluster. -/
theorem flagOrphans_does (hw : w.faults = []) (htidy : w.cluster.Tidy) :
    ∃ k t, w.Does flagOrphans k
      (w.setCluster (w.cluster.flagged (w.store.vdcs.filterMap (·.bound?)) w.now)) t := by
  let claimed := w.store.vdcs.filterMap (·.bound?)
  let found := w.cluster.managedNamespaces.filter (isOrphan claimed)
  have hfound : ∀ ns, ns ∈ found ↔ ns ∈ w.cluster.namespaces.values ∧ ns.needsFlag claimed := by
    intro ns
    unfold found Cluster.managedNamespaces Namespace.needsFlag
    rw [List.mem_filter, List.mem_filter, Bool.and_eq_true, and_assoc]
  obtain ⟨d, t, hdoes, hd⟩ := flagEach_does hw
    (((Cluster.Named.pairwise_values htidy.names).filter _).filter (isOrphan claimed))
    fun ns hns => (Cluster.Named.mem_values_iff htidy.names).1 ⟨((hfound ns).1 hns).1, rfl⟩
  have hsame : { w.cluster with namespaces := d } = w.cluster.flagged claimed w.now := by
    refine congrArg (fun d => { w.cluster with namespaces := d }) (Dict.ext_get? fun n => ?_)
    rw [hd, Dict.get?_mapValues]
    cases h : w.cluster.namespaces.get? n with
    | none => split <;> rfl
    | some ns =>
      obtain ⟨hns, hname⟩ := (Cluster.Named.mem_values_iff htidy.names).2 h
      have hiff : n ∈ found.map (·.name) ↔ ns.needsFlag claimed = true := by
        constructor
        · intro hmem
          obtain ⟨ns', hns', hname'⟩ := List.mem_map.1 hmem
          obtain ⟨hvalue, hflag⟩ := (hfound ns').1 hns'
          have hget := (Cluster.Named.mem_values_iff htidy.names).1 ⟨hvalue, hname'⟩
          rw [h] at hget
          cases hget
          exact hflag
        · exact fun hflag => List.mem_map.2 ⟨ns, (hfound ns).2 ⟨hns, hflag⟩, hname⟩
      show (if n ∈ found.map (·.name) then _ else _) = some (ns.flagged claimed w.now)
      unfold Namespace.flagged
      rw [apply_ite some]
      exact if_congr hiff rfl rfl
  have hlist : w.Does (Attempt.store .listVdcs) w.store.vdcs w [.call (.store .listVdcs)] :=
    .look hw rfl rfl
  have hscan : w.Does (Attempt.cluster .listManagedNamespaces) w.cluster.managedNamespaces w
      [.call (.cluster .listManagedNamespaces)] := .look hw rfl rfl
  have hflag : w.Does (flagEach found) found.length
      (w.setCluster (w.cluster.flagged claimed w.now)) t := hsame ▸ hdoes
  exact ⟨_, _, hlist.bind (hscan.bind hflag)⟩

/-- Where no namespace is to be flagged, the scan only looks. -/
theorem flagOrphans_idle (hw : w.faults = []) (h : ∀ ns ∈ w.cluster.namespaces.values,
      ns.needsFlag (w.store.vdcs.filterMap (·.bound?)) = false) :
    ∃ t, w.Does flagOrphans 0 w t ∧ ∀ e ∈ t, e.IsIdle := by
  let claimed := w.store.vdcs.filterMap (·.bound?)
  have hnone : w.cluster.managedNamespaces.filter (isOrphan claimed) = [] := by
    refine List.filter_eq_nil_iff.2 fun ns hns hflag => ?_
    obtain ⟨hmem, hmanaged⟩ := List.mem_filter.1 hns
    have hneeds := h ns hmem
    rw [Namespace.needsFlag, hmanaged, hflag] at hneeds
    cases hneeds
  have hlist : w.Does (Attempt.store .listVdcs) w.store.vdcs w [.call (.store .listVdcs)] :=
    .look hw rfl rfl
  have hscan : w.Does (Attempt.cluster .listManagedNamespaces) w.cluster.managedNamespaces w
      [.call (.cluster .listManagedNamespaces)] := .look hw rfl rfl
  have hflag :
      w.Does (flagEach (w.cluster.managedNamespaces.filter (isOrphan claimed))) 0 w [] := by
    rw [hnone]
    exact .pure w 0
  refine ⟨_, hlist.bind (hscan.bind hflag), ?_⟩
  have hlook : Entry.IsIdle (.call (.store .listVdcs)) := rfl
  have hlook' : Entry.IsIdle (.call (.cluster .listManagedNamespaces)) := rfl
  simpa using ⟨hlook, hlook'⟩

end Reconcile

/-- **Duties and flags.** What a row does about its namespace and the scan for orphans may be done
in either order. -/
theorem Duty.act_flagged {d : Duty} {n : String} {claimed : List String}
    (h : n ∈ claimed ∨ ∀ v, d ≠ .settle v) (t : Timestamp) (P : Plot) :
    d.act n (P.flagged claimed t n) = (d.act n P).flagged claimed t n := by
  by_cases hn : n ∈ claimed
  · unfold Plot.flagged
    rw [if_pos hn, if_pos hn]
  · unfold Plot.flagged
    rw [if_neg hn, if_neg hn]
    cases d with
    | clear => rfl
    | disable =>
      refine Plot.ext ?_ rfl rfl
      show ((P.home.map _).map _) = ((P.home.map _).map _)
      rw [Option.map_map, Option.map_map]
      refine congrArg (Option.map · P.home) (funext fun ns => ?_)
      exact ns.disabled_flagged [] t
    | settle v => exact absurd rfl ((h.resolve_left hn) v)
    | keep o =>
      refine Plot.ext ?_ rfl rfl
      show some (o.namespaceMeta.converged ((P.home.map (Namespace.flagged [] t)).getD
        (o.namespaceMeta.toNamespace n))) = some (Namespace.flagged [] t _)
      rw [o.flagged_converged]
      cases P.home with
      | none => rfl
      | some ns => exact congrArg some (o.converged_flagged ns [] t)

end TenantCloud
