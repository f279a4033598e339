import TenantCloud.Proofs.Reconcile.Commuting
import TenantCloud.Proofs.Reconcile.Vanishing

/-!
# Which namespaces the scan for orphans flags

A scan lists the rows and the namespaces once and flags the strays among them, each at the time of
its patch. What it has made of the cluster so far is told against the list: the strays that it has
come by are flagged, and everything else is as it was (`Cluster.Flags`). So a scan flags the strays
and no others, however far it comes (`Reconcile.scan_flags_strays`).
-/

set_option autoImplicit false

namespace TenantCloud

/-! ## Strays -/

/-- A namespace that the controllers made for a virtual datacenter, that no row names, deleted or
not, and that is not flagged yet. -/
structure Namespace.IsStray (vdcs : List Vdc) (ns : Namespace) : Prop where
  managed : ns.labels.get? Vocabulary.managedByLabel = some Vocabulary.managedByValue
  kind : ns.labels.get? Vocabulary.kindLabel ≠ some Vocabulary.organizationKind
  unclaimed : ∀ v ∈ vdcs, v.bound? ≠ some ns.name
  unflagged : ns.hasAnnotation Vocabulary.orphanedAtAnnotation = false

theorem Namespace.needsFlag_iff {vdcs : List Vdc} {ns : Namespace} :
    ns.needsFlag (vdcs.filterMap (·.bound?)) = true ↔ ns.IsStray vdcs := by
  have hclaimed : (vdcs.filterMap (·.bound?)).contains ns.name = false ↔
      ∀ v ∈ vdcs, v.bound? ≠ some ns.name := by
    rw [Bool.eq_false_iff, ne_eq, List.contains_iff_mem, List.mem_filterMap]
    simp only [not_exists, not_and, ne_eq]
  unfold needsFlag Cluster.isManaged Reconcile.isOrphan
  rw [Bool.and_eq_true, Bool.and_eq_true, Bool.and_eq_true, beq_iff_eq, bne_iff_ne,
    Bool.not_eq_true', Bool.not_eq_true', hclaimed]
  exact ⟨fun ⟨hm, ⟨hk, hu⟩, hf⟩ => ⟨hm, hk, hu, hf⟩, fun ⟨hm, hk, hu, hf⟩ => ⟨hm, ⟨hk, hu⟩, hf⟩⟩

/-- The namespace with the flag of an orphan. -/
def Namespace.orphaned (ns : Namespace) (t : Timestamp) : Namespace :=
  ns.annotated Vocabulary.orphanedAtAnnotation t.renderSeconds

/-- The call that flags the namespace at a time. -/
def Namespace.flagging (ns : Namespace) (t : Timestamp) : Call :=
  .cluster (.patchNamespaceMetadata ns.name ∅
    (LabelPatch.set Vocabulary.orphanedAtAnnotation t.renderSeconds))

namespace Cluster

/-- The strays of the cluster, in name order. -/
def strays (vdcs : List Vdc) (c : Cluster) : List Namespace :=
  c.managedNamespaces.filter (Reconcile.isOrphan (vdcs.filterMap (·.bound?)))

/-- Some namespaces are flagged, each at its own time, and everything else is as it was. -/
structure Flags (c : Cluster) (l : List Namespace) (c' : Cluster) : Prop where
  flagged : ∀ ns ∈ l, ∃ t, c'.namespaces.get? ns.name = some (ns.orphaned t)
  others : ∀ n, n ∉ l.map (·.name) → c'.namespaces.get? n = c.namespaces.get? n
  beside : c' = { c with namespaces := c'.namespaces }

variable {c c' : Cluster} {vdcs : List Vdc} {l : List Namespace} {ns : Namespace}

theorem Named.mem_strays (hc : c.Named) : ns ∈ c.strays vdcs ↔
    c.namespaces.get? ns.name = some ns ∧ ns.IsStray vdcs := by
  rw [strays, managedNamespaces, List.mem_filter, List.mem_filter, and_assoc, ← Bool.and_eq_true,
    ← hc.mem_values_iff, ← Namespace.needsFlag_iff, Namespace.needsFlag]
  simp only [and_true]

theorem Named.pairwise_strays (hc : c.Named) :
    (c.strays vdcs).Pairwise fun ns ns' => ns.name ≠ ns'.name :=
  (hc.pairwise_values.filter _).filter _

namespace Flags

theorem refl (c : Cluster) : c.Flags [] c :=
  ⟨fun _ h => (List.not_mem_nil h).elim, fun _ _ => rfl, rfl⟩

theorem eq_of_nil (h : c.Flags [] c') : c' = c := by
  have hsame : c'.namespaces = c.namespaces := Dict.ext_get? fun n => h.others n List.not_mem_nil
  rw [h.beside, hsame]

/-- One more namespace in front is flagged. -/
theorem cons (t : Timestamp) (hhead : ∀ ns' ∈ l, ns.name ≠ ns'.name)
    (h : (c.setNamespace ns.name (ns.orphaned t)).Flags l c') : c.Flags (ns :: l) c' := by
  have hname : ns.name ∉ l.map (·.name) := by
    intro hmem
    obtain ⟨ns', hns', he⟩ := List.mem_map.1 hmem
    exact hhead ns' hns' he.symm
  refine ⟨List.forall_mem_cons.2 ⟨⟨t, ?_⟩, h.flagged⟩, fun n hn => ?_, ?_⟩
  · exact (h.others ns.name hname).trans (get?_setNamespace c ns.name _)
  · rw [List.map_cons, List.mem_cons, not_or] at hn
    exact (h.others n hn.2).trans ((Dict.get?_insert _ _ _ _).trans (if_neg hn.1))
  · exact h.beside

theorem named (hc : c.Named) (h : c.Flags l c') : c'.Named := by
  intro n ns hns
  by_cases hn : n ∈ l.map (·.name)
  · obtain ⟨found, hfound, rfl⟩ := List.mem_map.1 hn
    obtain ⟨t, ht⟩ := h.flagged found hfound
    rw [ht] at hns
    cases hns
    rfl
  · rw [h.others n hn] at hns
    exact hc n ns hns

/-- Once the strays are flagged, there are none. -/
theorem strays_eq_nil (hc : c.Named) (h : c.Flags (c.strays vdcs) c') : c'.strays vdcs = [] := by
  refine List.eq_nil_iff_forall_not_mem.2 fun ns hns => ?_
  obtain ⟨hget, hstray⟩ := (h.named hc).mem_strays.1 hns
  by_cases hn : ns.name ∈ (c.strays vdcs).map (·.name)
  · obtain ⟨found, hfound, hname⟩ := List.mem_map.1 hn
    obtain ⟨t, ht⟩ := h.flagged found hfound
    rw [hname, hget] at ht
    obtain rfl := Option.some.inj ht
    have hflag := hstray.unflagged
    rw [Namespace.orphaned, found.hasAnnotation_annotated] at hflag
    cases hflag
  · rw [h.others _ hn] at hget
    exact hn (List.mem_map.2 ⟨ns, hc.mem_strays.2 ⟨hget, hstray⟩, rfl⟩)

end Flags

end Cluster

/-! ## The scan -/

/-- Calls that flag namespaces, one for each. -/
abbrev FlaggingCalls : List Namespace → List Call → Prop :=
  List.Forall₂ fun ns call => ∃ t, call = ns.flagging t

/-- What a scan makes of a cluster, what its log tells, and how it ends: it flags all namespaces of
a list, or the patch of one of them fails. -/
inductive Cluster.Scans (c : Cluster) : List Namespace → Cluster → Log → Result Nat → Prop
  | through {l : List Namespace} {c' : Cluster} {log : Log} : c.Flags l c' → log.errors = [] →
      FlaggingCalls l log.writes → Scans c l c' log (.ok l.length)
  | stopped {before after : List Namespace} {ns : Namespace} {t : Timestamp} {c' : Cluster}
      {log : Log} {e : Error} : c.Flags before c' → log.errors = [(ns.flagging t, e)] →
      FlaggingCalls (before ++ [ns]) log.writes →
      Scans c (before ++ ns :: after) c' log (.error e)

namespace Cluster.Scans

variable {c c' : Cluster} {l : List Namespace} {ns : Namespace} {log : Log} {r : Result Nat}

/-- A namespace in front is flagged and counted. -/
theorem cons (t : Timestamp) (hhead : ∀ ns' ∈ l, ns.name ≠ ns'.name)
    (h : (c.setNamespace ns.name (ns.orphaned t)).Scans l c' log r) :
    c.Scans (ns :: l) c' (.reply (ns.flagging t) (.ok ()) :: log) (r.map (· + 1)) := by
  cases h with
  | through hflags herrors hwrites =>
    exact .through (.cons t hhead hflags) herrors (.cons ⟨t, rfl⟩ hwrites)
  | @stopped before after ns' t' c' log e hflags herrors hwrites =>
    have hbefore : ∀ ns'' ∈ before, ns.name ≠ ns''.name :=
      fun ns'' hns'' => hhead ns'' (List.mem_append_left _ hns'')
    have hmore : c.Flags (ns :: before) c' := .cons t hbefore hflags
    exact .stopped hmore herrors (.cons ⟨t, rfl⟩ hwrites)

/-- A look does not count. -/
theorem look {call : Call} (hcall : call.isWrite = false) (v : call.Answer)
    (h : c.Scans l c' log r) : c.Scans l c' (.reply call (.ok v) :: log) r := by
  have hwrites : Log.writes (.reply call (.ok v) :: log) = log.writes :=
    List.filterMap_cons_none (if_neg (by simp [hcall]))
  cases h with
  | through hflags herrors hcalls => exact .through hflags herrors (hwrites ▸ hcalls)
  | stopped hflags herrors hcalls => exact .stopped hflags herrors (hwrites ▸ hcalls)

/-- No call failed. -/
theorem of_calm (h : c.Scans l c' log r) (hcalm : log.errors = []) :
    c.Flags l c' ∧ r = .ok l.length ∧ FlaggingCalls l log.writes := by
  cases h with
  | through hflags _ hwrites => exact ⟨hflags, rfl, hwrites⟩
  | stopped _ herrors _ => cases herrors.symm.trans hcalm

/-- A call failed. -/
theorem of_mem_errors (h : c.Scans l c' log r) {call : Call} {e : Error}
    (hmem : (call, e) ∈ log.errors) : r = .error e ∧ ∃ before ns after t,
      l = before ++ ns :: after ∧ call = ns.flagging t ∧ c.Flags before c' ∧
      FlaggingCalls (before ++ [ns]) log.writes := by
  cases h with
  | through _ herrors _ =>
    rw [herrors] at hmem
    cases hmem
  | stopped hflags herrors hwrites =>
    rw [herrors] at hmem
    obtain ⟨⟩ := List.mem_singleton.1 hmem
    exact ⟨rfl, _, _, _, _, rfl, rfl, hflags, hwrites⟩

end Cluster.Scans

namespace Reconcile

open Attempt

variable {h : Handler World} {w : World}

theorem flagEach_yields (hh : h.IsPlain) {l : List Namespace}
    (hnames : l.Pairwise fun ns ns' => ns.name ≠ ns'.name)
    (hthere : ∀ ns ∈ l, w.cluster.namespaces.get? ns.name = some ns) :
    (flagEach l).Yields h (fun log r w' =>
      w'.store = w.store ∧ w.cluster.Scans l w'.cluster log r) w := by
  induction l generalizing w with
  | nil => exact .pure ⟨rfl, .through (.refl _) rfl .nil⟩
  | cons ns rest ih =>
    obtain ⟨hhead, htail⟩ := List.pairwise_cons.1 hnames
    have hns := hthere ns List.mem_cons_self
    refine .bind (.clock ⟨?_, nofun⟩)
    rintro t -
    refine .bind (.call (c := ns.flagging t) ?_)
    obtain ⟨now, he⟩ | ⟨e, he⟩ := hh (ns.flagging t) w
    · let c := w.cluster.setNamespace ns.name (ns.orphaned t)
      have hpatch : World.perform (ns.flagging t) { w with now } =
          (.ok (), { w.setCluster c with now }) := by
        show World.changeCluster _ (w.cluster.patchNamespace ns.name ∅ _) = _
        rw [Cluster.patchNamespace_of_get? hns]
        rfl
      have hrest : ∀ ns' ∈ rest, c.namespaces.get? ns'.name = some ns' := fun ns' hns' =>
        (Dict.get?_insert _ _ _ _).trans
          ((if_neg (hhead ns' hns').symm).trans (hthere ns' (List.mem_cons_of_mem _ hns')))
      rw [he, hpatch]
      refine ⟨fun _ _ => .bind ((ih (w := { w.setCluster c with now }) htail hrest).mono ?_), nofun⟩
      rintro log r w' ⟨hs, hscans⟩
      have hall := hscans.cons t hhead
      constructor
      · rintro k rfl
        refine .pure ⟨hs, ?_⟩
        rw [List.append_nil]
        exact hall
      · rintro e rfl
        exact ⟨hs, hall⟩
    · rw [he]
      refine ⟨nofun, ?_⟩
      rintro _ ⟨⟩
      exact ⟨rfl, .stopped (.refl w.cluster) rfl (.cons ⟨t, rfl⟩ .nil)⟩

/-- The calls that list what a scan goes through. -/
def listings : List Call := [.store .listVdcs, .cluster .listManagedNamespaces]

/-- A scan makes something of the strays, or it cannot list them. -/
theorem flagOrphans_yields (hh : h.IsPlain) (hc : w.cluster.Named) :
    flagOrphans.Yields h (fun log r w' => w'.store = w.store ∧
      (w.cluster.Scans (w.cluster.strays w.store.vdcs) w'.cluster log r ∨
      w'.cluster = w.cluster ∧ ∃ call ∈ listings, ∃ e, r = .error e ∧ log.errors = [(call, e)]))
      w := by
  refine .look_bind hh (c := .store .listVdcs) (g := fun w => w.store.vdcs) (fun _ => rfl)
    (fun now => ?_) fun e => ⟨rfl, .inr ⟨rfl, _, List.mem_cons_self, e, rfl, rfl⟩⟩
  refine .look_bind hh (c := .cluster .listManagedNamespaces)
    (g := fun w => w.cluster.managedNamespaces) (fun _ => rfl) (fun now' => ?_)
    fun e => ⟨rfl, .inr ⟨rfl, _, List.mem_cons_of_mem _ List.mem_cons_self, e, rfl, rfl⟩⟩
  refine (flagEach_yields (w := { w with now := now' }) hh hc.pairwise_strays
    fun ns hns => (hc.mem_strays.1 hns).1).mono ?_
  rintro log r w' ⟨hs, hscans⟩
  exact ⟨hs, .inl ((hscans.look rfl _).look rfl _)⟩

/-- **The scan flags exactly the strays, once.** Where no call fails, each namespace that the
controllers made for a virtual datacenter, that no row names and that has no flag yet is flagged
by one patch of its own. Nothing else is changed or written, and the result is the number of these
namespaces. Another scan of what is left, for the same rows, then gives zero and writes nothing.
Where a call fails, its error is the result. If something could not be listed, nothing has changed;
otherwise the patch of a stray failed, the strays before it are flagged, and everything else is as
it was. -/
theorem scan_flags_strays (hh : h.IsPlain) (hc : w.cluster.Named) :
    let strays := w.cluster.strays w.store.vdcs
    let ran := flagOrphans.run.run h w
    let log := flagOrphans.run.log h w
    (∀ ns, ns ∈ strays ↔ w.cluster.namespaces.get? ns.name = some ns ∧ ns.IsStray w.store.vdcs) ∧
    strays.Pairwise (fun ns ns' => ns.name ≠ ns'.name) ∧ ran.state.store = w.store ∧
    (log.errors = [] →
      w.cluster.Flags strays ran.state.cluster ∧ ran.value = .ok strays.length ∧
      FlaggingCalls strays log.writes ∧
      ∀ (h' : Handler World) (w' : World), h'.IsPlain → w'.store.vdcs = w.store.vdcs →
        w'.cluster = ran.state.cluster → (flagOrphans.run.log h' w').errors = [] →
        let again := flagOrphans.run.run h' w'
        again.value = .ok 0 ∧ again.state.cluster = ran.state.cluster ∧
          again.state.store = w'.store ∧ (flagOrphans.run.log h' w').writes = []) ∧
    ∀ call e, (call, e) ∈ log.errors → ran.value = .error e ∧
      (call ∈ listings ∧ ran.state.cluster = w.cluster ∨
      ∃ before ns after t, strays = before ++ ns :: after ∧ call = ns.flagging t ∧
        w.cluster.Flags before ran.state.cluster ∧ FlaggingCalls (before ++ [ns]) log.writes) := by
  obtain ⟨hs, hend⟩ := flagOrphans_yields hh hc
  refine ⟨fun ns => hc.mem_strays, hc.pairwise_strays, hs, fun hcalm => ?_, fun call e hmem => ?_⟩
  · obtain hscans | ⟨-, _, -, e, -, hlist⟩ := hend
    · obtain ⟨hflags, hvalue, hwrites⟩ := hscans.of_calm hcalm
      refine ⟨hflags, hvalue, hwrites, fun h' w' hh' hvdcs hcluster hcalm' => ?_⟩
      -- The scan left no strays to the next one.
      have hnone : w'.cluster.strays w'.store.vdcs = [] := by
        rw [hcluster, hvdcs]
        exact hflags.strays_eq_nil hc
      obtain ⟨hs', hend'⟩ := flagOrphans_yields (w := w') hh' (hcluster ▸ hflags.named hc)
      rw [hnone] at hend'
      obtain hscans' | ⟨-, _, -, e, -, hlist⟩ := hend'
      · obtain ⟨hflags', hvalue', hwrites'⟩ := hscans'.of_calm hcalm'
        exact ⟨hvalue', hflags'.eq_of_nil.trans hcluster, hs', List.forall₂_nil_left_iff.1 hwrites'⟩
      · cases hlist.symm.trans hcalm'
    · cases hlist.symm.trans hcalm
  · obtain hscans | ⟨hcluster, call', hlists, e', hvalue, hlist⟩ := hend
    · obtain ⟨hvalue, hstopped⟩ := hscans.of_mem_errors hmem
      exact ⟨hvalue, .inr hstopped⟩
    · rw [hlist] at hmem
      obtain ⟨⟩ := List.mem_singleton.1 hmem
      exact ⟨hvalue, .inl ⟨hlists, hcluster⟩⟩

/-- Of the namespaces of the borough the scan flags the two that no row names, and the next scan
none. Where the second patch fails, only the first namespace is flagged. -/
theorem borough_scan_flags_strays :
    let w := World.borough
    let strays := w.cluster.strays w.store.vdcs
    let ran := flagOrphans.run.run steady w
    let second := (World.managedNamespace "stray").flagging w.now
    let refused := refusing second (.unreachable "down")
    w.cluster.Named ∧ steady.IsPlain ∧ refused.IsPlain ∧
    strays.map (·.name) = ["acme", "stray"] ∧
    (flagOrphans.run.log steady w).errors = [] ∧ w.cluster.Flags strays ran.state.cluster ∧
    ran.value = .ok 2 ∧ (flagOrphans.run.run steady ran.state).value = .ok 0 ∧
    (second, .unreachable "down") ∈ (flagOrphans.run.log refused w).errors ∧
    (flagOrphans.run.run refused w).value = .error (.unreachable "down") ∧
    ∃ before ns after t, strays = before ++ ns :: after ∧ second = ns.flagging t ∧
      w.cluster.Flags before (flagOrphans.run.run refused w).state.cluster := by
  intro w strays ran second refused
  have hnamed : w.cluster.Named := World.tidy_borough.names
  have hrefused : refused.IsPlain := isPlain_refusing second (.unreachable "down")
  have hcalm : (flagOrphans.run.log steady w).errors = [] := by decide
  have hfailed : (second, .unreachable "down") ∈ (flagOrphans.run.log refused w).errors := by
    decide
  obtain ⟨-, -, hstore, hall, -⟩ := scan_flags_strays isPlain_steady hnamed
  obtain ⟨hflags, hvalue, -, hagain⟩ := hall hcalm
  obtain ⟨-, -, -, -, hstopped⟩ := scan_flags_strays hrefused hnamed
  obtain ⟨herror, hwhere⟩ := hstopped second _ hfailed
  refine ⟨hnamed, isPlain_steady, hrefused, by decide, hcalm, hflags, hvalue, ?_, hfailed, herror,
    ?_⟩
  · exact (hagain steady ran.state isPlain_steady (congrArg Store.vdcs hstore) rfl (by decide)).1
  · obtain ⟨hlists, -⟩ | ⟨before, ns, after, t, hsplit, hcall, hflags', -⟩ := hwhere
    · exact absurd hlists (by decide)
    · exact ⟨before, ns, after, t, hsplit, hcall, hflags'⟩

end Reconcile

end TenantCloud
