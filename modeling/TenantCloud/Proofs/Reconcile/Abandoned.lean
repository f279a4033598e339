import TenantCloud.Proofs.Effect.Calm
import TenantCloud.Proofs.Store.Unique
import TenantCloud.Reconcile.VApp
import TenantCloud.Reconcile.Vdc

/-!
# vApps of deleted virtual datacenters

The vApp of a template instance is looked up through the virtual datacenter of the namespace, and
one that is deleted has no namespace there any more. So the template instances that go with the
namespace of a deleted virtual datacenter reach none of its vApps: their rows stay as they were
(`World.teardown_leaves_vapps`), also where they are deployed (`World.deployed_vapp_outlives`).
-/

set_option autoImplicit false

namespace TenantCloud

namespace Store

variable {s : Store} {v : Vdc} {a : VApp} {n name : String}

/-- A namespace leads to no vApp of a virtual datacenter that is deleted. -/
theorem Unique.vdcId_ne_of_deleted (hs : s.Unique) (hv : v ∈ s.vdcs) (hdeleted : v.isDeleted = true)
    (ha : s.vappAt? n name = some a) : a.vdcId ≠ v.id := by
  intro hid
  obtain ⟨u, hu, -, hvdc⟩ := vappAt?_eq_some ha
  obtain ⟨humem, hlive, -⟩ := vdcAt?_eq_some hu
  obtain rfl := hs.vdcId u humem v hv (hvdc.symm.trans hid)
  rw [hdeleted] at hlive
  cases hlive

/-- A new status of one vApp leaves the rows of other virtual datacenters alone. -/
theorem Unique.mem_updateVAppStatus (hs : s.Unique) (ha : a ∈ s.vapps) (now : Timestamp)
    (st : VAppStatus) {b : VApp} (hb : a.vdcId ≠ b.vdcId) :
    b ∈ (s.updateVAppStatus now a.id st).2.vapps ↔ b ∈ s.vapps := by
  constructor
  · intro hmem
    obtain ⟨c, hc, rfl⟩ := List.mem_map.1 hmem
    split at hb
    · rename_i hrow
      obtain rfl := hs.vappId c hc a ha (beq_iff_eq.1 hrow)
      exact absurd rfl hb
    · rename_i hrow
      rw [if_neg hrow]
      exact hc
  · intro hmem
    refine List.mem_map.2 ⟨b, hmem, if_neg fun hrow => hb ?_⟩
    rw [hs.vappId b hmem a ha (beq_iff_eq.1 hrow)]

end Store

/-! ## What is done for template instances that are gone -/

namespace Reconcile

variable {w : World} {n : String}

theorem findVApp_does (hw : w.faults = []) (n name : String) :
    ∃ t, w.Does (findVApp n name) (w.store.vappAt? n name) w t := by
  unfold Store.vappAt?
  cases h : w.store.vdcAt? n with
  | none => exact ⟨_, World.Does.bind (.look hw rfl h) (.pure w none)⟩
  | some v => exact ⟨_, World.Does.bind (.look hw rfl h) (.call hw rfl)⟩

theorem persistVAppStatus_does (hw : w.faults = []) (a : VApp) (st : VAppStatus) :
    ∃ t, w.Does (persistVAppStatus a st) ()
      (w.setStore (w.store.updateVAppStatus w.now a.id st).2) t := by
  obtain ⟨store, cluster, ids, faults, now⟩ := w
  subst hw
  exact ⟨_, rfl⟩

theorem templateInstanceDeleted_does (hw : w.faults = []) (n name : String) :
    ∃ s t, w.Does (templateInstanceDeleted n name) () (w.setStore s) t ∧
      (s = w.store ∨ ∃ a, w.store.vappAt? n name = some a ∧
        s = (w.store.updateVAppStatus w.now a.id .deleted).2) := by
  obtain ⟨t, hfind⟩ := findVApp_does hw n name
  cases h : w.store.vappAt? n name with
  | none =>
    rw [h] at hfind
    exact ⟨w.store, _, hfind.bind (.measure w _), .inl rfl⟩
  | some a =>
    rw [h] at hfind
    by_cases hst : a.status = .deleted
    · exact ⟨w.store, _, hfind.bind (.ite_pos hst (.measure w _)), .inl rfl⟩
    · obtain ⟨t', hpersist⟩ := persistVAppStatus_does hw a .deleted
      exact ⟨_, _, hfind.bind (.ite_neg hst hpersist), .inr ⟨a, rfl, rfl⟩⟩

/-- However many template instances go, the vApps of a deleted virtual datacenter stay. -/
theorem templateInstancesDeleted_does {v : Vdc} (hdeleted : v.isDeleted = true) (n : String)
    (names : List String) (hw : w.faults = []) (hs : w.store.Unique) (hv : v ∈ w.store.vdcs) :
    ∃ s t, w.Does (names.forM (templateInstanceDeleted n)) () (w.setStore s) t ∧
      ∀ b : VApp, b.vdcId = v.id → (b ∈ s.vapps ↔ b ∈ w.store.vapps) := by
  induction names generalizing w with
  | nil => exact ⟨w.store, [], .pure w (), fun b _ => Iff.rfl⟩
  | cons name rest ih =>
    obtain ⟨s, t, hhead, hstore⟩ := templateInstanceDeleted_does hw n name
    have hkeeps : s.Unique ∧ s.vdcs = w.store.vdcs ∧
        ∀ b : VApp, b.vdcId = v.id → (b ∈ s.vapps ↔ b ∈ w.store.vapps) := by
      rcases hstore with rfl | ⟨a, ha, rfl⟩
      · exact ⟨hs, rfl, fun b _ => Iff.rfl⟩
      · refine ⟨hs.updateVAppStatus _ _ _, rfl, fun b hb => ?_⟩
        obtain ⟨-, -, hmem, -⟩ := Store.vappAt?_eq_some ha
        have hne : a.vdcId ≠ b.vdcId := hb ▸ hs.vdcId_ne_of_deleted hv hdeleted ha
        exact hs.mem_updateVAppStatus hmem _ _ hne
    obtain ⟨hunique, hvdcs, hhere⟩ := hkeeps
    obtain ⟨s', t', htail, hthere⟩ := ih (w := w.setStore s) hw hunique (hvdcs ▸ hv)
    exact ⟨s', _, hhead.bind htail, fun b hb => (hthere b hb).trans (hhere b hb)⟩

/-- The pass for a virtual datacenter, and what is done for each template instance that goes with
its namespace. -/
def teardown (id : Uuid) (n : String) (names : List String) : Attempt Unit := do
  vdc id
  names.forM (templateInstanceDeleted n)

theorem ensureAbsent_does (hw : w.faults = []) (n : String) : ∃ b c t,
    w.Does (ensureAbsent n) b (w.setCluster c) t ∧ c.namespaces.get? n = none := by
  cases h : w.cluster.namespaces.get? n with
  | none => exact ⟨false, w.cluster, _, World.Does.bind (.look hw rfl h) (.pure w false), h⟩
  | some ns =>
    have hdelete : w.Does (Attempt.cluster (.deleteNamespace n)) ()
        (w.setCluster (w.cluster.deleteNamespace n)) _ := .change hw rfl
    refine ⟨true, _, _, World.Does.bind (.look hw rfl h) (hdelete.bind (.pure _ true)), ?_⟩
    exact (Dict.get?_erase _ _ _).trans (if_pos rfl)

theorem vdc_does_of_deleted {v : Vdc} {id : Uuid} (hw : w.faults = [])
    (hv : Table.get? w.store.vdcs id = some v) (hdeleted : v.isDeleted = true)
    (hn : v.bound? = some n) : ∃ c t, w.Does (vdc id) () (w.setCluster c) t ∧
      c.namespaces.get? n = none := by
  obtain ⟨b, c, t, habsent, hgone⟩ := ensureAbsent_does hw n
  refine ⟨c, _ ++ (t ++ []), World.Does.bind (.look hw rfl hv) (.ite_pos hdeleted ?_), hgone⟩
  rw [hn]
  exact habsent.bind (.pure _ ())

end Reconcile

/-! ## The namespace goes and the vApps stay -/

namespace World

/-- **The vApps of a deleted virtual datacenter are left behind.** Without faults its pass takes the
namespace away, and what is done for the template instances of that namespace succeeds, but each
vApp row of the virtual datacenter is what it was. So those of the given names are marked as deleted
exactly if they were before. -/
theorem teardown_leaves_vapps {w : World} {id : Uuid} {v : Vdc} {n : String} (hw : w.faults = [])
    (hs : w.store.Unique) (hv : Table.get? w.store.vdcs id = some v)
    (hdeleted : v.isDeleted = true) (hn : v.bound? = some n) (names : List String) :
    ∃ w' t, w.run (Reconcile.teardown id n names) = ⟨.ok (), w', t⟩ ∧
      w'.cluster.namespaces.get? n = none ∧
      (∀ a : VApp, a.vdcId = v.id → (a ∈ w'.store.vapps ↔ a ∈ w.store.vapps)) ∧
      ((∀ a ∈ w'.store.vapps, a.vdcId = v.id → a.name ∈ names → a.status = .deleted) ↔
        ∀ a ∈ w.store.vapps, a.vdcId = v.id → a.name ∈ names → a.status = .deleted) := by
  obtain ⟨c, t, hpass, hgone⟩ := Reconcile.vdc_does_of_deleted hw hv hdeleted hn
  obtain ⟨s, t', hrest, hsame⟩ := Reconcile.templateInstancesDeleted_does (w := w.setCluster c)
    hdeleted n names hw hs (List.mem_of_find?_eq_some hv)
  refine ⟨_, _, hpass.bind hrest, hgone, hsame, ?_, ?_⟩
  · intro h a ha hid
    exact h a ((hsame a hid).2 ha) hid
  · intro h a ha hid
    exact h a ((hsame a hid).1 ha) hid

/-- A deleted virtual datacenter with its namespace and a vApp that is deployed there. -/
def forsaken : World where
  store := {
    vdcs := [boundVdc 1 "gold" "tenant-a" (some ⟨0, 0⟩)]
    vapps := [⟨.ofNat 2, "web", .ofNat 1, .deployed, "", ⟨0, 0⟩, ⟨0, 0⟩⟩] }
  cluster := {
    namespaces := .single "tenant-a"
      ((boundVdc 1 "gold" "tenant-a" none).namespaceMeta.toNamespace "tenant-a")
    templateInstances := .single ⟨"tenant-a", "web"⟩
      ⟨{ name := some "web", ns := some "tenant-a" }, ⟨none⟩, none⟩ }
  ids := ⟨.ofNat, .ofNat, 0, 0⟩
  now := ⟨0, 0⟩

/-- What becomes of it. -/
def ruins : Ran World (Result Unit) :=
  forsaken.run (Reconcile.teardown (.ofNat 1) "tenant-a" ["web"])

theorem forsaken_leaves_vapps : forsaken.store.Unique ∧ ∃ w' t, ruins = ⟨.ok (), w', t⟩ ∧
    w'.cluster.namespaces.get? "tenant-a" = none ∧
    ∀ a : VApp, a.vdcId = .ofNat 1 → (a ∈ w'.store.vapps ↔ a ∈ forsaken.store.vapps) := by
  obtain ⟨w', t, hrun, hgone, hsame, -⟩ := teardown_leaves_vapps (w := forsaken) (n := "tenant-a")
    (v := boundVdc 1 "gold" "tenant-a" (some ⟨0, 0⟩)) rfl (by decide)
    (rfl : Table.get? _ (.ofNat 1) = _) rfl (by decide) ["web"]
  exact ⟨by decide, w', t, hrun, hgone, hsame⟩

/-- The namespace is gone and so is the template instance, but the vApp stays deployed. -/
theorem deployed_vapp_outlives : ruins.value = .ok () ∧
    ruins.state.cluster.namespaces.get? "tenant-a" = none ∧
    ∃ a ∈ ruins.state.store.vapps, a.vdcId = .ofNat 1 ∧ a.name = "web" ∧ a.status = .deployed :=
  ⟨rfl, by decide, by decide⟩

end World

end TenantCloud
