import TenantCloud.Proofs.Effect.Runs
import TenantCloud.Proofs.Reconcile.OwnerCalls

/-!
# Which namespaces the owners' passes delete

A pass deletes a namespace exactly where its own row is deleted, is still bound to that namespace,
and the namespace is there (`World.deletes_iff`). It does not look at other rows, so the tenants
of a namespace are safe from the passes of all rows but one that is deleted and bound to the same
namespace (`World.spares_tenant_iff`). The store admits that: only rows that are not deleted need
namespaces of their own (`World.live_tenant_loses_namespace`).
-/

set_option autoImplicit false

namespace TenantCloud

namespace World

/-- The pass asks for a namespace to be deleted. -/
def Deletes (w : World) (p : OwnerPass) (n : String) : Prop :=
  Entry.call (.cluster (.deleteNamespace n)) ∈ (w.run p.attempt).trace

instance (w : World) (p : OwnerPass) (n : String) : Decidable (w.Deletes p n) :=
  inferInstanceAs (Decidable (_ ∈ _))

end World

namespace Store

/-- The row of the pass is deleted and still bound to the namespace. -/
def Condemns (s : Store) (p : OwnerPass) (n : String) : Prop :=
  match p with
  | .vdc id => ∃ v, Table.get? s.vdcs id = some v ∧ v.isDeleted = true ∧ v.bound? = some n
  | .organization id =>
    ∃ o, Table.get? s.organizations id = some o ∧ o.isDeleted = true ∧ o.bound? = some n
  | .orphans => False

/-- A row other than that of the pass is not deleted and bound to the namespace. -/
def HasTenant (s : Store) (p : OwnerPass) (n : String) : Prop :=
  (∃ v ∈ s.vdcs, p ≠ .vdc v.id ∧ v.isDeleted = false ∧ v.bound? = some n) ∨
    ∃ o ∈ s.organizations, p ≠ .organization o.id ∧ o.isDeleted = false ∧ o.bound? = some n

end Store

/-! ## Passes for rows that are not deleted -/

/-- The call asks for a namespace to be deleted. -/
def Call.isDeletion : Call → Bool
  | .cluster (.deleteNamespace _) => true
  | _ => false

namespace Reconcile

theorem markDisabled_spares (n : String) : (markDisabled n).Makes (·.isDeletion = false) :=
  (markDisabled_makes n).mono <| by rintro _ (rfl | rfl) <;> rfl

theorem convergeMetadata_spares (ns : Namespace) (m : NamespaceMeta) :
    (convergeMetadata ns m).Makes (·.isDeletion = false) :=
  (convergeMetadata_makes ns m).mono <| by rintro _ rfl; rfl

theorem convergeVdc_spares (v : Vdc) (n : String) :
    (convergeVdc v n).Makes (·.isDeletion = false) := by
  refine .bind (.call rfl) fun found => ?_
  cases found with
  | none => exact (createIsolated_makes n _ _).mono <| by rintro _ (rfl | rfl | rfl | rfl) <;> rfl
  | some ns =>
    refine .bind (convergeMetadata_spares ns _) fun _ => ?_
    refine .bind ((convergeQuota_makes n _).mono <| by rintro _ (rfl | rfl | rfl) <;> rfl)
      fun _ => ?_
    split
    · exact (completeIsolation_makes n).mono <| by rintro _ (rfl | rfl) <;> rfl
    · exact .pure _

theorem convergeOrganization_spares (o : Organization) (n : String) :
    (convergeOrganization o n).Makes (·.isDeletion = false) := by
  refine .bind (.call rfl) fun found => ?_
  cases found with
  | none => exact .call rfl
  | some ns => exact .bind (convergeMetadata_spares ns _) fun _ => .pure _

theorem flagOrphans_spares : flagOrphans.Makes (·.isDeletion = false) := by
  refine .bind (.call rfl) fun _ => .bind (.call rfl) fun _ => ?_
  refine (flagEach_makes _).mono ?_
  rintro _ ⟨ns, -, t, rfl⟩
  rfl

end Reconcile

namespace World

open Attempt Reconcile

variable {w : World} {n : String}

/-! ## A deletion has its reason in the row of the pass -/

theorem not_deletes_of_spares {α : Type} {a : Attempt α} (h : a.Makes (·.isDeletion = false)) :
    Entry.call (.cluster (.deleteNamespace n)) ∉ (w.run a).trace := fun hm =>
  Bool.noConfusion (Pass.Makes.of_mem_trace h hm)

/-! What a look-up finds is there. -/

theorem answer_getVdc {id : Uuid} {v : Vdc}
    (h : (answer (.store (.getVdc id)) w).1 = .ok (some v)) :
    Table.get? w.store.vdcs id = some v := by
  rcases value_answer h with h | ⟨faults, h⟩
  · cases h
  · exact Except.ok.inj h

theorem answer_getOrganization {id : Uuid} {o : Organization}
    (h : (answer (.store (.getOrganization id)) w).1 = .ok (some o)) :
    Table.get? w.store.organizations id = some o := by
  rcases value_answer h with h | ⟨faults, h⟩
  · cases h
  · exact Except.ok.inj h

theorem answer_getNamespace {m : String} {ns : Namespace}
    (h : (answer (.cluster (.getNamespace m)) w).1 = .ok (some ns)) :
    w.cluster.namespaces.get? m = some ns := by
  rcases value_answer h with h | ⟨faults, h⟩
  · cases h
  · exact Except.ok.inj h

theorem deletes_of_ensureAbsent {α : Type} {m : String} {f : Bool → Attempt α}
    (hf : ∀ b, (f b).Makes (·.isDeletion = false))
    (h : Entry.call (.cluster (.deleteNamespace n)) ∈
      (w.run (ensureAbsent m >>= f)).trace) :
    m = n ∧ w.cluster.namespaces.contains n = true := by
  rcases mem_trace_bind.1 h with h | ⟨b, -, h⟩
  · rcases mem_trace_call_bind.1 h with h | ⟨found, hfound, h⟩
    · cases h
    · cases found with
      | none => cases h
      | some ns =>
        have hns := answer_getNamespace hfound
        rcases mem_trace_call_bind.1 h with h | ⟨_, _, h⟩
        · cases h
          exact ⟨rfl, by simp [Dict.contains, hns]⟩
        · cases h
  · exact absurd h (not_deletes_of_spares (hf b))

theorem deletes_vdc {id : Uuid} (h : w.Deletes (.vdc id) n) :
    w.store.Condemns (.vdc id) n ∧ w.cluster.namespaces.contains n = true := by
  rcases mem_trace_call_bind.1 h with h | ⟨found, hfound, h⟩
  · cases h
  cases found with
  | none => exact absurd h (not_deletes_of_spares (.measure _))
  | some v =>
    have hv := answer_getVdc hfound
    have hcluster := cluster_answer_store (.getVdc id) w
    dsimp only at h
    split at h
    · rename_i hdel
      split at h
      · rename_i m hm
        obtain ⟨rfl, hn⟩ := deletes_of_ensureAbsent (fun _ => .pure _) h
        exact ⟨⟨v, hv, hdel, hm⟩, hcluster ▸ hn⟩
      · cases h
    · refine absurd h (not_deletes_of_spares ?_)
      split
      · split
        · exact .bind (markDisabled_spares _) fun _ => .pure _
        · exact .pure _
      · split
        · exact convergeVdc_spares v _
        · exact .throw _

theorem deletes_organization {id : Uuid} (h : w.Deletes (.organization id) n) :
    w.store.Condemns (.organization id) n ∧ w.cluster.namespaces.contains n = true := by
  rcases mem_trace_call_bind.1 h with h | ⟨found, hfound, h⟩
  · cases h
  cases found with
  | none => exact absurd h (not_deletes_of_spares (.measure _))
  | some o =>
    have ho := answer_getOrganization hfound
    have hcluster := cluster_answer_store (.getOrganization id) w
    dsimp only at h
    split at h
    · exact absurd h (not_deletes_of_spares (.measure _))
    · rename_i m hm
      split at h
      · rename_i hdel
        obtain ⟨rfl, hn⟩ := deletes_of_ensureAbsent (fun _ => .pure _) h
        exact ⟨⟨o, ho, hdel, hm⟩, hcluster ▸ hn⟩
      · refine absurd h (not_deletes_of_spares ?_)
        split
        · exact .bind (markDisabled_spares _) fun _ => .pure _
        · exact convergeOrganization_spares o _

theorem condemns_of_deletes {p : OwnerPass} (h : w.Deletes p n) :
    w.store.Condemns p n ∧ w.cluster.namespaces.contains n = true := by
  cases p with
  | vdc id => exact deletes_vdc h
  | organization id => exact deletes_organization h
  | orphans => exact absurd h (not_deletes_of_spares (.bind flagOrphans_spares fun _ => .pure _))

/-! ## Without faults a row that is deleted takes its namespace along -/

theorem ensureAbsent_deletes {α : Type} {f : Bool → Attempt α}
    (h : w.cluster.namespaces.contains n = true) :
    Entry.call (.cluster (.deleteNamespace n)) ∈ (w.calm.run (ensureAbsent n >>= f)).trace := by
  obtain ⟨ns, hns⟩ := Option.isSome_iff_exists.1 h
  refine mem_trace_bind.2 (.inl (mem_trace_call_bind.2 (.inr ⟨some ns, ?_, ?_⟩)))
  · show Except.ok (w.cluster.namespaces.get? n) = _
    rw [hns]
  · exact mem_trace_call_bind.2 (.inl rfl)

theorem deletes_of_condemns {p : OwnerPass} (h : w.store.Condemns p n)
    (hn : w.cluster.namespaces.contains n = true) : w.calm.Deletes p n := by
  cases p with
  | vdc id =>
    obtain ⟨v, hv, hdel, hb⟩ := h
    refine mem_trace_call_bind.2 (.inr ⟨some v, congrArg Except.ok hv, ?_⟩)
    simp only [hdel, hb, if_true]
    exact ensureAbsent_deletes hn
  | organization id =>
    obtain ⟨o, ho, hdel, hb⟩ := h
    refine mem_trace_call_bind.2 (.inr ⟨some o, congrArg Except.ok ho, ?_⟩)
    simp only [hdel, hb, if_true]
    exact ensureAbsent_deletes hn
  | orphans => exact h.elim

theorem deletes_iff (w : World) (p : OwnerPass) (n : String) :
    w.calm.Deletes p n ↔ w.store.Condemns p n ∧ w.cluster.namespaces.contains n = true :=
  ⟨condemns_of_deletes, fun h => deletes_of_condemns h.1 h.2⟩

/-- **When the tenants of a namespace are safe from a pass.** Whatever faults there are, a pass
deletes a namespace only for its own row; and without faults it spares a namespace where another
row lives exactly unless its own row is deleted and bound to the same namespace. -/
theorem spares_tenant_iff (w : World) (p : OwnerPass) (n : String) :
    (w.Deletes p n → w.store.Condemns p n ∧ w.cluster.namespaces.contains n = true) ∧
    ((w.store.HasTenant p n → ¬ w.calm.Deletes p n) ↔
      ¬ (w.store.HasTenant p n ∧ w.store.Condemns p n ∧
        w.cluster.namespaces.contains n = true)) := by
  refine ⟨condemns_of_deletes, ?_⟩
  rw [deletes_iff]
  exact not_and.symm

/-! ## A namespace that is used again -/

/-- A namespace whose first virtual datacenter was deleted and whose second one is at work. -/
def reusedNamespace : World where
  store.vdcs := [boundVdc 1 "old" "tenant-a" (some ⟨0, 0⟩), boundVdc 2 "new" "tenant-a" none]
  cluster.namespaces := .single "tenant-a"
    ((boundVdc 2 "new" "tenant-a" none).namespaceMeta.toNamespace "tenant-a")
  ids := ⟨.ofNat, .ofNat, 0, 0⟩
  now := ⟨0, 0⟩

/-- The pass for the deleted row takes the namespace away from the row that lives there. -/
theorem live_tenant_loses_namespace :
    reusedNamespace.store.HasTenant (.vdc (.ofNat 1)) "tenant-a" ∧
      reusedNamespace.Deletes (.vdc (.ofNat 1)) "tenant-a" :=
  ⟨.inl ⟨boundVdc 2 "new" "tenant-a" none, by decide, by decide, rfl, by decide⟩, by decide⟩

end World

end TenantCloud
