import TenantCloud.Proofs.Effect.Always
import TenantCloud.Reconcile.Organization
import TenantCloud.Reconcile.Vdc

/-!
# Calls of the owners' passes

For each step of a pass of an owner, the calls that it can make (`Attempt.Makes`), whatever it is
answered. Only `Reconcile.ensureAbsent` deletes, and only `Reconcile.completeIsolation` and
`Reconcile.createIsolated` name the mark of a namespace that waits for its policy.
-/

set_option autoImplicit false

namespace TenantCloud

/-- A pass of the controllers that keep namespaces in line with the rows that own them. -/
inductive OwnerPass
  | vdc (id : Uuid)
  | organization (id : Uuid)
  | orphans
  deriving DecidableEq

namespace OwnerPass

/-- What the pass does. -/
def attempt : OwnerPass → Attempt Unit
  | vdc id => Reconcile.vdc id
  | organization id => Reconcile.organization id
  | orphans => do let _ ← Reconcile.flagOrphans

end OwnerPass

namespace Reconcile

open Attempt

/-! ## Steps that are shared -/

theorem ensureAbsent_makes (n : String) : (ensureAbsent n).Makes fun c =>
    c = .cluster (.getNamespace n) ∨ c = .cluster (.deleteNamespace n) := by
  refine .bind (.call (.inl rfl)) fun found => ?_
  cases found with
  | none => exact .pure _
  | some ns => exact .bind (.call (.inr rfl)) fun _ => .pure _

theorem markDisabled_makes (n : String) : (markDisabled n).Makes fun c =>
    c = .cluster (.getNamespace n) ∨ c = .cluster (.patchNamespaceMetadata n ∅
      (LabelPatch.set Vocabulary.disabledAnnotation "true")) := by
  refine .bind (.call (.inl rfl)) fun found => ?_
  cases found with
  | none => exact .pure _
  | some ns =>
    dsimp only
    split
    · exact .pure _
    · exact .bind (.call (.inr rfl)) fun _ => .pure _

theorem convergeMetadata_makes (ns : Namespace) (m : NamespaceMeta) :
    (convergeMetadata ns m).Makes fun c => c = .cluster
      (.patchNamespaceMetadata ns.name (m.labelPatch ns) (m.annotationPatch ns)) := by
  unfold convergeMetadata
  dsimp only
  split
  · exact .pure _
  · exact .bind (.call rfl) fun _ => .pure _

/-! ## Virtual datacenters -/

theorem convergeQuota_makes (n : String) (hard : Dict String String) :
    (convergeQuota n hard).Makes fun c =>
      c = .cluster (.getResourceQuota n Vocabulary.quotaName) ∨
      c = .cluster (.createResourceQuota n (.ofHard hard)) ∨
      c = .cluster (.replaceResourceQuotaHard n Vocabulary.quotaName hard) := by
  refine .bind (.call (.inl rfl)) fun found => ?_
  cases found with
  | none => exact .bind (.call (.inr (.inl rfl))) fun _ => .pure _
  | some quota =>
    dsimp only
    split
    · exact .pure _
    · exact .bind (.call (.inr (.inr rfl))) fun _ => .pure _

theorem completeIsolation_makes (n : String) : (completeIsolation n).Makes fun c =>
    c = .cluster (.createNetworkPolicy n .defaultDeny) ∨ c = .cluster (.patchNamespaceMetadata n ∅
      (LabelPatch.unset Vocabulary.isolationPendingAnnotation)) :=
  .bind (.call (.inl rfl)) fun _ => .call (.inr rfl)

/-- The namespace that a virtual datacenter creates: it waits for its policy. -/
def pendingNamespace (n : String) (m : NamespaceMeta) : Namespace :=
  { m.toNamespace n with metadata :=
      (m.toNamespace n).metadata.setAnnotation Vocabulary.isolationPendingAnnotation "true" }

theorem createIsolated_makes (n : String) (m : NamespaceMeta) (hard : Dict String String) :
    (createIsolated n m hard).Makes fun c =>
      c = .cluster (.createNamespace (pendingNamespace n m)) ∨
      c = .cluster (.createResourceQuota n (.ofHard hard)) ∨
      c = .cluster (.createNetworkPolicy n .defaultDeny) ∨
      c = .cluster (.patchNamespaceMetadata n ∅
        (LabelPatch.unset Vocabulary.isolationPendingAnnotation)) := by
  refine .bind (.call (.inl rfl)) fun _ => .bind (.call (.inr (.inl rfl))) fun _ => ?_
  exact (completeIsolation_makes n).mono fun c hc => .inr (.inr hc)

/-! ## Orphans -/

theorem flagEach_makes (namespaces : List Namespace) : (flagEach namespaces).Makes fun c =>
    ∃ ns ∈ namespaces, ∃ t : Timestamp, c = .cluster (.patchNamespaceMetadata ns.name ∅
      (LabelPatch.set Vocabulary.orphanedAtAnnotation t.renderSeconds)) := by
  induction namespaces with
  | nil => exact .pure _
  | cons ns rest ih =>
    refine .bind .clock fun t => .bind (.call ⟨ns, List.mem_cons_self, t, rfl⟩) fun _ => ?_
    refine .bind (ih.mono fun c hc => ?_) fun _ => .pure _
    obtain ⟨ns', hns, h⟩ := hc
    exact ⟨ns', List.mem_cons_of_mem _ hns, h⟩

end Reconcile

end TenantCloud
