import TenantCloud.Proofs.Object.Patches

/-!
# Metadata that is as wanted

`NamespaceMeta.Met` says that a namespace carries what its owner wants and no mark. The patches of
the owner bring it there (`NamespaceMeta.met_converged`), touch nothing else
(`NamespaceMeta.spared_converged`), and are empty once it is there
(`NamespaceMeta.Met.isEmpty_patches`).
-/

set_option autoImplicit false

namespace TenantCloud

namespace LabelPatch

variable {current : Option Labels} {k : String}

theorem get?_changes (desired : Labels) : (changes current desired).get? k =
    (desired.get? k).bind fun v =>
      if (current.getD ∅).get? k = some v then none else some (some v) := by
  rw [changes, Dict.get?_filterMap]
  cases current <;> rfl

/-- Labels that were changed to wanted ones are those, and the others from before. -/
theorem get?_applyTo_changes (current : Option Labels) (desired : Labels) (k : String) :
    (((changes current desired).applyTo current).getD ∅).get? k =
      (desired.get? k <|> (current.getD ∅).get? k) := by
  rw [get?_applyTo, get?_changes]
  cases desired.get? k with
  | none => rfl
  | some v =>
    show ((if _ = some v then none else some (some v)).getD _) = some v
    split
    · assumption
    · rfl

theorem isEmpty_changes {desired : Labels} : (changes current desired).isEmpty = true ↔
    ∀ k v, desired.get? k = some v → (current.getD ∅).get? k = some v := by
  rw [Dict.isEmpty_iff]
  refine forall_congr' fun k => ?_
  rw [get?_changes]
  cases desired.get? k with
  | none => simp
  | some v => simp

theorem get?_removals (keys : List String) : (removals current keys).get? k =
    if k ∈ keys ∧ (current.getD ∅).contains k = true then some none else none := by
  have hany : current.any (·.contains k) = (current.getD ∅).contains k := by
    cases current <;> rfl
  split
  · rename_i h
    refine Dict.get?_ofList_of_mem ?_ fun e he _ => ?_
    · rw [List.map_map]
      exact List.mem_map.2 ⟨k, List.mem_filter.2 ⟨h.1, hany.trans h.2⟩, rfl⟩
    · obtain ⟨q, -, rfl⟩ := List.mem_map.1 he
      rfl
  · rename_i h
    refine Dict.get?_ofList_of_not_mem fun hk => h ?_
    obtain ⟨e, he, rfl⟩ := List.mem_map.1 hk
    obtain ⟨q, hq, rfl⟩ := List.mem_map.1 he
    obtain ⟨hq, hc⟩ := List.mem_filter.1 hq
    exact ⟨hq, hany.symm.trans hc⟩

theorem applyTo_of_isEmpty {p : LabelPatch} (h : p.isEmpty = true) (labels : Option Labels) :
    p.applyTo labels = labels := if_pos h

end LabelPatch

theorem Namespace.patched_of_isEmpty {l a : LabelPatch} (ns : Namespace) (hl : l.isEmpty = true)
    (ha : a.isEmpty = true) : ns.patched l a = ns := by
  unfold Namespace.patched Metadata.patch
  rw [LabelPatch.applyTo_of_isEmpty hl, LabelPatch.applyTo_of_isEmpty ha]

namespace NamespaceMeta

variable {m : NamespaceMeta} {ns : Namespace}

/-- The namespace carries what its owner wants, and no mark. -/
structure Met (m : NamespaceMeta) (ns : Namespace) : Prop where
  labels : ∀ k v, m.labels.get? k = some v → ns.labels.get? k = some v
  annotations : ∀ k v, m.annotations.get? k = some v → ns.annotations.get? k = some v
  unmarked : ∀ k ∈ marks, ns.hasAnnotation k = false

/-- The namespace after the patches of its owner. -/
def converged (m : NamespaceMeta) (ns : Namespace) : Namespace :=
  ns.patched (m.labelPatch ns) (m.annotationPatch ns)

theorem get?_labels_converged (m : NamespaceMeta) (ns : Namespace) (k : String) :
    (m.converged ns).labels.get? k = (m.labels.get? k <|> ns.labels.get? k) :=
  LabelPatch.get?_applyTo_changes ns.metadata.labels m.labels k

theorem get?_annotations_converged (m : NamespaceMeta) (ns : Namespace) (k : String) :
    (m.converged ns).annotations.get? k =
      if k ∈ marks ∧ ns.hasAnnotation k = true then none
      else (m.annotations.get? k <|> ns.annotations.get? k) := by
  have hchanges : ((LabelPatch.changes ns.metadata.annotations m.annotations).get? k).getD
      (ns.annotations.get? k) = (m.annotations.get? k <|> ns.annotations.get? k) := by
    have happly := LabelPatch.get?_applyTo_changes ns.metadata.annotations m.annotations k
    rw [LabelPatch.get?_applyTo] at happly
    exact happly
  show (((m.annotationPatch ns).applyTo ns.metadata.annotations).getD ∅).get? k = _
  rw [LabelPatch.get?_applyTo, annotationPatch, Dict.get?_union, LabelPatch.get?_removals]
  show (Option.getD ((if k ∈ marks ∧ ns.hasAnnotation k = true then some none else none) <|> _)
    _) = _
  split
  · rfl
  · exact hchanges

/-- The patches of an owner bring a namespace to what it wants, unless it wants a mark. -/
theorem met_converged (hm : ∀ k ∈ marks, m.annotations.get? k = none) (ns : Namespace) :
    m.Met (m.converged ns) := by
  refine ⟨fun k v hk => ?_, fun k v hk => ?_, fun k hk => ?_⟩
  · rw [get?_labels_converged, hk]
    rfl
  · rw [get?_annotations_converged, hk, if_neg]
    · rfl
    · rintro ⟨hmark, -⟩
      rw [hm k hmark] at hk
      cases hk
  · rw [Namespace.hasAnnotation, Dict.contains, get?_annotations_converged, hm k hk]
    split
    · rfl
    · rename_i hno
      exact Bool.eq_false_iff.2 fun h => hno ⟨hk, h⟩

/-- Where a namespace is as wanted, there is nothing to patch. -/
theorem Met.isEmpty_patches (h : m.Met ns) :
    (m.labelPatch ns).isEmpty = true ∧ (m.annotationPatch ns).isEmpty = true := by
  refine ⟨LabelPatch.isEmpty_changes.2 h.labels, Dict.isEmpty_iff.2 fun k => ?_⟩
  have hchanges := Dict.isEmpty_iff.1 (LabelPatch.isEmpty_changes.2 h.annotations) k
  have hremovals : (LabelPatch.removals ns.metadata.annotations marks).get? k = none := by
    rw [LabelPatch.get?_removals, if_neg]
    rintro ⟨hmark, hc⟩
    exact Bool.false_ne_true ((h.unmarked k hmark).symm.trans hc)
  rw [annotationPatch, Dict.get?_union, hremovals]
  exact hchanges

end NamespaceMeta

/-! ## What is left alone -/

namespace Namespace

theorem annotations_unset (ns : Namespace) (l : LabelPatch) (key k : String) :
    (Namespace.annotations (ns.patched l (.unset key))).get? k =
      if k = key then none else ns.annotations.get? k := by
  show (((LabelPatch.unset key).applyTo ns.metadata.annotations).getD ∅).get? k = _
  rw [LabelPatch.get?_applyTo, LabelPatch.unset, Dict.get?_single]
  split <;> rfl

/-- A namespace that is isolated: it waits for its policy no more. -/
def isolated (ns : Namespace) : Namespace :=
  ns.patched ∅ (LabelPatch.unset Vocabulary.isolationPendingAnnotation)

theorem get?_annotations_isolated (ns : Namespace) {k : String}
    (hk : k ≠ Vocabulary.isolationPendingAnnotation) :
    (Namespace.annotations ns.isolated).get? k = ns.annotations.get? k := by
  rw [isolated, annotations_unset, if_neg hk]

end Namespace

namespace NamespaceMeta

variable {m : NamespaceMeta} {ns ns' : Namespace}

/-- The owner speaks of no mark. -/
def Plain (m : NamespaceMeta) : Prop :=
  ∀ k ∈ Vocabulary.isolationPendingAnnotation :: marks, m.annotations.get? k = none

/-- What the owner of a namespace does not speak of is as it was. -/
structure Spared (m : NamespaceMeta) (ns ns' : Namespace) : Prop where
  labels : ∀ k, m.labels.get? k = none → ns'.labels.get? k = ns.labels.get? k
  annotations : ∀ k, m.annotations.get? k = none →
    k ∉ Vocabulary.isolationPendingAnnotation :: marks →
    ns'.annotations.get? k = ns.annotations.get? k

theorem spared_converged (m : NamespaceMeta) (ns : Namespace) : m.Spared ns (m.converged ns) := by
  refine ⟨fun k hk => ?_, fun k hk hmark => ?_⟩
  · rw [get?_labels_converged, hk]
    rfl
  · rw [get?_annotations_converged, hk, if_neg fun h => hmark (List.mem_cons_of_mem _ h.1)]
    rfl

theorem Spared.isolated (h : m.Spared ns ns') : m.Spared ns ns'.isolated := by
  refine ⟨h.labels, fun k hk hmark => ?_⟩
  rw [ns'.get?_annotations_isolated fun he => hmark (he ▸ List.mem_cons_self)]
  exact h.annotations k hk hmark

theorem Met.isolated (hm : m.Plain) (h : m.Met ns) : m.Met ns.isolated := by
  refine ⟨h.labels, fun k v hk => ?_, fun k hk => ?_⟩
  · rw [ns.get?_annotations_isolated, h.annotations k v hk]
    rintro rfl
    rw [hm _ List.mem_cons_self] at hk
    cases hk
  · have hne : k ≠ Vocabulary.isolationPendingAnnotation := by
      rintro rfl
      exact absurd hk (by decide)
    rw [Namespace.hasAnnotation, Dict.contains, ns.get?_annotations_isolated hne]
    exact h.unmarked k hk

end NamespaceMeta

end TenantCloud
