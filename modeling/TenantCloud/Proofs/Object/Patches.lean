import TenantCloud.Proofs.Data.Dict
import TenantCloud.Reconcile.Namespace

/-!
# What patches do to labels

After a patch each key has the value that the patch gives it, none where the patch takes it away,
and the value from before where the patch does not name it (`LabelPatch.get?_apply`).
`Namespace.hasAnnotation_patched` says the same of a patched namespace, and
`NamespaceMeta.get?_annotationPatch` which keys the patch of an owner names at all. A single label
is set by `Metadata.label?_setLabel`.
-/

set_option autoImplicit false

namespace TenantCloud

namespace LabelPatch

/-- What a patch makes of the value at a key. -/
theorem get?_apply (p : LabelPatch) (labels : Labels) (k : String) :
    (p.apply labels).get? k = (p.get? k).getD (labels.get? k) := by
  have hf : ∀ (d : Labels) (e : String × Option String) (k : String),
      (applyOne d e.1 e.2).get? k = if k = e.1 then e.2 else d.get? k := by
    rintro d ⟨q, _ | v⟩ k
    · exact Dict.get?_erase d q k
    · exact Dict.get?_insert d q k v
  rw [apply, Dict.get?_foldl (g := id) hf p.sorted, Option.map_id]
  rfl

theorem get?_applyTo (p : LabelPatch) (labels : Option Labels) (k : String) :
    ((p.applyTo labels).getD ∅).get? k = (p.get? k).getD ((labels.getD ∅).get? k) := by
  unfold applyTo
  split
  · rename_i h
    rw [Dict.isEmpty_iff.1 h]
    rfl
  · exact get?_apply p _ k

theorem get?_changes_of_none {current : Option Labels} {desired : Labels} {k : String}
    (h : desired.get? k = none) : (changes current desired).get? k = none := by
  rw [changes, Dict.get?_filterMap, h]
  rfl

theorem get?_removals_of_not_mem {current : Option Labels} {keys : List String} {k : String}
    (h : k ∉ keys) : (removals current keys).get? k = none := by
  refine Dict.get?_ofList_of_not_mem fun hk => h ?_
  obtain ⟨e, he, rfl⟩ := List.mem_map.1 hk
  obtain ⟨q, hq, rfl⟩ := List.mem_map.1 he
  exact (List.mem_filter.1 hq).1

end LabelPatch

/-! ## Annotations of namespaces -/

namespace Namespace

/-- The namespace with its labels and annotations patched. -/
def patched (ns : Namespace) (labels annotations : LabelPatch) : Namespace :=
  { ns with metadata := ns.metadata.patch labels annotations }

/-- A key that the patch names is there after it if the patch gives it a value; another key is
there if it was before. -/
theorem hasAnnotation_patched (ns : Namespace) (l a : LabelPatch) (k : String) :
    Namespace.hasAnnotation (ns.patched l a) k =
      match a.get? k with
      | some v => v.isSome
      | none => ns.hasAnnotation k := by
  show (((a.applyTo ns.metadata.annotations).getD ∅).get? k).isSome = _
  rw [LabelPatch.get?_applyTo]
  cases a.get? k <;> rfl

end Namespace

namespace NamespaceMeta

/-- The patch of an owner names no annotation but the wanted ones and the marks. -/
theorem get?_annotationPatch {m : NamespaceMeta} {k : String} (ns : Namespace)
    (hm : m.annotations.get? k = none) (hk : k ∉ marks) : (m.annotationPatch ns).get? k = none := by
  rw [annotationPatch, Dict.get?_union, LabelPatch.get?_removals_of_not_mem hk,
    LabelPatch.get?_changes_of_none hm]
  rfl

end NamespaceMeta

/-- One label is set and the others stay. -/
theorem Metadata.label?_setLabel (m : Metadata) (k k' v : String) :
    (m.setLabel k v).label? k' = if k' = k then some v else m.label? k' := by
  have hlabels : (m.labels.getD ∅).get? k' = m.label? k' := by
    unfold label?
    cases m.labels <;> rfl
  exact (Dict.get?_insert _ k k' v).trans (by rw [hlabels])

end TenantCloud
