import TenantCloud.Proofs.Json.Merge
import TenantCloud.Proofs.Object.Convergence

/-!
# Patches that do no more than is asked for

`LabelPatch.converging` is the patch that sets what is wanted and takes away what is to go, which is
what the owner of a namespace patches with. `LabelPatch.converging_minimal` says that it brings
labels to just that form (`LabelPatch.AsAsked`), leaves every other key alone, names no key in vain,
and has nothing left to do afterwards.
-/

set_option autoImplicit false

namespace TenantCloud

namespace LabelPatch

variable {current : Option Labels} {desired : Labels} {remove : List String} {k : String}

/-- Sets what is wanted and takes away what is to go. -/
def converging (current : Option Labels) (desired : Labels) (remove : List String) : LabelPatch :=
  Dict.union (changes current desired) (removals current remove)

/-- Labels have what is wanted and lack what is to go. -/
structure AsAsked (labels : Option Labels) (desired : Labels) (remove : List String) : Prop where
  wanted : ∀ k v, desired.get? k = some v → (labels.getD ∅).get? k = some v
  gone : ∀ k ∈ remove, (labels.getD ∅).get? k = none

theorem get?_converging (hdisjoint : ∀ k ∈ remove, desired.get? k = none) :
    (converging current desired remove).get? k =
      if k ∈ remove then if (current.getD ∅).contains k = true then some none else none
      else (changes current desired).get? k := by
  rw [converging, Dict.get?_union, get?_removals]
  by_cases hk : k ∈ remove
  · rw [get?_changes_of_none (hdisjoint k hk)]
    simp only [hk, true_and, if_true]
    split <;> rfl
  · simp [hk]

/-- What the patch makes of the labels, key by key. -/
theorem get?_applyTo_converging (hdisjoint : ∀ k ∈ remove, desired.get? k = none) :
    (((converging current desired remove).applyTo current).getD ∅).get? k =
      if k ∈ remove then none else (desired.get? k <|> (current.getD ∅).get? k) := by
  have hchanges := get?_applyTo_changes current desired k
  rw [get?_applyTo] at hchanges
  rw [get?_applyTo, get?_converging hdisjoint]
  split
  · split
    · rfl
    · rename_i hmissing
      simpa [Dict.contains] using hmissing
  · exact hchanges

theorem asAsked_applyTo_converging (hdisjoint : ∀ k ∈ remove, desired.get? k = none) :
    AsAsked ((converging current desired remove).applyTo current) desired remove := by
  constructor
  · intro k v hk
    have hkept : k ∉ remove := by
      intro hgone
      rw [hdisjoint k hgone] at hk
      cases hk
    rw [get?_applyTo_converging hdisjoint, if_neg hkept, hk]
    rfl
  · intro k hk
    rw [get?_applyTo_converging hdisjoint, if_pos hk]

/-- There is nothing to patch just where the labels are as asked for. -/
theorem isEmpty_converging_iff (hdisjoint : ∀ k ∈ remove, desired.get? k = none) :
    (converging current desired remove).isEmpty = true ↔ AsAsked current desired remove := by
  rw [Dict.isEmpty_iff]
  constructor
  · intro hempty
    have happlied : (converging current desired remove).applyTo current = current :=
      applyTo_of_isEmpty (Dict.isEmpty_iff.2 hempty) current
    rw [← happlied]
    exact asAsked_applyTo_converging hdisjoint
  · intro h k
    rw [get?_converging hdisjoint]
    split
    · rename_i hk
      simp [Dict.contains, h.gone k hk]
    · exact Dict.isEmpty_iff.1 (isEmpty_changes.2 h.wanted) k

/-- Each key that the patch names gets another value, or goes. -/
theorem ne_of_contains_converging (hdisjoint : ∀ k ∈ remove, desired.get? k = none)
    (h : (converging current desired remove).contains k = true) :
    (((converging current desired remove).applyTo current).getD ∅).get? k ≠
      (current.getD ∅).get? k := by
  rw [Dict.contains, get?_converging hdisjoint] at h
  rw [get?_applyTo_converging hdisjoint]
  by_cases hk : k ∈ remove
  · rw [if_pos hk] at h ⊢
    intro hnone
    rw [Dict.contains, ← hnone] at h
    cases h
  · rw [if_neg hk, get?_changes] at h
    rw [if_neg hk]
    cases hv : desired.get? k with
    | none =>
      rw [hv] at h
      cases h
    | some v =>
      intro hsame
      have hhad : (current.getD ∅).get? k = some v := hsame.symm
      rw [hv, Option.bind_some, if_pos hhad] at h
      cases h

/-- Labels that are missing count as none. -/
theorem getD_applyTo (p : LabelPatch) (labels : Option Labels) :
    (p.applyTo labels).getD ∅ = p.apply (labels.getD ∅) := by
  refine Dict.ext_get? fun k => ?_
  rw [get?_applyTo, get?_apply]

/-- The patch brings labels to what is asked for and does nothing else: it leaves the other keys
alone, is empty just where there is nothing to do, names no key in vain, and has nothing left to do
afterwards. The cluster, which takes it as a merge patch, makes the same of it. -/
theorem converging_minimal (current : Option Labels) (desired : Labels) (remove : List String)
    (hdisjoint : ∀ k ∈ remove, desired.get? k = none) :
    let patch := converging current desired remove
    let result := patch.applyTo current
    AsAsked result desired remove ∧
      (∀ k, desired.get? k = none → k ∉ remove →
        (result.getD ∅).get? k = (current.getD ∅).get? k) ∧
      (patch.isEmpty = true ↔ AsAsked current desired remove) ∧
      (∀ k, patch.contains k = true → (result.getD ∅).get? k ≠ (current.getD ∅).get? k) ∧
      (converging result desired remove).isEmpty = true ∧
      Wire.read? (Json.mergePatch (Json.orNull (current.map Wire.write)) patch.write) =
        some (result.getD ∅) := by
  have hresult : AsAsked ((converging current desired remove).applyTo current) desired remove :=
    asAsked_applyTo_converging hdisjoint
  refine ⟨hresult, ?_, isEmpty_converging_iff hdisjoint, ?_, (isEmpty_converging_iff hdisjoint).2
    hresult, ?_⟩
  · intro k hk hkept
    rw [get?_applyTo_converging hdisjoint, if_neg hkept, hk]
    rfl
  · exact fun k h => ne_of_contains_converging hdisjoint h
  · rw [read?_mergePatch, getD_applyTo]

/-- One value changes, one is new, one key goes, and one is as wanted. -/
theorem converging_minimal_mixed :
    let current : Labels := .ofList [("a", "1"), ("b", "2"), ("extra", "x"), ("gone", "y")]
    let desired : Labels := .ofList [("a", "1"), ("b", "3"), ("c", "4")]
    let remove := ["gone", "never-there"]
    let patch : LabelPatch := .ofList [("b", some "3"), ("c", some "4"), ("gone", none)]
    converging (some current) desired remove = patch ∧
      patch.applyTo (some current) =
        some (.ofList [("a", "1"), ("b", "3"), ("c", "4"), ("extra", "x")]) ∧
      AsAsked (patch.applyTo (some current)) desired remove ∧
      (converging (patch.applyTo (some current)) desired remove).isEmpty = true := by
  intro current desired remove patch
  have hpatch : converging (some current) desired remove = patch := by decide +kernel
  obtain ⟨hasked, -, -, -, hempty, -⟩ :=
    converging_minimal (some current) desired remove (by decide +kernel)
  rw [hpatch] at hasked hempty
  exact ⟨hpatch, by decide +kernel, hasked, hempty⟩

end LabelPatch

/-- The patches of the owner of a namespace. -/
theorem NamespaceMeta.patches_eq_converging (m : NamespaceMeta) (ns : Namespace) :
    m.labelPatch ns = LabelPatch.converging ns.metadata.labels m.labels [] ∧
      m.annotationPatch ns =
        LabelPatch.converging ns.metadata.annotations m.annotations marks :=
  ⟨rfl, rfl⟩

end TenantCloud
