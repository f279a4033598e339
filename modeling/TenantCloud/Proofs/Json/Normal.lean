import Mathlib.Data.String.Basic
import TenantCloud.Json.Basic

/-!
# Values in normal form

A value in normal form has the members of each object in strict name order. Putting members in
order, one by one, leaves such a list as it is (`Json.insertMember_of_lt`), so that the normal form
of a normal form is itself (`Json.normalize_normalize`). It is whole where the value was
(`Json.isWhole_normalize`).
-/

set_option autoImplicit false

namespace TenantCloud.Json

/-- Members in strict name order, their values in normal form. -/
structure Ordered (ms : Members) : Prop where
  sorted : ms.Pairwise fun a b => a.1 < b.1
  normal : ∀ m ∈ ms, normalize m.2 = m.2

variable {ms acc : Members} {m : String × Json} {name : String} {v : Json}

theorem mem_insertMember (h : m ∈ insertMember name v ms) : m = (name, v) ∨ m ∈ ms := by
  induction ms with
  | nil => simpa [insertMember] using h
  | cons p ms ih =>
    simp only [insertMember] at h
    split at h
    · simpa using h
    · split at h
      · rcases List.mem_cons.1 h with rfl | h
        · exact .inl rfl
        · exact .inr (List.mem_cons_of_mem _ h)
      · rcases List.mem_cons.1 h with rfl | h
        · exact .inr List.mem_cons_self
        · exact (ih h).imp_right (List.mem_cons_of_mem _)

theorem sorted_insertMember (h : ms.Pairwise fun a b => a.1 < b.1) :
    (insertMember name v ms).Pairwise fun a b => a.1 < b.1 := by
  induction ms with
  | nil => simp [insertMember]
  | cons p ms ih =>
    obtain ⟨hp, hms⟩ := List.pairwise_cons.1 h
    simp only [insertMember]
    split
    · rename_i hlt
      refine List.pairwise_cons.2 ⟨fun m hm => ?_, h⟩
      rcases List.mem_cons.1 hm with rfl | hm
      · exact hlt
      · exact hlt.trans (hp m hm)
    · split
      · rename_i heq
        exact List.pairwise_cons.2 ⟨fun m hm => heq ▸ hp m hm, hms⟩
      · rename_i hnlt hne
        refine List.pairwise_cons.2 ⟨fun m hm => ?_, ih hms⟩
        rcases mem_insertMember hm with rfl | hm
        · exact lt_of_le_of_ne (not_lt.1 hnlt) (Ne.symm hne)
        · exact hp m hm

theorem Ordered.insertMember (h : Ordered ms) (hv : normalize v = v) :
    Ordered (insertMember name v ms) := by
  refine ⟨sorted_insertMember h.sorted, fun m hm => ?_⟩
  rcases mem_insertMember hm with rfl | hm
  · exact hv
  · exact h.normal m hm

/-- A member behind all others goes to the end. -/
theorem insertMember_of_lt (h : ∀ m ∈ ms, m.1 < name) :
    Json.insertMember name v ms = ms ++ [(name, v)] := by
  induction ms with
  | nil => rfl
  | cons p ms ih =>
    have hp : p.1 < name := h p List.mem_cons_self
    rw [Json.insertMember, if_neg hp.not_gt, if_neg hp.ne',
      ih fun m hm => h m (List.mem_cons_of_mem _ hm)]
    rfl

/-- Ordered members that all stand behind others are put there as they are. -/
theorem normalizeMembers_of_ordered (h : Ordered (acc ++ ms)) :
    normalizeMembers ms acc = acc ++ ms := by
  induction ms generalizing acc with
  | nil => rw [normalizeMembers, List.append_nil]
  | cons p ms ih =>
    obtain ⟨name, v⟩ := p
    have hbehind : ∀ m ∈ acc, m.1 < name := by
      intro m hm
      exact (List.pairwise_append.1 h.sorted).2.2 m hm _ List.mem_cons_self
    rw [normalizeMembers, h.normal (name, v) (by simp), insertMember_of_lt hbehind, ih]
    · simp
    · simpa using h

mutual

/-- The normal form of a normal form is itself. -/
theorem normalize_normalize : (j : Json) → normalize (normalize j) = normalize j
  | .null => rfl
  | .bool _ => rfl
  | .int _ => rfl
  | .real _ => rfl
  | .str _ => rfl
  | .broken => rfl
  | .arr items => congrArg Json.arr (normalizeItems_normalizeItems items)
  | .obj ms => by
    have hordered := ordered_normalizeMembers ms [] ⟨.nil, nofun⟩
    exact congrArg Json.obj (@normalizeMembers_of_ordered _ [] hordered)

theorem normalizeItems_normalizeItems : (items : List Json) →
    normalizeItems (normalizeItems items) = normalizeItems items
  | [] => rfl
  | j :: items => by
    simp only [normalizeItems]
    rw [normalize_normalize j, normalizeItems_normalizeItems items]

theorem ordered_normalizeMembers : (ms acc : Members) → Ordered acc →
    Ordered (normalizeMembers ms acc)
  | [], _, h => h
  | (_, v) :: ms, _, h => ordered_normalizeMembers ms _ (h.insertMember (normalize_normalize v))

end

/-! ## Nothing breaks -/

theorem areWholeMembers_iff : areWholeMembers ms = true ↔ ∀ m ∈ ms, m.2.isWhole = true := by
  induction ms with
  | nil => simp [areWholeMembers]
  | cons m ms ih => simp [areWholeMembers, ih]

mutual

theorem isWhole_normalize : (j : Json) → j.isWhole = true → (normalize j).isWhole = true
  | .null, h | .bool _, h | .int _, h | .real _, h | .str _, h | .broken, h => h
  | .arr items, h => areWhole_normalizeItems items h
  | .obj ms, h => areWholeMembers_normalizeMembers ms [] h rfl

theorem areWhole_normalizeItems : (items : List Json) → areWhole items = true →
    areWhole (normalizeItems items) = true
  | [], _ => rfl
  | j :: items, h => by
    simp only [areWhole, normalizeItems, Bool.and_eq_true] at h ⊢
    exact ⟨isWhole_normalize j h.1, areWhole_normalizeItems items h.2⟩

theorem areWholeMembers_normalizeMembers : (ms acc : Members) → areWholeMembers ms = true →
    areWholeMembers acc = true → areWholeMembers (normalizeMembers ms acc) = true
  | [], _, _, hacc => hacc
  | (name, v) :: ms, acc, h, hacc => by
    simp only [areWholeMembers, Bool.and_eq_true] at h
    refine areWholeMembers_normalizeMembers ms _ h.2 (areWholeMembers_iff.2 fun m hm => ?_)
    rcases mem_insertMember hm with rfl | hm
    · exact isWhole_normalize v h.1
    · exact areWholeMembers_iff.1 hacc m hm

end

end TenantCloud.Json
