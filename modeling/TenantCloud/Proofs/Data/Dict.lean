import Mathlib.Data.List.Perm.Subperm
import TenantCloud.Data.Dict

/-!
# Dictionaries built step by step

A dictionary lists each key once, so a fold over it that sets one key per entry can be read at one
key (`Dict.get?_foldl`). What union, filter and the dictionary of a list hold follows. Of two
dictionaries of one size, the keys of one are those of the other as soon as they are among them
(`Dict.contains_iff_of_size_eq`).
-/

set_option autoImplicit false

namespace TenantCloud

namespace Dict

variable {κ ν ω : Type} [Ord κ] [Std.LawfulEqOrd κ]

theorem get?_filter (d : Dict κ ν) (p : κ → ν → Bool) (k : κ) :
    (d.filter p).get? k = (d.get? k).filter (p k) := by
  rw [filter, get?_filterMap]
  cases d.get? k with
  | none => rfl
  | some v =>
    show (if p k v then some v else none) = _
    rw [Option.filter_some]

theorem isEmpty_iff {d : Dict κ ν} : d.isEmpty = true ↔ ∀ k, d.get? k = none := by
  refine ⟨fun h k => ?_, fun h => ?_⟩
  · rw [get?, List.isEmpty_iff.1 h]
    rfl
  · refine List.isEmpty_iff.2 (List.eq_nil_iff_forall_not_mem.2 fun e he => ?_)
    have hsome : d.get? e.1 = some e.2 := get?_eq_some_iff.2 he
    rw [h] at hsome
    cases hsome

theorem nodup_keys (d : Dict κ ν) : d.keys.Nodup := by
  refine List.pairwise_map.2 (d.sorted.imp fun {a b} hlt heq => ?_)
  rw [heq] at hlt
  simp at hlt

theorem contains_iff_of_size_eq {a : Dict κ ν} {b : Dict κ ω} (hsize : a.size = b.size)
    (h : ∀ k, a.contains k = true → b.contains k = true) (k : κ) :
    a.contains k = true ↔ b.contains k = true := by
  have hsub : a.keys ⊆ b.keys := fun k hk =>
    contains_iff_mem_keys.1 (h k (contains_iff_mem_keys.2 hk))
  have hlen : b.keys.length ≤ a.keys.length := by
    unfold keys
    rw [List.length_map, List.length_map]
    exact Nat.le_of_eq hsize.symm
  have hperm := (List.subperm_of_subset a.nodup_keys hsub).perm_of_length_le hlen
  rw [contains_iff_mem_keys, contains_iff_mem_keys, hperm.mem_iff]

theorem size_eq_of_contains_iff {a : Dict κ ν} {b : Dict κ ω}
    (h : ∀ k, a.contains k = true ↔ b.contains k = true) : a.size = b.size := by
  have hperm : a.keys.Perm b.keys :=
    (List.perm_ext_iff_of_nodup a.nodup_keys b.nodup_keys).2 fun k => by
      rw [← contains_iff_mem_keys, ← contains_iff_mem_keys]
      exact h k
  have hlen := hperm.length_eq
  unfold keys at hlen
  rwa [List.length_map, List.length_map] at hlen

variable [DecidableEq κ]

/-- A fold that sets one key per entry, read at a key. -/
theorem get?_foldl {f : Dict κ ν → κ × ω → Dict κ ν} {g : ω → Option ν}
    (hf : ∀ d e k, (f d e).get? k = if k = e.1 then g e.2 else d.get? k) {l : List (κ × ω)}
    (hl : l.Pairwise fun a b => compare a.1 b.1 = .lt) (d : Dict κ ν) (k : κ) :
    (l.foldl f d).get? k = ((find? k l).map g).getD (d.get? k) := by
  induction l generalizing d with
  | nil => rfl
  | cons e rest ih =>
    obtain ⟨q, w⟩ := e
    obtain ⟨hq, hr⟩ := List.pairwise_cons.1 hl
    rw [List.foldl_cons, ih hr, hf]
    by_cases hk : k = q
    · subst hk
      have hnone : find? k rest = none := find?_eq_none fun e he => by
        rw [hq e he]
        decide
      simp [find?, hnone]
    · simp [find?, hk]

theorem get?_union [Std.TransOrd κ] (d e : Dict κ ν) (k : κ) :
    (d.union e).get? k = (e.get? k <|> d.get? k) := by
  rw [union, get?_foldl (g := some) (fun d e k => get?_insert d e.1 k e.2) e.sorted]
  show ((e.get? k).map some).getD _ = _
  cases e.get? k <;> rfl

theorem get?_single (k k' : κ) (v : ν) :
    (single k v).get? k' = if k' = k then some v else none := by
  simp [single, get?, find?]

theorem eq_of_get?_single {k k' : κ} {v v' : ν} (h : (single k v).get? k' = some v') :
    k' = k ∧ v' = v := by
  rw [get?_single] at h
  split at h
  · rename_i hk
    exact ⟨hk, (Option.some.inj h).symm⟩
  · cases h

/-- A key that no pair of the list has is missing from the dictionary of the list. -/
theorem get?_ofList_of_not_mem [Std.TransOrd κ] {l : List (κ × ν)} {k : κ}
    (h : k ∉ l.map (·.1)) : (ofList l).get? k = none := by
  have key : ∀ (l : List (κ × ν)) (d : Dict κ ν), k ∉ l.map (·.1) → d.get? k = none →
      (l.foldl (fun d e => d.insert e.1 e.2) d).get? k = none := by
    intro l
    induction l with
    | nil => exact fun d _ hd => hd
    | cons e rest ih =>
      intro d hk hd
      simp only [List.map_cons, List.mem_cons, not_or] at hk
      exact ih _ hk.2 (by rw [get?_insert, if_neg hk.1, hd])
  exact key l empty h (get?_empty k)

/-- A key whose pairs in a list all have one value has it in the dictionary of the list. -/
theorem get?_ofList_of_mem [Std.TransOrd κ] {l : List (κ × ν)} {k : κ} {v : ν}
    (hk : k ∈ l.map (·.1)) (hv : ∀ e ∈ l, e.1 = k → e.2 = v) : (ofList l).get? k = some v := by
  have key : ∀ (l : List (κ × ν)) (d : Dict κ ν), (∀ e ∈ l, e.1 = k → e.2 = v) →
      k ∈ l.map (·.1) ∨ d.get? k = some v →
      (l.foldl (fun d e => d.insert e.1 e.2) d).get? k = some v := by
    intro l
    induction l with
    | nil => exact fun d _ h => h.resolve_left List.not_mem_nil
    | cons e rest ih =>
      intro d hv h
      refine ih _ (fun e he => hv e (List.mem_cons_of_mem _ he)) ?_
      by_cases he : k = e.1
      · exact .inr (by rw [get?_insert, if_pos he, hv e List.mem_cons_self he.symm])
      · refine h.imp (fun hm => (List.mem_cons.1 hm).resolve_left he) fun hd => ?_
        rw [get?_insert, if_neg he, hd]
  exact key l empty hv (.inl hk)

theorem insert_of_get? [Std.TransOrd κ] {d : Dict κ ν} {k : κ} {v : ν} (h : d.get? k = some v) :
    d.insert k v = d := by
  refine ext_get? fun k' => ?_
  rw [get?_insert]
  split
  · rename_i hk
    rw [hk, h]
  · rfl

end Dict

end TenantCloud
