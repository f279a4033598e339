import TenantCloud.Proofs.Data.Dict
import TenantCloud.Proofs.Json.Normal
import TenantCloud.Proofs.Json.Records

/-!
# Values that come back

Texts, truth values, lists, dictionaries of texts and opaque values are read again from what they
are written as. A whole number is if it lies in the range of its type (`Json.intIn?_of_mem`,
`Json.nat?_of_lt`), which what was read does.
-/

set_option autoImplicit false

namespace TenantCloud

/-! ## Numbers -/

namespace Json

variable {lo hi n : Int} {bits k : Nat} {j : Json}

theorem intIn?_of_mem (h : lo ≤ n ∧ n ≤ hi) : intIn? lo hi (.int n) = some n := if_pos h

theorem mem_of_intIn? (h : intIn? lo hi j = some n) : lo ≤ n ∧ n ≤ hi := by
  unfold intIn? at h
  split at h
  · split at h
    · cases h
      assumption
    · cases h
  · cases h

theorem nat?_of_lt (h : k < 2 ^ bits) : nat? bits (.int k) = some k := by
  have hk : (k : Int) < 2 ^ bits := by exact_mod_cast h
  unfold nat?
  rw [intIn?_of_mem]
  · rfl
  · show 0 ≤ (k : Int) ∧ (k : Int) ≤ 2 ^ bits - 1
    omega

theorem lt_of_nat? (h : nat? bits j = some k) : k < 2 ^ bits := by
  obtain ⟨n, hn, rfl⟩ := Option.map_eq_some_iff.1 h
  have hmem : 0 ≤ n ∧ n ≤ 2 ^ bits - 1 := mem_of_intIn? hn
  have hnat : (n.toNat : Int) < 2 ^ bits := by omega
  exact_mod_cast hnat

end Json

/-! ## Texts, truth values, lists -/

namespace Wire

instance : Lossless String where
  reread _ := rfl
  ne_null _ _ := nofun

instance : Lossless Bool where
  reread _ := rfl
  ne_null _ _ := nofun

instance {α : Type} [Wire α] [Lossless α] : Lossless (List α) where
  reread {j l} h := by
    cases j with
    | arr items =>
      have hitems : ∀ a ∈ l, read? (write a) = some a := by
        intro a ha
        obtain ⟨j, -, hj⟩ := exists_of_mem_mapM h ha
        exact Lossless.reread hj
      show (l.map write).mapM read? = some l
      rw [List.mapM_map, mapM_eq_some_iff, List.forall₂_same]
      exact hitems
    | _ => cases h
  ne_null _ _ := nofun

/-! ## Dictionaries and opaque values -/

end Wire

/-- A dictionary is made from its listing. -/
theorem Dict.ofList_toList {κ ν : Type} [Ord κ] [Std.TransOrd κ] [Std.LawfulEqOrd κ]
    [DecidableEq κ] (d : Dict κ ν) : Dict.ofList d.toList = d := by
  refine Dict.ext_get? fun k => ?_
  cases h : d.get? k with
  | none =>
    refine Dict.get?_ofList_of_not_mem fun hk => ?_
    have hcontains : d.contains k = true := Dict.contains_iff_mem_keys.2 hk
    rw [Dict.contains, h] at hcontains
    cases hcontains
  | some v =>
    have hmem := Dict.get?_eq_some_iff.1 h
    refine Dict.get?_ofList_of_mem (List.mem_map_of_mem (f := (·.1)) hmem) fun e he hk => ?_
    have hget := Dict.get?_eq_some_iff.2 he
    rw [hk, h] at hget
    exact (Option.some.inj hget).symm

namespace Wire

/-- A dictionary of texts is read from members that are texts. -/
theorem mapM_texts_iff {ms : Json.Members} {l : List (String × String)} :
    ms.mapM (fun m => (read? m.2).map (m.1, ·)) = some l ↔
      ms = l.map fun e => (e.1, .str e.2) := by
  rw [mapM_eq_some_iff]
  constructor
  · intro h
    induction h with
    | nil => rfl
    | @cons m e ms l hm _ ih =>
      obtain ⟨k, j⟩ := m
      obtain ⟨s, hs, rfl⟩ := Option.map_eq_some_iff.1 hm
      cases j with
      | str t =>
        cases hs
        rw [ih]
        rfl
      | _ => cases hs
  · rintro rfl
    rw [List.forall₂_map_left_iff, List.forall₂_same]
    intro e _
    rfl

/-- Every dictionary of texts is read again, whatever it came from. -/
theorem read?_write_dict (d : Dict String String) : read? (write d) = some d := by
  have hlist : (d.toList.map fun e => (e.1, Json.str e.2)).mapM
      (fun m => (read? m.2).map (m.1, ·)) = some d.toList := mapM_texts_iff.2 rfl
  exact (congrArg (Option.map Dict.ofList) hlist).trans (congrArg some d.ofList_toList)

instance : Lossless (Dict String String) where
  reread _ := read?_write_dict _
  ne_null _ _ := nofun

theorem normalize_eq_null {j : Json} (h : j.normalize = .null) : j = .null := by
  cases j <;> first | rfl | cases h

instance : Lossless Json where
  reread {j a} h := by
    simp only [read?, Option.ite_none_right_eq_some, Option.some.injEq] at h
    obtain ⟨hwhole, rfl⟩ := h
    simp [read?, write, Json.isWhole_normalize j hwhole, Json.normalize_normalize]
  ne_null {j a} h hj hnull := by
    simp only [read?, Option.ite_none_right_eq_some, Option.some.injEq] at h
    obtain ⟨-, rfl⟩ := h
    exact hj (normalize_eq_null hnull)

end Wire

end TenantCloud
