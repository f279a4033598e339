import Mathlib.Data.List.Induction
import TenantCloud.Object.Patch
import TenantCloud.Proofs.Json.Values

/-!
# Merge patches

`Json.mergePatch` is what the cluster makes of a value and a merge patch: the members of the patch
replace those of the value, at every depth, and a `null` takes one away. A patch of labels, written
as a merge patch, does what it says (`LabelPatch.read?_mergePatch`).
-/

set_option autoImplicit false

namespace TenantCloud

namespace Json

mutual

/-- A value after a merge patch. -/
def mergePatch (target : Json) : Json → Json
  | .obj ps => .obj (mergeMembers (target.members?.getD []) ps)
  | j => j

/-- Members after those of a merge patch. -/
def mergeMembers (ms : Members) : Members → Members
  | [] => ms
  | (k, j) :: ps =>
    if j = .null then mergeMembers (ms.filter (·.1 ≠ k)) ps
    else
      mergeMembers (ms.filter (·.1 ≠ k) ++ [(k, mergePatch ((last? ms k).getD .null) j)]) ps

end

end Json

/-! ## Pairs of a list -/

namespace Dict

variable {κ ν : Type} [Ord κ] [Std.TransOrd κ] [Std.LawfulEqOrd κ]

theorem ofList_append_singleton (l : List (κ × ν)) (k : κ) (v : ν) :
    ofList (l ++ [(k, v)]) = (ofList l).insert k v := by
  unfold ofList
  rw [List.foldl_append]
  rfl

variable [DecidableEq κ]

/-- Without the pairs of a key, the dictionary of a list lacks the key. -/
theorem ofList_filter_ne (l : List (κ × ν)) (k : κ) :
    ofList (l.filter (·.1 ≠ k)) = (ofList l).erase k := by
  induction l using List.reverseRecOn with
  | nil => rfl
  | append_singleton l e ih =>
    obtain ⟨q, v⟩ := e
    rw [List.filter_append, ofList_append_singleton]
    refine ext_get? fun k' => ?_
    by_cases hq : q = k
    · subst hq
      have hdrop : [(q, v)].filter (·.1 ≠ q) = [] := by simp
      rw [hdrop, List.append_nil, ih, get?_erase, get?_erase, get?_insert]
      split <;> simp [*]
    · have hkeep : [(q, v)].filter (·.1 ≠ k) = [(q, v)] := by simp [hq]
      rw [hkeep, ofList_append_singleton, ih, get?_insert, get?_erase, get?_erase, get?_insert]
      split
      · rename_i hk
        rw [if_neg (hk ▸ hq)]
      · rfl

theorem insert_erase (d : Dict κ ν) (k : κ) (v : ν) : (d.erase k).insert k v = d.insert k v := by
  refine ext_get? fun k' => ?_
  rw [get?_insert, get?_insert, get?_erase]
  split <;> rfl

end Dict

/-! ## Labels -/

namespace LabelPatch

open Json

variable {ms : Members} {d : Labels}

/-- Labels are read from members that are texts. -/
theorem read?_labels_iff : Wire.read? (.obj ms) = some d ↔
    ∃ l : List (String × String), ms = l.map (fun e => (e.1, .str e.2)) ∧ Dict.ofList l = d := by
  show Option.map Dict.ofList (List.mapM _ _) = some d ↔ _
  rw [Option.map_eq_some_iff]
  exact exists_congr fun l => and_congr_left fun _ => Wire.mapM_texts_iff

/-- One step of a patch, written as a step of a merge patch. -/
theorem read?_mergeOne (h : Wire.read? (.obj ms) = some d) (k : String) (v : Option String)
    (ps : Members) : ∃ ms', mergeMembers ms ((k, orNull (v.map .str)) :: ps) = mergeMembers ms' ps ∧
      Wire.read? (.obj ms') = some (applyOne d k v) := by
  obtain ⟨l, rfl, rfl⟩ := read?_labels_iff.1 h
  have hfilter : (l.map fun e => (e.1, Json.str e.2)).filter (·.1 ≠ k) =
      (l.filter (·.1 ≠ k)).map fun e => (e.1, Json.str e.2) := List.filter_map
  cases v with
  | none =>
    refine ⟨(l.map fun e => (e.1, Json.str e.2)).filter (·.1 ≠ k), ?_, ?_⟩
    · rw [mergeMembers]
      exact if_pos rfl
    · exact read?_labels_iff.2 ⟨_, hfilter, Dict.ofList_filter_ne l k⟩
  | some v =>
    refine ⟨(l.map fun e => (e.1, Json.str e.2)).filter (·.1 ≠ k) ++ [(k, .str v)], ?_, ?_⟩
    · rw [mergeMembers]
      have hset : orNull (Option.map Json.str (some v)) ≠ .null := nofun
      rw [if_neg hset]
      rfl
    · refine read?_labels_iff.2 ⟨l.filter (·.1 ≠ k) ++ [(k, v)], ?_, ?_⟩
      · rw [hfilter, List.map_append]
        rfl
      · rw [Dict.ofList_append_singleton, Dict.ofList_filter_ne, Dict.insert_erase]
        rfl

/-- The steps of a patch, one after the other. -/
theorem read?_mergeMembers (h : Wire.read? (.obj ms) = some d) (l : List (String × Option String)) :
    Wire.read? (.obj (mergeMembers ms (l.map fun e => (e.1, orNull (e.2.map .str))))) =
      some (l.foldl (fun acc e => applyOne acc e.1 e.2) d) := by
  induction l generalizing ms d with
  | nil => exact h
  | cons e l ih =>
    obtain ⟨ms', hmerge, hread⟩ := read?_mergeOne h e.1 e.2
      (l.map fun e => (e.1, orNull (e.2.map .str)))
    rw [List.map_cons, hmerge]
    exact ih hread

/-- A patch of labels, written as a merge patch, does what it says. -/
theorem read?_mergePatch (p : LabelPatch) (current : Option Labels) :
    Wire.read? (mergePatch (orNull (current.map Wire.write)) p.write) =
      some (p.apply (current.getD ∅)) := by
  have hcurrent : Wire.read? (.obj ((orNull (current.map Wire.write)).members?.getD [])) =
      some (current.getD ∅) := by
    cases current with
    | none => rfl
    | some labels => exact Wire.read?_write_dict labels
  exact read?_mergeMembers hcurrent p.toList

end LabelPatch

end TenantCloud
