/-!
# Dictionaries in key order

`Dict κ ν` holds at most one value per key, as a list of pairs in strictly increasing key order.
The order is part of the type, so two dictionaries with the same look-ups are equal
(`ext_get?`) and a listing of one is always in key order. Everything else is stated through
`get?`: `get?_insert`, `get?_erase`, `get?_filterMap`.
-/

set_option autoImplicit false

namespace TenantCloud

/-- Pairs in strictly increasing key order. -/
structure Dict (κ ν : Type) [Ord κ] where
  toList : List (κ × ν)
  sorted : toList.Pairwise fun a b => compare a.1 b.1 = .lt

namespace Dict

variable {κ ν ω : Type} [Ord κ]

@[ext] theorem ext {d e : Dict κ ν} (h : d.toList = e.toList) : d = e := by
  cases d; cases e; cases h; rfl

instance [DecidableEq κ] [DecidableEq ν] : DecidableEq (Dict κ ν) := fun d e =>
  decidable_of_iff (d.toList = e.toList) ⟨Dict.ext, fun h => h ▸ rfl⟩

/-- The dictionary without entries. -/
def empty : Dict κ ν := ⟨[], .nil⟩

instance : Inhabited (Dict κ ν) := ⟨empty⟩
instance : EmptyCollection (Dict κ ν) := ⟨empty⟩

def isEmpty (d : Dict κ ν) : Bool := d.toList.isEmpty
def size (d : Dict κ ν) : Nat := d.toList.length
def keys (d : Dict κ ν) : List κ := d.toList.map (·.1)
def values (d : Dict κ ν) : List ν := d.toList.map (·.2)

/-- The value at `k` in a list of pairs. -/
def find? (k : κ) : List (κ × ν) → Option ν
  | [] => none
  | (k', v) :: rest => if compare k k' = .eq then some v else find? k rest

/-- The value at `k`, if there is one. -/
def get? (d : Dict κ ν) (k : κ) : Option ν := find? k d.toList

def contains (d : Dict κ ν) (k : κ) : Bool := (d.get? k).isSome

/-- Put `v` at `k` into a list in key order, in place of what was there. -/
def insertList (k : κ) (v : ν) : List (κ × ν) → List (κ × ν)
  | [] => [(k, v)]
  | (k', v') :: rest =>
    match compare k k' with
    | .lt => (k, v) :: (k', v') :: rest
    | .eq => (k, v) :: rest
    | .gt => (k', v') :: insertList k v rest

/-- Drop the entry at `k` from a list of pairs. -/
def eraseList (k : κ) (l : List (κ × ν)) : List (κ × ν) :=
  l.filter fun e => compare k e.1 ≠ .eq

/-- Change or drop each value of a list of pairs. -/
def filterMapList (f : κ → ν → Option ω) (l : List (κ × ν)) : List (κ × ω) :=
  l.filterMap fun e => (f e.1 e.2).map (e.1, ·)

theorem mem_insertList {k : κ} {v : ν} {l : List (κ × ν)} {e : κ × ν}
    (h : e ∈ insertList k v l) : e = (k, v) ∨ e ∈ l := by
  induction l with
  | nil => simpa [insertList] using h
  | cons p rest ih =>
    simp only [insertList] at h
    split at h
    · simpa using h
    · rcases List.mem_cons.1 h with h | h
      · exact .inl h
      · exact .inr (List.mem_cons_of_mem _ h)
    · rcases List.mem_cons.1 h with h | h
      · exact .inr (h ▸ List.mem_cons_self)
      · exact (ih h).imp_right (List.mem_cons_of_mem _)

section Order

variable [Std.TransOrd κ] [Std.LawfulEqOrd κ]

theorem sorted_insertList {k : κ} {v : ν} {l : List (κ × ν)}
    (h : l.Pairwise fun a b => compare a.1 b.1 = .lt) :
    (insertList k v l).Pairwise fun a b => compare a.1 b.1 = .lt := by
  induction l with
  | nil => simp [insertList]
  | cons p rest ih =>
    obtain ⟨hp, hr⟩ := List.pairwise_cons.1 h
    simp only [insertList]
    split
    · next hc =>
      refine List.pairwise_cons.2 ⟨fun e he => ?_, h⟩
      rcases List.mem_cons.1 he with rfl | he
      · exact hc
      · exact Std.TransCmp.lt_trans hc (hp e he)
    · next hc =>
      have hk : k = p.1 := Std.LawfulEqCmp.eq_of_compare hc
      exact List.pairwise_cons.2 ⟨fun e he => hk ▸ hp e he, hr⟩
    · next hc =>
      refine List.pairwise_cons.2 ⟨fun e he => ?_, ih hr⟩
      rcases mem_insertList he with rfl | he
      · exact Std.OrientedCmp.gt_iff_lt.1 hc
      · exact hp e he

/-- `d` with `v` at `k`. -/
def insert (d : Dict κ ν) (k : κ) (v : ν) : Dict κ ν :=
  ⟨insertList k v d.toList, sorted_insertList d.sorted⟩

/-- The pairs of `l`, a later pair replacing an earlier one with its key. -/
def ofList (l : List (κ × ν)) : Dict κ ν := l.foldl (fun d e => d.insert e.1 e.2) empty

/-- One entry. -/
def single (k : κ) (v : ν) : Dict κ ν := ⟨[(k, v)], List.pairwise_singleton _ _⟩

/-- `d` with the entries of `e`, which win. -/
def union (d e : Dict κ ν) : Dict κ ν := e.toList.foldl (fun acc p => acc.insert p.1 p.2) d

end Order

/-- `d` without `k`. -/
def erase (d : Dict κ ν) (k : κ) : Dict κ ν :=
  ⟨eraseList k d.toList, d.sorted.filter _⟩

theorem sorted_filterMapList {f : κ → ν → Option ω} {l : List (κ × ν)}
    (h : l.Pairwise fun a b => compare a.1 b.1 = .lt) :
    (filterMapList f l).Pairwise fun a b => compare a.1 b.1 = .lt := by
  refine List.Pairwise.filterMap _ (fun a b hab a' ha b' hb => ?_) h
  simp only [Option.map_eq_some_iff] at ha hb
  obtain ⟨_, _, rfl⟩ := ha
  obtain ⟨_, _, rfl⟩ := hb
  exact hab

/-- Change or drop each value. -/
def filterMap (d : Dict κ ν) (f : κ → ν → Option ω) : Dict κ ω :=
  ⟨filterMapList f d.toList, sorted_filterMapList d.sorted⟩

/-- Change each value. -/
def mapValues (d : Dict κ ν) (f : ν → ω) : Dict κ ω := d.filterMap fun _ v => some (f v)

/-- The entries that satisfy `p`. -/
def filter (d : Dict κ ν) (p : κ → ν → Bool) : Dict κ ν :=
  d.filterMap fun k v => if p k v then some v else none

/-! ## Look-ups -/

theorem get?_empty (k : κ) : (empty : Dict κ ν).get? k = none := rfl

theorem find?_eq_none {k : κ} {l : List (κ × ν)} (h : ∀ e ∈ l, compare k e.1 ≠ .eq) :
    find? k l = none := by
  induction l with
  | nil => rfl
  | cons p rest ih =>
    obtain ⟨k', v⟩ := p
    rw [find?, if_neg (h _ List.mem_cons_self)]
    exact ih fun e he => h e (List.mem_cons_of_mem _ he)

section Lookup

variable [Std.LawfulEqOrd κ]

section Decidable

variable [DecidableEq κ]

theorem find?_insertList (k k' : κ) (v : ν) (l : List (κ × ν)) :
    find? k' (insertList k v l) = if k' = k then some v else find? k' l := by
  induction l with
  | nil => simp [insertList, find?]
  | cons p rest ih =>
    obtain ⟨q, w⟩ := p
    simp only [insertList]
    split
    · simp [find?]
    · next hc =>
      have hk : k = q := Std.LawfulEqCmp.eq_of_compare hc
      subst hk
      by_cases h : k' = k <;> simp [find?, h]
    · next hc =>
      have hk : k ≠ q := fun h => by simp [h] at hc
      by_cases h : k' = k
      · subst h; simp [find?, ih, hk]
      · simp [find?, ih, h]

theorem get?_insert [Std.TransOrd κ] (d : Dict κ ν) (k k' : κ) (v : ν) :
    (d.insert k v).get? k' = if k' = k then some v else d.get? k' :=
  find?_insertList k k' v d.toList

theorem get?_insert_self [Std.TransOrd κ] (d : Dict κ ν) (k : κ) (v : ν) :
    (d.insert k v).get? k = some v := by
  simp [get?_insert]

theorem find?_eraseList (k k' : κ) (l : List (κ × ν)) :
    find? k' (eraseList k l) = if k' = k then none else find? k' l := by
  induction l with
  | nil => simp [eraseList, find?]
  | cons p rest ih =>
    obtain ⟨q, w⟩ := p
    simp only [eraseList, List.filter_cons] at ih ⊢
    by_cases hq : k = q
    · subst hq
      by_cases h : k' = k <;> simp [find?, h] <;> simpa [h] using ih
    · by_cases h : k' = k
      · subst h; simpa [find?, hq] using ih
      · by_cases hk : k' = q
        · simp [find?, hq, hk, Ne.symm hq]
        · simpa [find?, hq, h, hk] using ih

theorem get?_erase (d : Dict κ ν) (k k' : κ) :
    (d.erase k).get? k' = if k' = k then none else d.get? k' :=
  find?_eraseList k k' d.toList

end Decidable

theorem find?_filterMapList (f : κ → ν → Option ω) (k : κ) {l : List (κ × ν)}
    (h : l.Pairwise fun a b => compare a.1 b.1 = .lt) :
    find? k (filterMapList f l) = (find? k l).bind (f k) := by
  induction l with
  | nil => rfl
  | cons p rest ih =>
    obtain ⟨q, w⟩ := p
    obtain ⟨hp, hr⟩ := List.pairwise_cons.1 h
    have ih := ih hr
    simp only [filterMapList] at ih ⊢
    by_cases hk : k = q
    · subst hk
      have hnone : find? k rest = none := find?_eq_none fun e he => by
        have := hp e he; simp_all
      cases hf : f k w with
      | none => simp [find?, hf, ih, hnone]
      | some z => simp [find?, hf]
    · cases hf : f q w with
      | none => simp [find?, hf, hk, ih]
      | some z => simp [find?, hf, hk, ih]

theorem get?_filterMap (d : Dict κ ν) (f : κ → ν → Option ω) (k : κ) :
    (d.filterMap f).get? k = (d.get? k).bind (f k) :=
  find?_filterMapList f k d.sorted

theorem get?_mapValues (d : Dict κ ν) (f : ν → ω) (k : κ) :
    (d.mapValues f).get? k = (d.get? k).map f := by
  rw [mapValues, get?_filterMap]; cases d.get? k <;> rfl

theorem find?_eq_some_iff {k : κ} {v : ν} {l : List (κ × ν)}
    (h : l.Pairwise fun a b => compare a.1 b.1 = .lt) : find? k l = some v ↔ (k, v) ∈ l := by
  induction l with
  | nil => simp [find?]
  | cons p rest ih =>
    obtain ⟨q, w⟩ := p
    obtain ⟨hp, hr⟩ := List.pairwise_cons.1 h
    have hne : ∀ u, (q, u) ∉ rest := fun u hu => by
      have := hp _ hu; simp at this
    by_cases hk : k = q
    · subst hk; simp [find?, hne, eq_comm]
    · simp [find?, hk, ih hr]

theorem get?_eq_some_iff {d : Dict κ ν} {k : κ} {v : ν} : d.get? k = some v ↔ (k, v) ∈ d.toList :=
  find?_eq_some_iff d.sorted

theorem contains_iff_mem_keys {d : Dict κ ν} {k : κ} : d.contains k = true ↔ k ∈ d.keys := by
  simp only [contains, Option.isSome_iff_exists, get?_eq_some_iff, keys, List.mem_map]
  exact ⟨fun ⟨v, h⟩ => ⟨(k, v), h, rfl⟩, fun ⟨⟨_, v⟩, h, e⟩ => ⟨v, e ▸ h⟩⟩

/-- A list in strict key order is determined by its members. -/
theorem eq_of_mem_iff [Std.TransOrd κ] {l m : List (κ × ν)}
    (hl : l.Pairwise fun a b => compare a.1 b.1 = .lt)
    (hm : m.Pairwise fun a b => compare a.1 b.1 = .lt) (h : ∀ e, e ∈ l ↔ e ∈ m) : l = m := by
  induction l generalizing m with
  | nil => exact (List.eq_nil_iff_forall_not_mem.2 fun e he => by simpa using (h e).2 he).symm
  | cons a l ih =>
    obtain ⟨ha, hl'⟩ := List.pairwise_cons.1 hl
    cases m with
    | nil => simpa using (h a).1 List.mem_cons_self
    | cons b m =>
      obtain ⟨hb, hm'⟩ := List.pairwise_cons.1 hm
      have hab : a = b := by
        rcases List.mem_cons.1 ((h a).1 List.mem_cons_self) with e | e
        · exact e
        · rcases List.mem_cons.1 ((h b).2 List.mem_cons_self) with e' | e'
          · exact e'.symm
          · have := Std.TransCmp.lt_trans (ha b e') (hb a e); simp at this
      subst hab
      congr 1
      refine ih hl' hm' fun e => ⟨fun he => ?_, fun he => ?_⟩
      · rcases List.mem_cons.1 ((h e).1 (List.mem_cons_of_mem _ he)) with rfl | h'
        · have := ha e he; simp at this
        · exact h'
      · rcases List.mem_cons.1 ((h e).2 (List.mem_cons_of_mem _ he)) with rfl | h'
        · have := hb e he; simp at this
        · exact h'

/-- Equal look-ups make equal dictionaries. -/
theorem ext_get? [Std.TransOrd κ] {d e : Dict κ ν} (h : ∀ k, d.get? k = e.get? k) : d = e :=
  Dict.ext <| eq_of_mem_iff d.sorted e.sorted fun p => by
    obtain ⟨k, v⟩ := p
    rw [← get?_eq_some_iff, ← get?_eq_some_iff, h]

end Lookup

end Dict

end TenantCloud
