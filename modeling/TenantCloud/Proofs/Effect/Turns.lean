import TenantCloud.Proofs.Effect.Race

/-!
# Who made which call

`Race.Runs` is a race with its `Turn`s: which pass made a call, in which state, and what it was
answered. What `Race.Reaches` reaches is run to, and the other way round (`Race.reaches_iff_runs`).
Between two calls of a pass the others may have changed everything, so that all it has to go by is
what its own calls were answered (`Pass.Recalls`). What holds of every call of a pass in that view
holds of its turns in every race (`Race.Runs.always`).
-/

set_option autoImplicit false

namespace TenantCloud

/-- A call, the state in which it was made, and the answer. -/
structure Race.Turn (σ : Type) where
  state : σ
  call : Call
  answer : Result call.Answer

namespace Pass

variable {σ : Type}

/-- Whatever the others made of the state, a pass remembers its own turns. -/
inductive Recalls (R : Responses σ) : Responses (List (Race.Turn σ))
  | answered {c : Call} {s s' : σ} {a : Result c.Answer} (past : List (Race.Turn σ)) :
      R c s a s' → Recalls R c past a (past ++ [⟨s, c, a⟩])

end Pass

namespace Race

variable {σ α : Type} {R : Responses σ} {r r' : Race σ α} {ts : List (Nat × Turn σ)} {i : Nat}

/-- A run of a race, and the turns that the passes took, each by the number of the pass. -/
inductive Runs (R : Responses σ) (r : Race σ α) : List (Nat × Turn σ) → Race σ α → Prop
  | refl : Runs R r [] r
  | answer {ts : List (Nat × Turn σ)} {r' : Race σ α} {i : Nat} {c : Call}
      {next : Result c.Answer → Pass α} {a : Result c.Answer} {s : σ} : Runs R r ts r' →
      r'.passes[i]? = some (.ask c next) → R c r'.state a s →
      Runs R r (ts ++ [(i, ⟨r'.state, c, a⟩)]) ⟨r'.passes.set i (next a), s⟩
  | tell {ts : List (Nat × Turn σ)} {r' : Race σ α} {i : Nat} {sig : Signal} {next : Pass α} :
      Runs R r ts r' → r'.passes[i]? = some (.tell sig next) →
      Runs R r ts ⟨r'.passes.set i next, r'.state⟩
  | clock {ts : List (Nat × Turn σ)} {r' : Race σ α} {i : Nat} {next : Timestamp → Pass α}
      (t : Timestamp) : Runs R r ts r' → r'.passes[i]? = some (.clock next) →
      Runs R r ts ⟨r'.passes.set i (next t), r'.state⟩

/-- The turns of one pass. -/
def turnsOf (i : Nat) (ts : List (Nat × Turn σ)) : List (Turn σ) :=
  (ts.filter (·.1 == i)).map Prod.snd

theorem turnsOf_concat (i j : Nat) (ts : List (Nat × Turn σ)) (t : Turn σ) :
    turnsOf i (ts ++ [(j, t)]) = if j = i then turnsOf i ts ++ [t] else turnsOf i ts := by
  by_cases h : j = i <;> simp [turnsOf, List.filter_append, h]

/-! ## Runs and steps -/

theorem Step.set {passes : List (Pass α)} {p p' : Pass α} {s s' : σ}
    (hp : passes[i]? = some p) (h : Pass.Step R (p, s) (p', s')) :
    Step R ⟨passes, s⟩ ⟨passes.set i p', s'⟩ := by
  obtain ⟨hi, rfl⟩ := List.getElem?_eq_some_iff.1 hp
  have hgo : Step R ⟨passes.take i ++ passes[i] :: passes.drop (i + 1), s⟩
      ⟨passes.take i ++ p' :: passes.drop (i + 1), s'⟩ := .go h
  rw [← List.drop_eq_getElem_cons hi, List.take_append_drop] at hgo
  rwa [List.set_eq_take_append_cons_drop, if_pos hi]

theorem Runs.step {r'' : Race σ α} (h : Runs R r ts r') (hs : Step R r' r'') :
    ∃ ts', Runs R r (ts ++ ts') r'' := by
  cases hs with
  | @go before after p p' s s' hstep =>
    have hp : (before ++ p :: after)[before.length]? = some p := by simp
    have hset : ∀ q, before ++ q :: after = (before ++ p :: after).set before.length q := by
      intro q
      simp
    rw [hset]
    cases hstep with
    | answer hr => exact ⟨_, h.answer hp hr⟩
    | tell =>
      refine ⟨[], ?_⟩
      rw [List.append_nil]
      exact h.tell hp
    | clock t =>
      refine ⟨[], ?_⟩
      rw [List.append_nil]
      exact h.clock t hp

/-- The runs of a race lead where its steps lead. -/
theorem reaches_iff_runs : r.Reaches R r' ↔ ∃ ts, Runs R r ts r' := by
  constructor
  · intro h
    induction h with
    | refl => exact ⟨[], .refl⟩
    | tail _ hs ih =>
      obtain ⟨ts, hrun⟩ := ih
      obtain ⟨ts', hrun'⟩ := hrun.step hs
      exact ⟨_, hrun'⟩
  · rintro ⟨ts, h⟩
    induction h with
    | refl => exact .refl
    | answer _ hp hr ih => exact ih.tail (.set hp (.answer hr))
    | tell _ hp ih => exact ih.tail (.set hp .tell)
    | clock t _ hp ih => exact ih.tail (.set hp (.clock t))

/-! ## What a pass remembers -/

/-- A pass of a race knows its turns, and each of them is one that it may take by what it knows. -/
theorem Runs.always {P : Nat → Call → List (Turn σ) → Prop} (h : Runs R r ts r')
    (hp : ∀ (i : Nat) (p : Pass α), r.passes[i]? = some p →
      p.Always (Pass.Recalls R) (P i) (fun _ _ => True) []) :
    (∀ (i : Nat) (p : Pass α), r'.passes[i]? = some p →
      p.Always (Pass.Recalls R) (P i) (fun _ _ => True) (turnsOf i ts)) ∧
    ∀ ts₁ i t ts₂, ts = ts₁ ++ (i, t) :: ts₂ → P i t.call (turnsOf i ts₁) := by
  -- A pass that takes no turn knows what it knew.
  have hset : ∀ {passes : List (Pass α)} {p' : Pass α} {ts ts' : List (Nat × Turn σ)} {i : Nat},
      (∀ (j : Nat) (p : Pass α), passes[j]? = some p →
        p.Always (Pass.Recalls R) (P j) (fun _ _ => True) (turnsOf j ts)) →
      (∀ j ≠ i, turnsOf j ts' = turnsOf j ts) →
      p'.Always (Pass.Recalls R) (P i) (fun _ _ => True) (turnsOf i ts') →
      ∀ (j : Nat) (p : Pass α), (passes.set i p')[j]? = some p →
        p.Always (Pass.Recalls R) (P j) (fun _ _ => True) (turnsOf j ts') := by
    intro passes p' ts ts' i hall hother hp' j p hj
    rw [List.getElem?_set] at hj
    split at hj
    · rename_i hij
      subst hij
      split at hj
      · cases hj
        exact hp'
      · cases hj
    · rename_i hij
      rw [hother j (Ne.symm hij)]
      exact hall j p hj
  induction h with
  | refl =>
    refine ⟨hp, fun ts₁ i t ts₂ hts => ?_⟩
    simp at hts
  | @answer ts r' i c next a s _ hi hr ih =>
    obtain ⟨hall, hturns⟩ := ih
    obtain ⟨hcall, hnext⟩ := hall i _ hi
    refine ⟨hset hall (fun j hj => ?_) ?_, fun ts₁ j t ts₂ hts => ?_⟩
    · rw [turnsOf_concat, if_neg (Ne.symm hj)]
    · rw [turnsOf_concat, if_pos rfl]
      exact hnext _ _ (.answered _ hr)
    · rcases List.eq_nil_or_concat ts₂ with rfl | ⟨ts₃, last, rfl⟩
      · obtain ⟨rfl, hlast⟩ := List.append_inj' hts rfl
        cases hlast
        exact hcall
      · rw [List.concat_eq_append, ← List.cons_append, ← List.append_assoc] at hts
        exact hturns ts₁ j t ts₃ (List.append_inj' hts rfl).1
  | @tell ts r' i sig next _ hi ih =>
    obtain ⟨hall, hturns⟩ := ih
    have hnext := hall i _ hi
    exact ⟨hset hall (fun _ _ => rfl) hnext, hturns⟩
  | @clock ts r' i next t _ hi ih =>
    obtain ⟨hall, hturns⟩ := ih
    exact ⟨hset hall (fun _ _ => rfl) (hall i _ hi t), hturns⟩

/-! ## Runs in a world -/

/-- The turn that a pass is about to take. -/
def turn? (r : Race World α) (i : Nat) : Option (Nat × Turn World) :=
  match r.passes[i]? with
  | some (.ask c _) => some (i, ⟨r.state, c, (World.perform c r.state).1⟩)
  | _ => none

/-- The turns of passes that go on in a certain order. -/
def turns (r : Race World α) : List Nat → List (Nat × Turn World)
  | [] => []
  | i :: order => (r.turn? i).toList ++ (r.goOn i).turns order

theorem Runs.goOn {r r' : Race World α} {ts : List (Nat × Turn World)} {flaky : Prop}
    (h : Runs (World.Responds flaky) r ts r') (i : Nat) :
    Runs (World.Responds flaky) r (ts ++ (r'.turn? i).toList) (r'.goOn i) := by
  unfold turn? Race.goOn
  split
  · rename_i hi
    simp only [hi]
    exact h.answer hi (.carried _ r'.state r'.state.now)
  · rename_i hno
    rw [Option.toList_none, List.append_nil]
    split
    · rename_i hi
      exact absurd hi (hno _ _)
    · rename_i hi
      exact h.tell hi
    · rename_i hi
      exact h.clock _ hi
    · exact h

theorem runs_turns {flaky : Prop} (r : Race World α) (order : List Nat) :
    Runs (World.Responds flaky) r (r.turns order) (order.foldl Race.goOn r) := by
  have hfrom : ∀ {r' : Race World α} {ts : List (Nat × Turn World)},
      Runs (World.Responds flaky) r ts r' →
      Runs (World.Responds flaky) r (ts ++ r'.turns order) (order.foldl Race.goOn r') := by
    induction order with
    | nil =>
      intro r' ts h
      rw [turns, List.append_nil]
      exact h
    | cons i order ih =>
      intro r' ts h
      rw [turns, ← List.append_assoc]
      exact ih (h.goOn i)
  exact hfrom .refl

end Race

end TenantCloud
