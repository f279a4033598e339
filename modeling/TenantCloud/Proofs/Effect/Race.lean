import TenantCloud.Proofs.Effect.Always

/-!
# Passes side by side

A `Race` is a list of passes over one state. Each goes on by one call at a time, in any order. An
`Accord` is what the passes promise each other: an invariant, and how the state may change.
`Pass.Amid` says of one pass that it keeps the accord while the others do, and that every end of it
satisfies a predicate; where each pass does so alone, all do so together (`Race.Agreed.reaches`),
and every race can come to its end (`Race.exists_end`).

In a world, calls are carried out at any time or, where it is flaky, may fail without effect
(`World.Responds`); `Attempt.Amid` is `Pass.Amid` for attempts there.
-/

set_option autoImplicit false

namespace TenantCloud

/-- What passes over one state promise each other. -/
structure Accord (σ : Type) where
  holds : σ → Prop
  /-- The state may change so. -/
  leads : σ → σ → Prop
  refl : ∀ s, leads s s
  trans : ∀ {s s' s''}, leads s s' → leads s' s'' → leads s s''

namespace Accord

variable {σ : Type} {A : Accord σ} {s s' s'' : σ}

/-- A state that others may have made of this one. -/
structure Next (A : Accord σ) (s s' : σ) : Prop where
  before : A.holds s
  after : A.holds s'
  leads : A.leads s s'

theorem Next.refl (h : A.holds s) : A.Next s s := ⟨h, h, A.refl s⟩

theorem Next.trans (h : A.Next s s') (h' : A.Next s' s'') : A.Next s s'' :=
  ⟨h.before, h'.after, A.trans h.leads h'.leads⟩

/-- What holds of a state holds of every one that others may make of it. -/
def Stable (A : Accord σ) (p : σ → Prop) : Prop := ∀ s s', A.Next s s' → p s → p s'

end Accord

namespace Pass

variable {σ α β : Type} {A : Accord σ} {R : Responses σ}

/-- Before each call the others may have changed the state; the call keeps the accord, and every
end satisfies `Q`. -/
def Amid (A : Accord σ) (R : Responses σ) (Q : α → σ → Prop) : Pass α → σ → Prop
  | done a, s => Q a s
  | ask c next, s => ∀ s', A.Next s s' → ∀ r s'', R c s' r s'' →
      A.Next s' s'' ∧ (next r).Amid A R Q s''
  | tell _ next, s => next.Amid A R Q s
  | clock next, s => ∀ t, (next t).Amid A R Q s

namespace Amid

variable {Q Q' : α → σ → Prop} {p p' : Pass α} {s s' : σ}

theorem bind {Q : β → σ → Prop} {f : α → Pass β}
    (h : p.Amid A R (fun a s => (f a).Amid A R Q s) s) : (p >>= f).Amid A R Q s := by
  induction p generalizing s with
  | done a => exact h
  | ask c next ih =>
    intro s' hs r s'' hr
    obtain ⟨hnext, hrest⟩ := h s' hs r s'' hr
    exact ⟨hnext, ih r hrest⟩
  | tell sig next ih => exact ih h
  | clock next ih => exact fun t => ih t (h t)

theorem mono (h : p.Amid A R Q s) (hq : ∀ a s, Q a s → Q' a s) : p.Amid A R Q' s := by
  induction p generalizing s with
  | done a => exact hq a s h
  | ask c next ih =>
    intro s' hs r s'' hr
    obtain ⟨hnext, hrest⟩ := h s' hs r s'' hr
    exact ⟨hnext, ih r hrest⟩
  | tell sig next ih => exact ih h
  | clock next ih => exact fun t => ih t (h t)

/-- The others change nothing of it. -/
theorem later (h : p.Amid A R Q s) (hQ : ∀ a, A.Stable (Q a)) (hs : A.Next s s') :
    p.Amid A R Q s' := by
  induction p generalizing s with
  | done a => exact hQ a s s' hs h
  | ask c next ih => exact fun t ht => h t (hs.trans ht)
  | tell sig next ih => exact ih h hs
  | clock next ih => exact fun t => ih t (h t) hs

theorem step (h : p.Amid A R Q s) (hs : A.holds s) (hstep : Step R (p, s) (p', s')) :
    A.Next s s' ∧ p'.Amid A R Q s' := by
  cases hstep with
  | answer hr => exact h s (.refl hs) _ _ hr
  | tell => exact ⟨.refl hs, h⟩
  | clock t => exact ⟨.refl hs, h t⟩

/-- Where nobody else is at work the accord is an invariant of the pass. -/
theorem always (h : p.Amid A R Q s) (hs : A.holds s) :
    p.Always R (fun _ s => A.holds s) (fun a s => A.holds s ∧ Q a s) s := by
  induction p generalizing s with
  | done a => exact ⟨hs, h⟩
  | ask c next ih =>
    refine ⟨hs, fun r s' hr => ?_⟩
    obtain ⟨hnext, hrest⟩ := h s (.refl hs) r s' hr
    exact ih r hrest hnext.after
  | tell sig next ih => exact ih h hs
  | clock next ih => exact fun t => ih t (h t) hs

end Amid

/-- Where calls are answered, a pass comes to its end. -/
theorem exists_end (hR : ∀ c s, ∃ r s', R c s r s') (p : Pass α) (s : σ) :
    ∃ a s', Relation.ReflTransGen (Step R) (p, s) (done a, s') := by
  induction p generalizing s with
  | done a => exact ⟨a, s, .refl⟩
  | ask c next ih =>
    obtain ⟨r, s', hr⟩ := hR c s
    obtain ⟨a, s'', h⟩ := ih r s'
    exact ⟨a, s'', .head (.answer hr) h⟩
  | tell sig next ih =>
    obtain ⟨a, s', h⟩ := ih s
    exact ⟨a, s', .head .tell h⟩
  | clock next ih =>
    obtain ⟨a, s', h⟩ := ih ⟨0, 0⟩ s
    exact ⟨a, s', .head (.clock _) h⟩

end Pass

/-- Passes over one state, each as far as it has come. -/
structure Race (σ α : Type) where
  passes : List (Pass α)
  state : σ

namespace Race

variable {σ α : Type} {A : Accord σ} {R : Responses σ} {Q : α → σ → Prop} {r r' : Race σ α}

/-- One of the passes goes on. -/
inductive Step (R : Responses σ) : Race σ α → Race σ α → Prop
  | go {before after : List (Pass α)} {p p' : Pass α} {s s' : σ} : Pass.Step R (p, s) (p', s') →
      Step R ⟨before ++ p :: after, s⟩ ⟨before ++ p' :: after, s'⟩

/-- What can come of a race. -/
def Reaches (R : Responses σ) : Race σ α → Race σ α → Prop := Relation.ReflTransGen (Step R)

/-- The invariant of the accord holds, and every pass keeps the accord. -/
structure Agreed (A : Accord σ) (R : Responses σ) (Q : α → σ → Prop) (r : Race σ α) : Prop where
  holds : A.holds r.state
  amid : ∀ p ∈ r.passes, p.Amid A R Q r.state

theorem Agreed.step (h : r.Agreed A R Q) (hQ : ∀ a, A.Stable (Q a))
    (hs : Step R r r') : r'.Agreed A R Q := by
  obtain ⟨hholds, hamid⟩ := h
  cases hs with
  | @go before after p p' s s' hstep =>
    obtain ⟨hnext, hp'⟩ := (hamid p (by simp)).step hholds hstep
    refine ⟨hnext.after, fun q hq => ?_⟩
    rcases List.mem_append.1 hq with hq | hq
    · exact (hamid q (List.mem_append_left _ hq)).later hQ hnext
    · rcases List.mem_cons.1 hq with rfl | hq
      · exact hp'
      · exact (hamid q (by simp [hq])).later hQ hnext

/-- What each pass keeps amid the others, all keep together. -/
theorem Agreed.reaches (h : r.Agreed A R Q) (hQ : ∀ a, A.Stable (Q a))
    (hr : r.Reaches R r') : r'.Agreed A R Q := by
  induction hr with
  | refl => exact h
  | tail _ hs ih => exact ih.step hQ hs

/-- One pass goes on while the others wait. -/
theorem Reaches.along {before after : List (Pass α)} {x y : Pass α × σ}
    (h : Relation.ReflTransGen (Pass.Step R) x y) :
    Reaches R ⟨before ++ x.1 :: after, x.2⟩ ⟨before ++ y.1 :: after, y.2⟩ := by
  induction h with
  | refl => exact .refl
  | tail _ hs ih => exact ih.tail (.go hs)

/-- Every pass of a race can come to its end. -/
theorem exists_end (hR : ∀ c s, ∃ r s', R c s r s') (r : Race σ α) :
    ∃ r', r.Reaches R r' ∧ ∀ p ∈ r'.passes, ∃ a, p = .done a := by
  -- One pass after the other; those before have ended.
  have hrest : ∀ (passes ended : List (Pass α)) (s : σ), (∀ p ∈ ended, ∃ a, p = .done a) →
      ∃ r', Reaches R ⟨ended ++ passes, s⟩ r' ∧ ∀ p ∈ r'.passes, ∃ a, p = .done a := by
    intro passes
    induction passes with
    | nil =>
      intro ended s hended
      rw [List.append_nil]
      exact ⟨_, .refl, hended⟩
    | cons p passes ih =>
      intro ended s hended
      obtain ⟨a, s', hwalk⟩ := Pass.exists_end hR p s
      have hone : Reaches R ⟨ended ++ p :: passes, s⟩ ⟨ended ++ .done a :: passes, s'⟩ :=
        Reaches.along hwalk
      obtain ⟨r', hreach, hall⟩ := ih (ended ++ [.done a]) s' fun q hq => by
        rcases List.mem_append.1 hq with hq | hq
        · exact hended q hq
        · exact ⟨a, List.mem_singleton.1 hq⟩
      rw [List.append_assoc] at hreach
      exact ⟨r', hone.trans hreach, hall⟩
  exact hrest r.passes [] r.state fun _ hp => absurd hp List.not_mem_nil

end Race

/-! ## Attempts in a world -/

namespace World

/-- A call is carried out at some time or, where the world is flaky, fails and changes nothing. -/
inductive Responds (flaky : Prop) : Responses World
  | carried (c : Call) (w : World) (now : Timestamp) :
      Responds flaky c w (perform c { w with now }).1 (perform c { w with now }).2
  | failed (c : Call) (w : World) (e : Error) : flaky → Responds flaky c w (.error e) w

theorem exists_responds (flaky : Prop) (c : Call) (w : World) : ∃ r w', Responds flaky c w r w' :=
  ⟨_, _, .carried c w w.now⟩

end World

/-- That time passes is within the accord. -/
class Accord.Timeless (A : Accord World) : Prop where
  next : ∀ w now, A.holds w → A.Next w { w with now }

namespace Race

variable {α : Type}

/-- A pass of a race goes on by one call, or signal, or look at the clock. -/
def goOn (r : Race World α) (i : Nat) : Race World α :=
  match r.passes[i]? with
  | some (.ask c next) =>
    ⟨r.passes.set i (next (World.perform c r.state).1), (World.perform c r.state).2⟩
  | some (.tell _ next) => ⟨r.passes.set i next, r.state⟩
  | some (.clock next) => ⟨r.passes.set i (next r.state.now), r.state⟩
  | _ => r

theorem reaches_goOn (flaky : Prop) (r : Race World α) (i : Nat) :
    r.Reaches (World.Responds flaky) (r.goOn i) := by
  obtain ⟨passes, w⟩ := r
  have hset : ∀ {p p' : Pass α} {w' : World}, passes[i]? = some p →
      Pass.Step (World.Responds flaky) (p, w) (p', w') →
      Reaches (World.Responds flaky) ⟨passes, w⟩ ⟨passes.set i p', w'⟩ := by
    intro p p' w' hp hs
    obtain ⟨hi, rfl⟩ := List.getElem?_eq_some_iff.1 hp
    have hgo : Step (World.Responds flaky)
        ⟨passes.take i ++ passes[i] :: passes.drop (i + 1), w⟩
        ⟨passes.take i ++ p' :: passes.drop (i + 1), w'⟩ := .go hs
    rw [← List.drop_eq_getElem_cons hi, List.take_append_drop] at hgo
    rw [List.set_eq_take_append_cons_drop, if_pos hi]
    exact .single hgo
  unfold goOn
  dsimp only
  split
  · rename_i hp
    exact hset hp (.answer (.carried _ w w.now))
  · rename_i hp
    exact hset hp .tell
  · rename_i hp
    exact hset hp (.clock _)
  · exact .refl

theorem reaches_foldl_goOn (flaky : Prop) (r : Race World α) (turns : List Nat) :
    r.Reaches (World.Responds flaky) (turns.foldl goOn r) := by
  induction turns generalizing r with
  | nil => exact .refl
  | cons i turns ih => exact (reaches_goOn flaky r i).trans (ih _)

end Race

namespace Attempt

variable {α β : Type} {A : Accord World} {flaky : Prop} {w : World}

/-- The attempt keeps the accord while others do; every success satisfies `Q`, and there are
failures in a flaky world only. -/
def Amid (A : Accord World) (flaky : Prop) (Q : α → World → Prop) (a : Attempt α) (w : World) :
    Prop :=
  a.run.Amid A (World.Responds flaky) (Ends Q fun _ => flaky) w

namespace Amid

theorem pure {Q : α → World → Prop} {v : α} (h : Q v w) :
    (Pure.pure v : Attempt α).Amid A flaky Q w := h

theorem throw {Q : α → World → Prop} {e : Error} (h : flaky) :
    (throw e : Attempt α).Amid A flaky Q w := h

theorem measure {Q : Unit → World → Prop} (m : Measurement) (h : Q () w) :
    (Attempt.measure m).Amid A flaky Q w := h

theorem publish {Q : Unit → World → Prop} (object : ObjectReference) (event : Event)
    (h : Q () w) : (Attempt.publish object event).Amid A flaky Q w := h

theorem bind {Q : β → World → Prop} {a : Attempt α} {f : α → Attempt β}
    (h : a.Amid A flaky (fun v w => (f v).Amid A flaky Q w) w) :
    (a >>= f).Amid A flaky Q w := by
  refine Pass.Amid.bind (Pass.Amid.mono h fun r w hr => ?_)
  cases r with
  | ok v => exact hr
  | error e => exact hr

theorem mono {Q Q' : α → World → Prop} {a : Attempt α} (h : a.Amid A flaky Q w)
    (hq : ∀ v w, Q v w → Q' v w) : a.Amid A flaky Q' w := by
  refine Pass.Amid.mono h fun r w hr => ?_
  cases r with
  | ok v => exact hq v w hr
  | error e => exact hr

/-- A look-up finds what is there when it is made. -/
theorem look [A.Timeless] {c : Call} {find : World → c.Answer} {Q : c.Answer → World → Prop}
    (hc : ∀ w, World.perform c w = (.ok (find w), w)) (h : ∀ w', A.Next w w' → Q (find w') w') :
    (Attempt.call c).Amid A flaky Q w := by
  intro w' hw r w'' hr
  cases hr with
  | carried _ _ now =>
    have hnow : A.Next w' { w' with now } := Accord.Timeless.next w' now hw.after
    rw [hc]
    exact ⟨hnow, h _ (hw.trans hnow)⟩
  | failed _ _ e hf => exact ⟨.refl hw.after, hf⟩

/-- A call whose failure is looked at. -/
theorem tried [A.Timeless] {c : Call} {Q : Result c.Answer → World → Prop}
    (h : ∀ w', A.Next w w' → A.Next w' (World.perform c w').2 ∧
      Q (World.perform c w').1 (World.perform c w').2)
    (hfail : flaky → ∀ e w', A.Next w w' → Q (.error e) w') :
    (outcome (Attempt.call c)).Amid A flaky Q w := by
  intro w' hw r w'' hr
  cases hr with
  | carried _ _ now =>
    have hnow : A.Next w' { w' with now } := Accord.Timeless.next w' now hw.after
    obtain ⟨hnext, hq⟩ := h _ (hw.trans hnow)
    exact ⟨hnow.trans hnext, hq⟩
  | failed _ _ e hf => exact ⟨.refl hw.after, hfail hf e w' hw⟩

end Amid

end Attempt

end TenantCloud
