import TenantCloud.Effect.World
import Mathlib.Logic.Relation

/-!
# What a pass always does

`Pass.Always R P Q p s`: however calls are answered within `R`, every call that `p` makes from the
state `s` on is made in a state where `P` admits it, and every end of `p` satisfies `Q`. The facts
about a function of the model are stated with `Attempt.Always`, which tells success from failure,
and put together with `Attempt.Always.bind`.

* `Pass.Step` is a pass that goes on by one call; `Pass.Always.step` keeps `Always` along it, and
  `Pass.steps_run` makes every run of `Pass.run` a walk of such steps.
* `Attempt.Makes P a`: each call that `a` can make satisfies `P`, whatever the answers are.
  `Pass.Makes.of_mem_trace` holds it against the trace of a run, `Attempt.Makes.guards` turns it
  into an invariant.
-/

set_option autoImplicit false

namespace TenantCloud

/-- Which answers a call may get in a state, and which states may follow. -/
abbrev Responses (σ : Type) := (c : Call) → σ → Result c.Answer → σ → Prop

namespace Pass

variable {σ α β : Type} {R : Responses σ} {P P' : Call → σ → Prop}

/-- Every call is made in a state where `P` admits it, and every end satisfies `Q`. -/
def Always (R : Responses σ) (P : Call → σ → Prop) (Q : α → σ → Prop) : Pass α → σ → Prop
  | done a, s => Q a s
  | ask c next, s => P c s ∧ ∀ r s', R c s r s' → (next r).Always R P Q s'
  | tell _ next, s => next.Always R P Q s
  | clock next, s => ∀ t, (next t).Always R P Q s

namespace Always

variable {Q Q' : α → σ → Prop}

theorem bind {Q' : β → σ → Prop} {f : α → Pass β} {p : Pass α} {s : σ}
    (h : p.Always R P (fun a s => (f a).Always R P Q' s) s) : (p >>= f).Always R P Q' s := by
  induction p generalizing s with
  | done a => exact h
  | ask c next ih => exact ⟨h.1, fun r s' hr => ih r (h.2 r s' hr)⟩
  | tell sig next ih => exact ih h
  | clock next ih => exact fun t => ih t (h t)

theorem mono {p : Pass α} {s : σ} (h : p.Always R P Q s) (hp : ∀ c s, P c s → P' c s)
    (hq : ∀ a s, Q a s → Q' a s) : p.Always R P' Q' s := by
  induction p generalizing s with
  | done a => exact hq a s h
  | ask c next ih => exact ⟨hp c s h.1, fun r s' hr => ih r (h.2 r s' hr)⟩
  | tell sig next ih => exact ih h
  | clock next ih => exact fun t => ih t (h t)

/-- What `P` and `Q` say of the state alone holds right away. -/
theorem here {I : σ → Prop} {p : Pass α} {s : σ} (h : p.Always R P Q s)
    (hp : ∀ c s, P c s → I s) (hq : ∀ a s, Q a s → I s) : I s := by
  induction p with
  | done a => exact hq a s h
  | ask c next ih => exact hp c s h.1
  | tell sig next ih => exact ih h
  | clock next ih => exact ih ⟨0, 0⟩ (h _)

end Always

/-! ## Going on by one call -/

/-- A pass goes on by one answer, one signal or one look at the clock. -/
inductive Step (R : Responses σ) : Pass α × σ → Pass α × σ → Prop
  | answer {c : Call} {next : Result c.Answer → Pass α} {r : Result c.Answer} {s s' : σ} :
      R c s r s' → Step R (ask c next, s) (next r, s')
  | tell {sig : Signal} {next : Pass α} {s : σ} : Step R (tell sig next, s) (next, s)
  | clock {next : Timestamp → Pass α} {s : σ} (t : Timestamp) :
      Step R (clock next, s) (next t, s)

theorem Always.step {Q : α → σ → Prop} {p p' : Pass α} {s s' : σ} (h : p.Always R P Q s)
    (hs : Step R (p, s) (p', s')) : p'.Always R P Q s' := by
  cases hs with
  | answer hr => exact h.2 _ _ hr
  | tell => exact h
  | clock t => exact h t

theorem Always.walk {Q : α → σ → Prop} {p p' : Pass α} {s s' : σ} (h : p.Always R P Q s)
    (hw : Relation.ReflTransGen (Step R) (p, s) (p', s')) : p'.Always R P Q s' := by
  generalize hx : (p, s) = x at hw
  generalize hy : (p', s') = y at hw
  induction hw generalizing p' s' with
  | refl =>
    cases hx.trans hy.symm
    exact h
  | @tail y z _ hs ih =>
    subst hy
    exact (ih rfl).step hs

/-- A run against a handler whose answers lie within `R` is a walk to its end. -/
theorem steps_run {h : Handler σ} (hR : ∀ c s, R c s (h.answer c s).1 (h.answer c s).2)
    (p : Pass α) (s : σ) :
    Relation.ReflTransGen (Step R) (p, s) (done (p.run h s).value, (p.run h s).state) := by
  induction p generalizing s with
  | done a => exact .refl
  | ask c next ih => exact .head (.answer (hR c s)) (ih _ _)
  | tell sig next ih => exact .head .tell (ih s)
  | clock next ih => exact .head (.clock _) (ih _ s)

/-! ## Calls that a pass can make -/

/-- Each call that the pass can make satisfies `P`. -/
def Makes (P : Call → Prop) : Pass α → Prop
  | done _ => True
  | ask c next => P c ∧ ∀ r, (next r).Makes P
  | tell _ next => next.Makes P
  | clock next => ∀ t, (next t).Makes P

namespace Makes

variable {P P' : Call → Prop} {p : Pass α}

theorem bind {f : α → Pass β} (h : p.Makes P) (hf : ∀ a, (f a).Makes P) : (p >>= f).Makes P := by
  induction p with
  | done a => exact hf a
  | ask c next ih => exact ⟨h.1, fun r => ih r (h.2 r)⟩
  | tell sig next ih => exact ih h
  | clock next ih => exact fun t => ih t (h t)

theorem mono (h : p.Makes P) (hp : ∀ c, P c → P' c) : p.Makes P' := by
  induction p with
  | done a => trivial
  | ask c next ih => exact ⟨hp c h.1, fun r => ih r (h.2 r)⟩
  | tell sig next ih => exact ih h
  | clock next ih => exact fun t => ih t (h t)

theorem of_mem_trace (h : p.Makes P) {hd : Handler σ} {s : σ} {c : Call}
    (hc : Entry.call c ∈ (p.run hd s).trace) : P c := by
  induction p generalizing s with
  | done a => cases hc
  | ask c' next ih =>
    rcases List.mem_cons.1 hc with hc | hc
    · cases hc
      exact h.1
    · exact ih _ (h.2 _) hc
  | tell sig next ih =>
    rcases List.mem_cons.1 hc with hc | hc
    · cases hc
    · exact ih h hc
  | clock next ih => exact ih _ (h _) hc

/-- What no call of the pass breaks holds after a run. -/
theorem keeps {I : σ → Prop} (h : p.Makes P) {hd : Handler σ}
    (hI : ∀ c s, P c → I s → I (hd.answer c s).2) {s : σ} (hs : I s) : I (p.run hd s).state := by
  induction p generalizing s with
  | done a => exact hs
  | ask c next ih => exact ih _ (h.2 _) (hI c s h.1 hs)
  | tell sig next ih => exact ih h hs
  | clock next ih => exact ih _ (h _) hs

/-- An invariant that no call of the pass breaks holds at the end, and each call is one that `P'`
admits where the invariant holds. -/
theorem guards {I : σ → Prop} {P' : Call → σ → Prop} (h : p.Makes P)
    (hI : ∀ c s r s', P c → I s → R c s r s' → I s') (hP : ∀ c s, P c → I s → P' c s) {s : σ}
    (hs : I s) : p.Always R P' (fun _ s => I s) s := by
  induction p generalizing s with
  | done a => exact hs
  | ask c next ih =>
    exact ⟨hP c s h.1 hs, fun r s' hr => ih r (h.2 r) (hI c s r s' h.1 hs hr)⟩
  | tell sig next ih => exact ih h hs
  | clock next ih => exact fun t => ih t (h t) hs

/-- An invariant that no call of the pass breaks holds at each call and at the end. -/
theorem always {I : σ → Prop} (h : p.Makes P)
    (hI : ∀ c s r s', P c → I s → R c s r s' → I s') {s : σ} (hs : I s) :
    p.Always R (fun _ s => I s) (fun _ s => I s) s :=
  h.guards hI (fun _ _ _ hs => hs) hs

/-- Each call that the pass can make is one that `P'` admits. -/
theorem admits {P' : Call → σ → Prop} (h : p.Makes P) (hP : ∀ c s, P c → P' c s) (s : σ) :
    p.Always R P' (fun _ _ => True) s :=
  h.guards (fun _ _ _ _ _ _ _ => trivial) (fun c s hc _ => hP c s hc) trivial

end Makes

end Pass

/-! ## Attempts -/

/-- What holds at an end: `Q` of the value of a success, `E` after a failure. -/
def Ends {σ α : Type} (Q : α → σ → Prop) (E : σ → Prop) : Result α → σ → Prop
  | .ok a, s => Q a s
  | .error _, s => E s

namespace Attempt

variable {σ α β : Type} {R : Responses σ} {P : Call → σ → Prop} {E : σ → Prop} {s : σ}

/-- Every call is made in a state where `P` admits it, every success satisfies `Q`, and every
failure `E`. -/
def Always (R : Responses σ) (P : Call → σ → Prop) (Q : α → σ → Prop) (E : σ → Prop)
    (a : Attempt α) (s : σ) : Prop := a.run.Always R P (Ends Q E) s

namespace Always

theorem throw {Q : α → σ → Prop} {e : Error} (h : E s) :
    (throw e : Attempt α).Always R P Q E s := h

theorem bind {Q : β → σ → Prop} {a : Attempt α} {f : α → Attempt β}
    (h : a.Always R P (fun v s => (f v).Always R P Q E s) E s) : (a >>= f).Always R P Q E s := by
  refine Pass.Always.bind (Pass.Always.mono h (fun _ _ => id) fun r s hr => ?_)
  cases r with
  | ok v => exact hr
  | error e => exact hr

theorem weaken {Q Q' : α → σ → Prop} {E' : σ → Prop} {a : Attempt α} (h : a.Always R P Q E s)
    (hq : ∀ v s, Q v s → Q' v s) (he : ∀ s, E s → E' s) : a.Always R P Q' E' s := by
  refine Pass.Always.mono h (fun _ _ => id) fun r s hr => ?_
  cases r with
  | ok v => exact hq v s hr
  | error e => exact he s hr

theorem mono {Q Q' : α → σ → Prop} {a : Attempt α} (h : a.Always R P Q E s)
    (hq : ∀ v s, Q v s → Q' v s) : a.Always R P Q' E s :=
  h.weaken hq fun _ => id

/-- What holds at either end of an attempt holds after its outcome was taken. -/
theorem outcome {I : σ → Prop} {a : Attempt α} (h : a.Always R P (fun _ => I) I s) :
    a.outcome.Always R P (fun _ => I) E s := by
  refine Pass.Always.bind (Pass.Always.mono h (fun _ _ => id) fun r s hr => ?_)
  cases r <;> exact hr

theorem call {c : Call} {Q : c.Answer → σ → Prop} (hp : P c s)
    (h : ∀ r s', R c s r s' → Ends Q E r s') : (Attempt.call c).Always R P Q E s :=
  ⟨hp, h⟩

end Always

/-- Each call that the attempt can make satisfies `P`. -/
def Makes (P : Call → Prop) (a : Attempt α) : Prop := a.run.Makes P

namespace Makes

variable {P P' : Call → Prop}

theorem pure (v : α) : (Pure.pure v : Attempt α).Makes P := trivial

theorem throw (e : Error) : (throw e : Attempt α).Makes P := trivial

theorem call {c : Call} (h : P c) : (Attempt.call c).Makes P := ⟨h, fun _ => trivial⟩

theorem measure (m : Measurement) : (Attempt.measure m).Makes P := trivial

theorem publish (object : ObjectReference) (event : Event) :
    (Attempt.publish object event).Makes P := trivial

theorem ofResult (r : Result α) : (Attempt.ofResult r).Makes P := trivial

theorem clock : Attempt.clock.Makes P := fun _ => trivial

theorem outcome {a : Attempt α} (h : a.Makes P) : a.outcome.Makes P :=
  Pass.Makes.bind h fun _ => trivial

theorem bind {a : Attempt α} {f : α → Attempt β} (h : a.Makes P) (hf : ∀ v, (f v).Makes P) :
    (a >>= f).Makes P := by
  refine Pass.Makes.bind h fun r => ?_
  cases r with
  | ok v => exact hf v
  | error e => trivial

theorem mono {a : Attempt α} (h : a.Makes P) (hp : ∀ c, P c → P' c) : a.Makes P' :=
  Pass.Makes.mono h hp

theorem guards {I : σ → Prop} {P' : Call → σ → Prop} {a : Attempt α} (h : a.Makes P)
    (hI : ∀ c s r s', P c → I s → R c s r s' → I s') (hP : ∀ c s, P c → I s → P' c s)
    (hs : I s) : a.Always R P' (fun _ s => I s) I s := by
  refine Pass.Always.mono (Pass.Makes.guards h hI hP hs) (fun _ _ => id) fun r s hr => ?_
  cases r <;> exact hr

theorem admits {a : Attempt α} {P' : Call → σ → Prop} (h : a.Makes P)
    (hP : ∀ c s, P c → P' c s) (s : σ) :
    a.Always R P' (fun _ _ => True) (fun _ => True) s := by
  refine Pass.Always.mono (Pass.Makes.admits h hP s) (fun _ _ => id) fun r s _ => ?_
  cases r <;> trivial

end Makes

end Attempt

end TenantCloud
