import TenantCloud.Proofs.Effect.Race

/-!
# Attempts amid failures

`Attempt.Tries flaky Q E a w`: from the world `w` on, every success of `a` satisfies `Q`. It fails
only where calls may fail (`World.Responds`), and every failure satisfies `E`. There is a rule for
each thing that an attempt does, so that what a pass leaves behind, however far it came, is put
together from what its steps leave.
-/

set_option autoImplicit false

namespace TenantCloud.Attempt

open World

variable {α β : Type} {flaky : Prop} {w : World} {E : World → Prop}

/-- Every success satisfies `Q`; there are failures in a flaky world only, and they satisfy `E`. -/
def Tries (flaky : Prop) (Q : α → World → Prop) (E : World → Prop) (a : Attempt α) (w : World) :
    Prop :=
  a.Always (Responds flaky) (fun _ _ => True) Q (fun w => flaky ∧ E w) w

namespace Tries

theorem pure {Q : α → World → Prop} {v : α} (h : Q v w) :
    (Pure.pure v : Attempt α).Tries flaky Q E w := h

theorem throw {Q : α → World → Prop} {e : Error} (hf : flaky) (h : E w) :
    (throw e : Attempt α).Tries flaky Q E w := ⟨hf, h⟩

theorem measure {Q : Unit → World → Prop} (m : Measurement) (h : Q () w) :
    (Attempt.measure m).Tries flaky Q E w := h

theorem publish {Q : Unit → World → Prop} (object : ObjectReference) (event : Event)
    (h : Q () w) : (Attempt.publish object event).Tries flaky Q E w := h

theorem clock {Q : Timestamp → World → Prop} (h : ∀ t, Q t w) :
    Attempt.clock.Tries flaky Q E w := h

theorem bind {Q : β → World → Prop} {a : Attempt α} {f : α → Attempt β}
    (h : a.Tries flaky (fun v w => (f v).Tries flaky Q E w) E w) :
    (a >>= f).Tries flaky Q E w :=
  Always.bind h

theorem mono {Q Q' : α → World → Prop} {E' : World → Prop} {a : Attempt α}
    (h : a.Tries flaky Q E w) (hq : ∀ v w, Q v w → Q' v w) (he : ∀ w, E w → E' w) :
    a.Tries flaky Q' E' w := by
  refine Pass.Always.mono h (fun _ _ => id) fun r w hr => ?_
  cases r with
  | ok v => exact hq v w hr
  | error e => exact ⟨hr.1, he w hr.2⟩

/-- A failure that is looked at is none of the attempt. -/
theorem outcome {Q : Result α → World → Prop} {F : World → Prop} {a : Attempt α}
    (h : a.Tries flaky (fun v w => Q (.ok v) w) F w)
    (hfail : flaky → ∀ e w, F w → Q (.error e) w) : (outcome a).Tries flaky Q E w := by
  refine Pass.Always.bind (Pass.Always.mono h (fun _ _ => id) fun r w hr => ?_)
  cases r with
  | ok v => exact hr
  | error e => exact hfail hr.1 e w hr.2

theorem ofResult {Q : α → World → Prop} {r : Result α} (hok : ∀ v, r = .ok v → Q v w)
    (hfail : ∀ e, r = .error e → flaky ∧ E w) : (Attempt.ofResult r).Tries flaky Q E w := by
  cases r with
  | ok v => exact hok v rfl
  | error e => exact hfail e rfl

/-- A call that is carried out at some time or fails. -/
theorem call {c : Call} {Q : c.Answer → World → Prop}
    (h : ∀ now, ∃ v w', perform c { w with now } = (.ok v, w') ∧ Q v w') (hfail : flaky → E w) :
    (Attempt.call c).Tries flaky Q E w := by
  refine Always.call trivial fun r w' hr => ?_
  cases hr with
  | carried _ _ now =>
    obtain ⟨v, w', hperform, hq⟩ := h now
    rw [hperform]
    exact hq
  | failed _ _ e hf => exact ⟨hf, hfail hf⟩

/-- A look-up tells what is there. -/
theorem look {c : Call} {f : World → c.Answer} {Q : c.Answer → World → Prop}
    (hc : ∀ w, perform c w = (.ok (f w), w)) (h : ∀ now, Q (f { w with now }) { w with now })
    (hfail : flaky → E w) : (Attempt.call c).Tries flaky Q E w :=
  call (fun now => ⟨_, _, hc _, h now⟩) hfail

end Tries

/-- What an attempt does amid others it does alone. -/
theorem Amid.tries {A : Accord World} {Q : α → World → Prop} {a : Attempt α}
    (h : a.Amid A flaky Q w) (hw : A.holds w) :
    a.Tries flaky (fun v w => A.holds w ∧ Q v w) A.holds w := by
  refine Pass.Always.mono (Pass.Amid.always h hw) (fun _ _ _ => trivial) fun r w hr => ?_
  cases r with
  | ok v => exact hr
  | error e => exact hr.symm

end TenantCloud.Attempt
