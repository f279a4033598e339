import TenantCloud.Effect.World

/-!
# Passes that change nothing

A pass idles in a world where it looks things up and measures, but writes nothing and publishes
nothing (`Pass.Idles`). A look-up tells the same at any time (`World.perform_read`), so that the
pass may take as long as it likes; the clock is told to it, and what it reads there has to fit.
Every run of such a pass leaves the world as it is (`Attempt.Idles.run`).
-/

set_option autoImplicit false

namespace TenantCloud

/-- A look-up or a measurement. -/
def Entry.IsIdle : Entry → Prop
  | call c => c.isWrite = false
  | signal (.metric _) => True
  | signal (.event ..) => False

/-- A look-up tells what is there, at any time. -/
theorem World.perform_read {c : Call} (hc : c.isWrite = false) (w : World) (now : Timestamp) :
    perform c { w with now } = ((perform c w).1, { w with now }) := by
  cases c with
  | store c => cases c <;> first | rfl | cases hc
  | cluster c => cases c <;> first | rfl | cases hc

namespace Pass

open World

variable {α β : Type} {w : World} {fits : Timestamp → Prop} {p : Pass α}

/-- Look-ups in a world, measurements, and looks at a clock that fits; the end satisfies `Q`. -/
def Idles (w : World) (fits : Timestamp → Prop) (Q : α → Prop) : Pass α → Prop
  | done a => Q a
  | ask c next => c.isWrite = false ∧ (next (perform c w).1).Idles w fits Q
  | tell s next => (Entry.signal s).IsIdle ∧ next.Idles w fits Q
  | clock next => ∀ t, fits t → (next t).Idles w fits Q

namespace Idles

theorem mono {Q Q' : α → Prop} (h : p.Idles w fits Q) (hq : ∀ a, Q a → Q' a) :
    p.Idles w fits Q' := by
  induction p with
  | done a => exact hq a h
  | ask c next ih => exact ⟨h.1, ih _ h.2⟩
  | tell s next ih => exact ⟨h.1, ih h.2⟩
  | clock next ih => exact fun t ht => ih t (h t ht)

theorem bind {Q : β → Prop} {f : α → Pass β} (h : p.Idles w fits fun a => (f a).Idles w fits Q) :
    (p >>= f).Idles w fits Q := by
  induction p with
  | done a => exact h
  | ask c next ih => exact ⟨h.1, ih _ h.2⟩
  | tell s next ih => exact ⟨h.1, ih h.2⟩
  | clock next ih => exact fun t ht => ih t (h t ht)

/-- A run leaves the world as it is, whenever its calls are answered. -/
theorem run {Q : α → Prop} (hp : p.Idles w fits Q) {h : Handler World}
    (hanswer : ∀ c now, ∃ now', h.answer c { w with now } = perform c { w with now := now' })
    (hclock : ∀ now, fits (h.now { w with now })) (now : Timestamp) :
    let ran := p.run h { w with now }
    Q ran.value ∧ (∃ now', ran.state = { w with now := now' }) ∧ ∀ e ∈ ran.trace, e.IsIdle := by
  induction p generalizing now with
  | done a => exact ⟨hp, ⟨now, rfl⟩, fun e he => by cases he⟩
  | ask c next ih =>
    obtain ⟨hc, hnext⟩ := hp
    obtain ⟨now', he⟩ := hanswer c now
    rw [perform_read hc] at he
    obtain ⟨hq, hstate, htrace⟩ := ih _ hnext now'
    rw [run_ask, he]
    exact ⟨hq, hstate, List.forall_mem_cons.2 ⟨hc, htrace⟩⟩
  | tell s next ih =>
    obtain ⟨hs, hnext⟩ := hp
    obtain ⟨hq, hstate, htrace⟩ := ih hnext now
    exact ⟨hq, hstate, List.forall_mem_cons.2 ⟨hs, htrace⟩⟩
  | clock next ih => exact ih _ (hp _ (hclock now)) now

end Idles

end Pass

namespace Attempt

variable {α β : Type} {w : World} {fits : Timestamp → Prop} {a : Attempt α} {Q : Result α → Prop}

/-- The attempt looks things up in a world, measures, and changes nothing. -/
def Idles (w : World) (fits : Timestamp → Prop) (Q : Result α → Prop) (a : Attempt α) : Prop :=
  a.run.Idles w fits Q

namespace Idles

theorem pure {v : α} (h : Q (.ok v)) : (Pure.pure v : Attempt α).Idles w fits Q := h

theorem throw {e : Error} (h : Q (.error e)) : (throw e : Attempt α).Idles w fits Q := h

theorem measure {Q : Result Unit → Prop} (m : Measurement) (h : Q (.ok ())) :
    (Attempt.measure m).Idles w fits Q := ⟨trivial, h⟩

theorem clock {Q : Result Timestamp → Prop} (h : ∀ t, fits t → Q (.ok t)) :
    Attempt.clock.Idles w fits Q := h

theorem ofResult {r : Result α} (h : Q r) : (Attempt.ofResult r).Idles w fits Q := h

/-- A look-up. -/
theorem look {c : Call} {v : c.Answer} {Q : Result c.Answer → Prop} (hc : c.isWrite = false)
    (hv : (World.perform c w).1 = .ok v) (h : Q (.ok v)) : (Attempt.call c).Idles w fits Q := by
  refine ⟨hc, ?_⟩
  rw [hv]
  exact h

/-- An attempt goes on after a success, and stops with a failure. -/
theorem bind {Q : Result β → Prop} {f : α → Attempt β} (h : a.Idles w fits fun r =>
      match r with
      | .ok v => (f v).Idles w fits Q
      | .error e => Q (.error e)) : (a >>= f).Idles w fits Q := by
  refine Pass.Idles.bind (Pass.Idles.mono h fun r hr => ?_)
  cases r with
  | ok v => exact hr
  | error e => exact hr

theorem outcome {Q : Result (Result α) → Prop} (h : a.Idles w fits fun r => Q (.ok r)) :
    (outcome a).Idles w fits Q :=
  Pass.Idles.bind h

theorem mono {Q' : Result α → Prop} (h : a.Idles w fits Q) (hq : ∀ r, Q r → Q' r) :
    a.Idles w fits Q' :=
  Pass.Idles.mono h hq

end Idles

end Attempt

end TenantCloud
