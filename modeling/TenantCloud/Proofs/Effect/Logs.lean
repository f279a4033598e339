import TenantCloud.Effect.Pass

/-!
# Logs of runs

The log of a run is its trace with the reply to each call (`Pass.map_entry_log`).
`Pass.Logs Q p`: however the calls of `p` are answered, the log and the value satisfy `Q`; what
holds of all logs holds of the log of each run (`Pass.Logs.log`). `Log.failures` lists the calls of
a log that failed, each with what came after it; `Log.errors` and `Log.writes` say less and are
easier to join. `Attempt.Yields` is about one run: its log, its outcome, and the state it leaves.
-/

set_option autoImplicit false

namespace TenantCloud

/-- What a run did: a call with the reply to it, or a signal. -/
inductive Item
  | reply (c : Call) (r : Result c.Answer)
  | signal (s : Signal)

namespace Item

/-- What was done, without the reply. -/
def entry : Item → Entry
  | reply c _ => .call c
  | signal s => .signal s

end Item

/-- What a run did, in order. -/
abbrev Log := List Item

/-- A call that failed, why, and what came after it. -/
structure Failure where
  call : Call
  error : Error
  after : Log

/-- The failure, where more came after it. -/
def Failure.then (f : Failure) (l : Log) : Failure := { f with after := f.after ++ l }

/-- The calls that failed. -/
def Log.failures : Log → List Failure
  | [] => []
  | .reply c (.error e) :: l => ⟨c, e, l⟩ :: failures l
  | .reply _ (.ok _) :: l => failures l
  | .signal _ :: l => failures l

theorem Log.failures_append (l l' : Log) :
    Log.failures (l ++ l') = (Log.failures l).map (·.then l') ++ Log.failures l' := by
  induction l with
  | nil => rfl
  | cons i l ih =>
    cases i with
    | signal s => exact ih
    | reply c r =>
      cases r with
      | ok a => exact ih
      | error e => exact congrArg (Failure.mk c e (l ++ l') :: ·) ih

/-- A call failed before or after. -/
theorem Log.mem_failures_append {l l' : Log} {f : Failure} :
    f ∈ Log.failures (l ++ l') ↔ (∃ g ∈ Log.failures l, g.then l' = f) ∨ f ∈ Log.failures l' := by
  rw [Log.failures_append, List.mem_append, List.mem_map]

/-- The call that failed, and why. -/
def Item.error? : Item → Option (Call × Error)
  | reply c (.error e) => some (c, e)
  | _ => none

/-- The call, where it may change a row or an object. -/
def Item.write? : Item → Option Call
  | reply c _ => if c.isWrite then some c else none
  | signal _ => none

/-- The calls that failed, and why. -/
def Log.errors (l : Log) : List (Call × Error) := l.filterMap Item.error?

/-- The calls that may have changed a row or an object. -/
def Log.writes (l : Log) : List Call := l.filterMap Item.write?

@[simp] theorem Log.errors_append (l l' : Log) :
    Log.errors (l ++ l') = Log.errors l ++ Log.errors l' := List.filterMap_append

@[simp] theorem Log.writes_append (l l' : Log) :
    Log.writes (l ++ l') = Log.writes l ++ Log.writes l' := List.filterMap_append

/-- The first failure of a call with one of these names. -/
def Log.error? (names : List String) (l : Log) : Option Error :=
  (l.errors.find? fun x => x.1.name ∈ names).map Prod.snd

/-- What the calls with these names come to: the first failure of one of them, or a success. -/
def Log.outcome (names : List String) (l : Log) : Result Unit :=
  match l.error? names with
  | some e => .error e
  | none => .ok ()

@[simp] theorem Log.error?_append (names : List String) (l l' : Log) :
    Log.error? names (l ++ l') = (Log.error? names l).or (Log.error? names l') := by
  unfold Log.error?
  rw [Log.errors_append, List.find?_append, Option.map_or]

theorem Log.outcome_append_of_left {names : List String} {l : Log} (h : l.error? names = none)
    (l' : Log) : Log.outcome names (l ++ l') = l'.outcome names := by
  rw [Log.outcome, Log.error?_append, h, Option.none_or, Log.outcome]

theorem Log.outcome_append_of_right {names : List String} {l' : Log} (l : Log)
    (h : l'.error? names = none) : Log.outcome names (l ++ l') = l.outcome names := by
  rw [Log.outcome, Log.error?_append, h, Option.or_none, Log.outcome]

namespace Pass

variable {σ α β : Type} {p : Pass α}

/-- The log of a run. -/
def log (h : Handler σ) : Pass α → σ → Log
  | done _, _ => []
  | ask c next, s =>
    let (r, s') := h.answer c s
    .reply c r :: (next r).log h s'
  | tell sig next, s => .signal sig :: next.log h s
  | clock next, s => (next (h.now s)).log h s

theorem map_entry_log (h : Handler σ) (p : Pass α) (s : σ) :
    (p.log h s).map Item.entry = (p.run h s).trace := by
  induction p generalizing s with
  | done a => rfl
  | ask c next ih => exact congrArg (Entry.call c :: ·) (ih _ _)
  | tell sig next ih => exact congrArg (Entry.signal sig :: ·) (ih s)
  | clock next ih => exact ih _ s

theorem log_bind (h : Handler σ) (p : Pass α) (f : α → Pass β) (s : σ) :
    (p >>= f).log h s = p.log h s ++ (f (p.run h s).value).log h (p.run h s).state := by
  induction p generalizing s with
  | done a => rfl
  | ask c next ih => exact congrArg (Item.reply c _ :: ·) (ih _ _)
  | tell sig next ih => exact congrArg (Item.signal sig :: ·) (ih s)
  | clock next ih => exact ih _ s

/-- However calls are answered, the log and the value satisfy `Q`. -/
def Logs (Q : Log → α → Prop) : Pass α → Prop
  | done a => Q [] a
  | ask c next => ∀ r, (next r).Logs fun l a => Q (.reply c r :: l) a
  | tell sig next => next.Logs fun l a => Q (.signal sig :: l) a
  | clock next => ∀ t, (next t).Logs Q

namespace Logs

theorem mono {Q Q' : Log → α → Prop} (h : p.Logs Q) (hq : ∀ l a, Q l a → Q' l a) :
    p.Logs Q' := by
  induction p generalizing Q Q' with
  | done a => exact hq [] a h
  | ask c next ih => exact fun r => ih r (h r) fun l a => hq _ a
  | tell sig next ih => exact ih h fun l a => hq _ a
  | clock next ih => exact fun t => ih t (h t) hq

theorem bind {Q : Log → β → Prop} {f : α → Pass β}
    (h : p.Logs fun l a => (f a).Logs fun l' b => Q (l ++ l') b) : (p >>= f).Logs Q := by
  induction p generalizing Q with
  | done a => exact h
  | ask c next ih => exact fun r => ih r (h r)
  | tell sig next ih => exact ih h
  | clock next ih => exact fun t => ih t (h t)

theorem and {Q Q' : Log → α → Prop} (h : p.Logs Q) (h' : p.Logs Q') :
    p.Logs fun l a => Q l a ∧ Q' l a := by
  induction p generalizing Q Q' with
  | done a => exact ⟨h, h'⟩
  | ask c next ih => exact fun r => ih r (h r) (h' r)
  | tell sig next ih => exact ih h h'
  | clock next ih => exact fun t => ih t (h t) (h' t)

/-- What holds of all logs holds of the log of a run. -/
theorem log {Q : Log → α → Prop} (h : p.Logs Q) (hd : Handler σ) (s : σ) :
    Q (p.log hd s) (p.run hd s).value := by
  induction p generalizing Q s with
  | done a => exact h
  | ask c next ih => exact ih _ (h _) _
  | tell sig next ih => exact ih h s
  | clock next ih => exact ih _ (h _) s

end Logs

end Pass

namespace Attempt

variable {α β : Type} {a : Attempt α}

/-- However calls are answered, the log and the outcome satisfy `Q`. -/
def Logs (Q : Log → Result α → Prop) (a : Attempt α) : Prop := a.run.Logs Q

namespace Logs

variable {Q Q' : Log → Result α → Prop}

theorem pure {v : α} (h : Q [] (.ok v)) : (Pure.pure v : Attempt α).Logs Q := h

theorem throw {e : Error} (h : Q [] (.error e)) : (throw e : Attempt α).Logs Q := h

theorem measure {Q : Log → Result Unit → Prop} (m : Measurement)
    (h : Q [.signal (.metric m)] (.ok ())) : (Attempt.measure m).Logs Q := h

theorem publish {Q : Log → Result Unit → Prop} (object : ObjectReference) (event : Event)
    (h : Q [.signal (.event object event)] (.ok ())) : (Attempt.publish object event).Logs Q := h

theorem clock {Q : Log → Result Timestamp → Prop} (h : ∀ t, Q [] (.ok t)) :
    Attempt.clock.Logs Q := h

theorem call {c : Call} {Q : Log → Result c.Answer → Prop} (h : ∀ r, Q [.reply c r] r) :
    (Attempt.call c).Logs Q := h

theorem ofResult {r : Result α} (h : Q [] r) : (Attempt.ofResult r).Logs Q := h

theorem mono (h : a.Logs Q) (hq : ∀ l r, Q l r → Q' l r) : a.Logs Q' := Pass.Logs.mono h hq

theorem and (h : a.Logs Q) (h' : a.Logs Q') : a.Logs fun l r => Q l r ∧ Q' l r :=
  Pass.Logs.and h h'

/-- An attempt goes on after a success, and stops with a failure. -/
theorem bind {Q : Log → Result β → Prop} {f : α → Attempt β}
    (h : a.Logs fun l r => (∀ v, r = .ok v → (f v).Logs fun l' r' => Q (l ++ l') r') ∧
      ∀ e, r = .error e → Q l (.error e)) : (a >>= f).Logs Q := by
  refine Pass.Logs.bind (Pass.Logs.mono h fun l r hr => ?_)
  cases r with
  | ok v => exact hr.1 v rfl
  | error e =>
    show Q (l ++ []) (.error e)
    rw [List.append_nil]
    exact hr.2 e rfl

theorem outcome {Q : Log → Result (Result α) → Prop} (h : a.Logs fun l r => Q l (.ok r)) :
    (outcome a).Logs Q := by
  refine Pass.Logs.bind (Pass.Logs.mono h fun l r hr => ?_)
  show Q (l ++ []) (.ok r)
  rw [List.append_nil]
  exact hr

/-- A call whose failure is the one of the attempt. -/
theorem bind_call {c : Call} {f : c.Answer → Attempt β} {Q : Log → Result β → Prop}
    (hok : ∀ v, (f v).Logs fun l r => Q (.reply c (.ok v) :: l) r)
    (herror : ∀ e, Q [.reply c (.error e)] (.error e)) : (Attempt.call c >>= f).Logs Q := by
  intro r
  cases r with
  | ok v => exact hok v
  | error e => exact herror e

/-- A call whose failure is looked at. -/
theorem tried {c : Call} {f : Result c.Answer → Attempt β} {Q : Log → Result β → Prop}
    (h : ∀ r, (f r).Logs fun l r' => Q (.reply c r :: l) r') :
    (Attempt.outcome (Attempt.call c) >>= f).Logs Q := h

end Logs

/-! ## One run -/

variable {σ : Type} {h : Handler σ} {s : σ}

/-- The log of a run, its outcome and the state that it leaves satisfy `Q`. -/
def Yields (h : Handler σ) (Q : Log → Result α → σ → Prop) (a : Attempt α) (s : σ) : Prop :=
  Q (a.run.log h s) (a.run.run h s).value (a.run.run h s).state

namespace Yields

variable {Q Q' : Log → Result α → σ → Prop}

theorem pure {v : α} (hq : Q [] (.ok v) s) : (Pure.pure v : Attempt α).Yields h Q s := hq

theorem throw {e : Error} (hq : Q [] (.error e) s) : (throw e : Attempt α).Yields h Q s := hq

theorem measure {Q : Log → Result Unit → σ → Prop} (m : Measurement)
    (hq : Q [.signal (.metric m)] (.ok ()) s) : (Attempt.measure m).Yields h Q s := hq

theorem publish {Q : Log → Result Unit → σ → Prop} (object : ObjectReference) (event : Event)
    (hq : Q [.signal (.event object event)] (.ok ()) s) :
    (Attempt.publish object event).Yields h Q s := hq

theorem clock {Q : Log → Result Timestamp → σ → Prop} (hq : Q [] (.ok (h.now s)) s) :
    Attempt.clock.Yields h Q s := hq

theorem call {c : Call} {Q : Log → Result c.Answer → σ → Prop}
    (hq : Q [.reply c (h.answer c s).1] (h.answer c s).1 (h.answer c s).2) :
    (Attempt.call c).Yields h Q s := hq

/-- A call whose failure is looked at. -/
theorem tried {c : Call} {f : Result c.Answer → Attempt β} {Q : Log → Result β → σ → Prop}
    (hf : (f (h.answer c s).1).Yields h (fun l => Q (.reply c (h.answer c s).1 :: l))
      (h.answer c s).2) : (Attempt.outcome (Attempt.call c) >>= f).Yields h Q s := hf

theorem mono (ha : a.Yields h Q s) (hq : ∀ l r s, Q l r s → Q' l r s) : a.Yields h Q' s :=
  hq _ _ _ ha

theorem bind {Q : Log → Result β → σ → Prop} {f : α → Attempt β}
    (ha : a.Yields h (fun l r s' =>
      (∀ v, r = .ok v → (f v).Yields h (fun l' r' s'' => Q (l ++ l') r' s'') s') ∧
        ∀ e, r = .error e → Q l (.error e) s') s) : (a >>= f).Yields h Q s := by
  show Q (Pass.log h (a.run >>= ExceptT.bindCont f) s)
    (Pass.run h (a.run >>= ExceptT.bindCont f) s).value
    (Pass.run h (a.run >>= ExceptT.bindCont f) s).state
  rw [Pass.log_bind, Pass.run_bind]
  obtain ⟨hok, herror⟩ := ha
  dsimp only
  cases hr : (a.run.run h s).value with
  | ok v => exact hok v hr
  | error e =>
    show Q (_ ++ []) (.error e) _
    rw [List.append_nil]
    exact herror e hr

end Yields

end Attempt

end TenantCloud
