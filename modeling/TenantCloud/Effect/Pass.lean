import TenantCloud.Effect.Call

/-!
# Passes

A `Pass` is what a controller does in one go, as a tree: each node asks for an answer, sends a
signal or reads the clock, and goes on with what it got. An `Attempt` is a pass that may fail, and
`Pass.run` carries a pass out against a `Handler`, which answers calls out of a state. The main
statement is `run_bind`: a run of two passes in sequence is the run of the second from where the
first one ended, with their traces joined.
-/

set_option autoImplicit false

namespace TenantCloud

/-- What a controller does in one go. -/
inductive Pass (α : Type) : Type
  | done (a : α)
  | ask (c : Call) (next : Result c.Answer → Pass α)
  | tell (s : Signal) (next : Pass α)
  | clock (next : Timestamp → Pass α)

namespace Pass

variable {α β : Type}

/-- Go on with `f` after `p`. -/
def bind : Pass α → (α → Pass β) → Pass β
  | done a, f => f a
  | ask c next, f => ask c fun r => (next r).bind f
  | tell s next, f => tell s (next.bind f)
  | clock next, f => clock fun t => (next t).bind f

instance : Monad Pass where
  pure := done
  bind := bind

@[simp] theorem pure_eq (a : α) : (pure a : Pass α) = done a := rfl

@[simp] theorem done_bind (a : α) (f : α → Pass β) : done a >>= f = f a := rfl

@[simp] theorem ask_bind (c : Call) (next : Result c.Answer → Pass α) (f : α → Pass β) :
    ask c next >>= f = ask c fun r => next r >>= f := rfl

@[simp] theorem tell_bind (s : Signal) (next : Pass α) (f : α → Pass β) :
    tell s next >>= f = tell s (next >>= f) := rfl

@[simp] theorem clock_bind (next : Timestamp → Pass α) (f : α → Pass β) :
    clock next >>= f = clock fun t => next t >>= f := rfl

theorem bind_done (p : Pass α) : p >>= done = p := by
  induction p with
  | done a => rfl
  | ask c next ih => rw [ask_bind, funext ih]
  | tell s next ih => rw [tell_bind, ih]
  | clock next ih => rw [clock_bind, funext ih]

theorem bind_assoc {γ : Type} (p : Pass α) (f : α → Pass β) (g : β → Pass γ) :
    p >>= f >>= g = p >>= fun a => f a >>= g := by
  induction p with
  | done a => rfl
  | ask c next ih => simp only [ask_bind, ih]
  | tell s next ih => simp only [tell_bind, ih]
  | clock next ih => simp only [clock_bind, ih]

instance : LawfulMonad Pass := .mk' Pass bind_done (fun _ _ => rfl) bind_assoc

end Pass

/-! ## Attempts -/

/-- A pass that may fail. -/
abbrev Attempt (α : Type) : Type := ExceptT Error Pass α

namespace Attempt

/-- Make a call; its failure is the failure of the attempt. -/
def call (c : Call) : Attempt c.Answer := ExceptT.mk (.ask c .done)

/-- Call the store. -/
def store (c : StoreCall) : Attempt c.Answer := call (.store c)

/-- Call the cluster. -/
def cluster (c : ClusterCall) : Attempt c.Answer := call (.cluster c)

/-- Send a signal. -/
def tell (s : Signal) : Attempt Unit := ExceptT.mk (.tell s (.done (.ok ())))

/-- Record a measurement. -/
def measure (m : Measurement) : Attempt Unit := tell (.metric m)

/-- Attach an event to an object. -/
def publish (object : ObjectReference) (event : Event) : Attempt Unit := tell (.event object event)

/-- Read the clock. -/
def clock : Attempt Timestamp := ExceptT.mk (.clock fun t => .done (.ok t))

/-- The outcome of an attempt as a value. -/
def outcome {α : Type} (a : Attempt α) : Attempt (Result α) := ExceptT.mk do
  return .ok (← a.run)

/-- An outcome as an attempt. -/
def ofResult {α : Type} (r : Result α) : Attempt α := ExceptT.mk (.done r)

end Attempt

/-! ## Runs -/

/-- Answers calls out of a state and tells the time. -/
structure Handler (σ : Type) where
  answer : (c : Call) → σ → Result c.Answer × σ
  now : σ → Timestamp

/-- What a run did: a call, noted before it is answered, or a signal. -/
inductive Entry
  | call (c : Call)
  | signal (s : Signal)
  deriving DecidableEq

/-- What a run did, in order. -/
abbrev Trace := List Entry

/-- The end of a run: its value, the state it left, and what it did. -/
structure Ran (σ α : Type) where
  value : α
  state : σ
  trace : Trace

namespace Ran

variable {σ α : Type}

/-- The run with one thing done before it. -/
def after (e : Entry) (r : Ran σ α) : Ran σ α := { r with trace := e :: r.trace }

end Ran

namespace Pass

variable {σ α β : Type}

/-- Carry out a pass. -/
def run (h : Handler σ) : Pass α → σ → Ran σ α
  | done a, s => ⟨a, s, []⟩
  | ask c next, s =>
    let (r, s') := h.answer c s
    ((next r).run h s').after (.call c)
  | tell sig next, s => (next.run h s).after (.signal sig)
  | clock next, s => (next (h.now s)).run h s

@[simp] theorem run_done (h : Handler σ) (a : α) (s : σ) : (done a).run h s = ⟨a, s, []⟩ := rfl

@[simp] theorem run_ask (h : Handler σ) (c : Call) (next : Result c.Answer → Pass α) (s : σ) :
    (ask c next).run h s =
      ((next (h.answer c s).1).run h (h.answer c s).2).after (.call c) := rfl

@[simp] theorem run_tell (h : Handler σ) (sig : Signal) (next : Pass α) (s : σ) :
    (tell sig next).run h s = (next.run h s).after (.signal sig) := rfl

@[simp] theorem run_clock (h : Handler σ) (next : Timestamp → Pass α) (s : σ) :
    (clock next).run h s = (next (h.now s)).run h s := rfl

theorem run_bind (h : Handler σ) (p : Pass α) (f : α → Pass β) (s : σ) :
    (p >>= f).run h s =
      let r := p.run h s
      let r' := (f r.value).run h r.state
      ⟨r'.value, r'.state, r.trace ++ r'.trace⟩ := by
  induction p generalizing s with
  | done a => rfl
  | ask c next ih => simp [ih, Ran.after]
  | tell sig next ih => simp [ih, Ran.after]
  | clock next ih => simp [ih]

end Pass

end TenantCloud
