import TenantCloud.Api.Reply
import TenantCloud.Api.Request

/-!
# Exchanges with the cluster's API

An `Exchange` is a dialogue as a tree: a request goes out, and what comes back says how it goes on.
`run` holds it against given replies, and `run_bind` says that a sequence of two exchanges uses up
the replies one after the other.
-/

set_option autoImplicit false

namespace TenantCloud.Api

/-- A dialogue. Nothing comes back where the connection fails. -/
inductive Exchange (α : Type) : Type
  | done (a : α)
  | send (r : Request) (next : Option Reply → Exchange α)

namespace Exchange

variable {α β γ : Type}

/-- Go on with `f` after `e`. -/
def bind : Exchange α → (α → Exchange β) → Exchange β
  | done a, f => f a
  | send r next, f => send r fun reply => (next reply).bind f

instance : Monad Exchange where
  pure := done
  bind := bind

@[simp] theorem pure_eq (a : α) : (pure a : Exchange α) = done a := rfl

@[simp] theorem done_bind (a : α) (f : α → Exchange β) : done a >>= f = f a := rfl

@[simp] theorem send_bind (r : Request) (next : Option Reply → Exchange α) (f : α → Exchange β) :
    send r next >>= f = send r fun reply => next reply >>= f := rfl

theorem bind_done (e : Exchange α) : e >>= done = e := by
  induction e with
  | done a => rfl
  | send r next ih => rw [send_bind, funext ih]

theorem bind_assoc (e : Exchange α) (f : α → Exchange β) (g : β → Exchange γ) :
    e >>= f >>= g = e >>= fun a => f a >>= g := by
  induction e with
  | done a => rfl
  | send r next ih => simp only [send_bind, ih]

instance : LawfulMonad Exchange := .mk' Exchange bind_done (fun _ _ => rfl) bind_assoc

/-- The end of an exchange: its value, the requests that went out, and the replies left over. -/
structure Ended (α : Type) where
  value : α
  requests : List Request
  left : List Reply

/-- Hold an exchange against replies. Once they are used up, the connection fails. -/
def run : Exchange α → List Reply → Ended α
  | done a, replies => ⟨a, [], replies⟩
  | send r next, replies =>
    let e := (next replies.head?).run replies.tail
    { e with requests := r :: e.requests }

@[simp] theorem run_done (a : α) (replies : List Reply) : (done a).run replies = ⟨a, [], replies⟩ :=
  rfl

@[simp] theorem run_send (r : Request) (next : Option Reply → Exchange α) (replies : List Reply) :
    (send r next).run replies =
      { (next replies.head?).run replies.tail with
        requests := r :: ((next replies.head?).run replies.tail).requests } := rfl

theorem run_bind (e : Exchange α) (f : α → Exchange β) (replies : List Reply) :
    (e >>= f).run replies =
      let a := e.run replies
      let b := (f a.value).run a.left
      { b with requests := a.requests ++ b.requests } := by
  induction e generalizing replies with
  | done a => rfl
  | send r next ih => simp [ih]

end Exchange

/-- A dialogue that may fail. -/
abbrev Action (α : Type) : Type := ExceptT Error Exchange α

namespace Action

/-- Send a request, if there is one, and read what comes back. -/
def send {α : Type} (r : Option Request) (read : Reply → Result α) : Action α :=
  match r with
  | none => throw (.unreachable "no such target")
  | some r => ExceptT.mk (.send r fun
      | some reply => .done (read reply)
      | none => .done (.error (.unreachable "connection failed")))

/-- The value of an action, where a refusal that `pass` names counts as `a`. -/
def excusing {α : Type} (pass : ApiFailure → Bool) (a : α) (act : Action α) : Action α :=
  tryCatch act fun
    | .api f => if pass f then pure a else throw (.api f)
    | e => throw e

end Action

end TenantCloud.Api
