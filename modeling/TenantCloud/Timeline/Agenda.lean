/-!
# Agendas

An `Agenda` lists what is to happen at which millisecond, in order of time; what is due at one
instant stays in the order in which it was put in. `Agenda.run` lets it happen: each event changes
a state, and brings about events that follow at once, before anything else, and events at later
times.
-/

set_option autoImplicit false

namespace TenantCloud

/-- What is to happen, by time in milliseconds. -/
abbrev Agenda (ε : Type) := List (Nat × ε)

/-- What an event brings about. -/
structure Reaction (σ ε : Type) where
  state : σ
  /-- What follows at once, in order. -/
  atOnce : List ε := []
  /-- What follows at given times. -/
  later : Agenda ε := []

namespace Agenda

variable {σ ε : Type}

/-- Put an event behind everything that is due at its time. -/
def put (t : Nat) (e : ε) : Agenda ε → Agenda ε
  | [] => [(t, e)]
  | (u, f) :: rest => if t < u then (t, e) :: (u, f) :: rest else (u, f) :: put t e rest

/-- Put events in, one after another. -/
def putAll (a : Agenda ε) (events : Agenda ε) : Agenda ε :=
  events.foldl (fun a e => put e.1 e.2 a) a

/-- An agenda of events in any order. -/
def ofList (events : Agenda ε) : Agenda ε := putAll [] events

/-- Whether the times of an agenda rise. -/
def InOrder (a : Agenda ε) : Prop := a.Pairwise fun e f => e.1 ≤ f.1

theorem mem_put {t : Nat} {e : ε} {a : Agenda ε} {x : Nat × ε} (h : x ∈ put t e a) :
    x = (t, e) ∨ x ∈ a := by
  induction a with
  | nil => simpa [put] using h
  | cons y rest ih =>
    obtain ⟨u, f⟩ := y
    simp only [put] at h
    split at h
    · simpa using h
    · rcases List.mem_cons.1 h with h | h
      · exact .inr (h ▸ List.mem_cons_self)
      · exact (ih h).imp_right (List.mem_cons_of_mem _)

theorem inOrder_put {t : Nat} {e : ε} {a : Agenda ε} (h : InOrder a) : InOrder (put t e a) := by
  induction a with
  | nil => simp [put, InOrder]
  | cons y rest ih =>
    obtain ⟨u, f⟩ := y
    obtain ⟨hu, hr⟩ := List.pairwise_cons.1 h
    simp only [put]
    split
    · next ht =>
      refine List.pairwise_cons.2 ⟨fun x hx => ?_, h⟩
      rcases List.mem_cons.1 hx with rfl | hx
      · exact Nat.le_of_lt ht
      · exact Nat.le_trans (Nat.le_of_lt ht) (hu x hx)
    · next ht =>
      refine List.pairwise_cons.2 ⟨fun x hx => ?_, ih hr⟩
      rcases mem_put hx with rfl | hx
      · exact Nat.le_of_not_lt ht
      · exact hu x hx

/-- Let everything happen, `fuel` events at most: those in `now` at time `t`, then the agenda. -/
def run (react : Nat → ε → σ → Reaction σ ε) :
    (fuel t : Nat) → (now : List ε) → Agenda ε → σ → σ
  | 0, _, _, _, s => s
  | _ + 1, _, [], [], s => s
  | fuel + 1, _, [], (t, e) :: rest, s => run react fuel t [e] rest s
  | fuel + 1, t, e :: now, a, s =>
    let r := react t e s
    run react fuel t (r.atOnce ++ now) (putAll a r.later) r.state

end Agenda

end TenantCloud
