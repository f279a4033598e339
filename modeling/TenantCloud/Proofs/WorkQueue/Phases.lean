import Mathlib.Data.List.Basic

/-!
# Phases of a key

What happens to one key of a queue, seen alone. A request that is taken claims the key or makes it
owe one more pass; a pass begins, and when it ends it is followed by the owed one or the key is
released. `Phase.Path` follows the phases along a history, latest first, and everything that a
queue promises about its requests is a property of such paths: a request waits for its pass
(`Phase.Path.waits`), passes are as many as requests at most (`Phase.Path.count_le`), and a request
during a pass brings about one more pass (`Phase.Path.reruns`).
-/

set_option autoImplicit false

namespace TenantCloud

/-- What happens to a key. -/
inductive Act
  /-- A request for it is taken. -/
  | took
  /-- A pass for it begins. -/
  | began
  /-- Its pass ends. -/
  | ended
  deriving DecidableEq

/-- How a key stands. -/
inductive Phase
  /-- It is not in flight. -/
  | idle
  /-- A pass is about to begin; one more may be owed. -/
  | starting (owed : Bool)
  /-- A pass runs; one more may be owed. -/
  | running (owed : Bool)
  deriving DecidableEq

namespace Phase

/-- A pass is about to begin or owed. -/
def waits : Phase → Bool
  | idle => false
  | starting _ => true
  | running owed => owed

/-- The passes that are about to begin. -/
def soon : Phase → Nat
  | starting _ => 1
  | _ => 0

/-- The passes that are about to begin or owed. -/
def due : Phase → Nat
  | idle => 0
  | starting owed => 1 + owed.toNat
  | running owed => owed.toNat

/-- The passes that run. -/
def runs : Phase → Nat
  | running _ => 1
  | _ => 0

/-- The phases that follow. -/
inductive Step : Phase → Act → Phase → Prop
  | claim : Step idle .took (starting false)
  | join {owed : Bool} : Step (starting owed) .took (starting true)
  | owe {owed : Bool} : Step (running owed) .took (running true)
  | begin {owed : Bool} : Step (starting owed) .began (running owed)
  | rerun : Step (running true) .ended (starting false)
  | release : Step (running false) .ended idle

/-- What happens leads from one phase to another; the latest comes first. -/
inductive Path (p : Phase) : List Act → Phase → Prop
  | nil : Path p [] p
  | cons {acts : List Act} {a : Act} {q r : Phase} :
      Path p acts q → Step q a r → Path p (a :: acts) r

namespace Path

variable {p q : Phase} {acts later earlier : List Act}

/-- A path through a point of a history is a path to it and one from it. -/
theorem split (h : Path p (later ++ earlier) q) : ∃ r, Path p earlier r ∧ Path r later q := by
  induction later generalizing q with
  | nil => exact ⟨q, h, .nil⟩
  | cons a later ih =>
    cases h with
    | cons h hs =>
      obtain ⟨r, hr, hl⟩ := ih h
      exact ⟨r, hr, hl.cons hs⟩

/-- Passes begin for requests only: those that began and those that are due are as many as were
due before and as requests were taken, at most. -/
theorem count_le (h : Path p acts q) :
    acts.count .began + q.due ≤ p.due + acts.count .took := by
  induction h with
  | nil => simp
  | cons h hs ih =>
    cases hs with
    | claim => simp [due] at ih ⊢; omega
    | @join owed => cases owed <;> simp [due] at ih ⊢ <;> omega
    | @owe owed => cases owed <;> simp [due] at ih ⊢ <;> omega
    | @begin owed => cases owed <;> simp [due] at ih ⊢ <;> omega
    | rerun => simp [due] at ih ⊢; omega
    | release => simp [due] at ih ⊢; omega

/-- Each pass that began has ended or runs. -/
theorem count_began (h : Path .idle acts q) : acts.count .began = acts.count .ended + q.runs := by
  induction h with
  | nil => rfl
  | cons h hs ih => cases hs <;> simp [runs] at ih ⊢ <;> omega

/-- While no pass begins, what waits for one goes on waiting. -/
theorem waits_of_not_mem (h : Path p acts q) (hp : p.waits = true) (hb : .began ∉ acts) :
    q.waits = true := by
  induction h with
  | nil => exact hp
  | cons h hs ih =>
    simp only [List.mem_cons, not_or] at hb
    have hq := ih hb.2
    cases hs with
    | release => cases hq
    | begin => exact absurd rfl hb.1
    | _ => rfl

/-- A request that was taken waits until a pass begins. -/
theorem waits (h : Path p (later ++ .took :: earlier) q) (hb : .began ∉ later) :
    q.waits = true := by
  obtain ⟨r, hr, hl⟩ := h.split
  refine hl.waits_of_not_mem ?_ hb
  cases hr with
  | cons _ hs => cases hs <;> rfl

/-- A pass that is about to begin is about to begin still, or has begun. -/
theorem soon_le {owed : Bool} (h : Path (starting owed) acts q) :
    1 ≤ acts.count .began + q.soon := by
  induction h with
  | nil => simp [soon]
  | cons h hs ih =>
    cases hs with
    | claim => simp [soon]
    | join => simp [soon]
    | rerun => simp [soon]
    | begin =>
      rw [List.count_cons_self]
      omega
    | owe => simpa [soon] using ih
    | release => simpa [soon] using ih

/-- From its beginning to its end a pass runs, and a request meanwhile makes one more pass owed. -/
theorem running_of_not_mem {owed : Bool} (h : Path (running owed) acts q) (he : .ended ∉ acts) :
    ∃ owed', q = running owed' ∧ (owed = true ∨ .took ∈ acts → owed' = true) := by
  induction h with
  | nil => exact ⟨owed, rfl, fun h => h.resolve_right List.not_mem_nil⟩
  | cons h hs ih =>
    simp only [List.mem_cons, not_or] at he
    obtain ⟨owed', rfl, howed⟩ := ih he.2
    cases hs with
    | owe => exact ⟨true, rfl, fun _ => rfl⟩
    | rerun => exact absurd rfl he.1
    | release => exact absurd rfl he.1

/-- After a pass during which requests were taken, one more pass begins or is about to, and a
further one only for a later request. -/
theorem reruns {during : List Act}
    (h : Path p (later ++ .ended :: (during ++ .began :: earlier)) q) (he : .ended ∉ during)
    (ht : .took ∈ during) :
    1 ≤ later.count .began + q.soon ∧ later.count .began + q.due ≤ 1 + later.count .took := by
  obtain ⟨r, hr, hl⟩ := h.split
  cases hr with
  | cons hr hs =>
    obtain ⟨r', hr', hd⟩ := hr.split
    cases hr' with
    | cons _ hs' =>
      cases hs' with
      | begin =>
        obtain ⟨owed', rfl, howed⟩ := hd.running_of_not_mem he
        cases howed (.inr ht)
        cases hs with
        | rerun => exact ⟨hl.soon_le, hl.count_le⟩

end Path

end Phase

end TenantCloud
