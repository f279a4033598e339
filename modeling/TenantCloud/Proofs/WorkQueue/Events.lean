import Mathlib.Data.List.Induction
import TenantCloud.Proofs.WorkQueue.Loop
import TenantCloud.WorkQueue.Plan

/-!
# Loops under any events

`Worker.follow` lets events happen to a loop in any order and at any time. All that is asked of
them is that a pass ends only while it runs (`Worker.Admits`), so that triggers, takings, delays and
ends of passes may come as they like; what a loop does on its clock is one such list of events
(`Worker.run_follows`). `Worker.recorded` keeps a log of what its worker is asked to do and does the
same otherwise (`Worker.forget_follow`).

Two things hold of every loop that events led to: each pass that began has ended or runs
(`Worker.begun_follow`), and one more pass is owed to a key just where a request was taken during
its pass (`Worker.owes_follow`).
-/

set_option autoImplicit false

namespace TenantCloud

/-! ## What is written down -/

/-- What a worker was asked to do, and when, latest first. -/
abbrev WorkLog (κ : Type) := List (Nat × WorkEntry κ)

namespace WorkEntry

variable {κ : Type} [DecidableEq κ]

/-- A pass for the key began. -/
def begins (k : κ) : WorkEntry κ → Bool
  | started k' => k' = k
  | _ => false

/-- A pass for the key ended. -/
def finishes (k : κ) : WorkEntry κ → Bool
  | ended k' _ => k' = k
  | _ => false

omit [DecidableEq κ] in
/-- The health of a loop was reported. -/
def isHealth : WorkEntry κ → Bool
  | metric (.controllerHealth ..) => true
  | _ => false

end WorkEntry

namespace WorkLoop

variable {κ σ : Type} [DecidableEq κ]

/-- The passes of a key that began. -/
def begun (l : WorkLoop κ (σ × WorkLog κ)) (k : κ) : Nat := l.inner.2.countP (·.2.begins k)

/-- The passes of a key that ended. -/
def ended (l : WorkLoop κ (σ × WorkLog κ)) (k : κ) : Nat := l.inner.2.countP (·.2.finishes k)

omit [DecidableEq κ] in
/-- The loop without its log. -/
def forget (l : WorkLoop κ (σ × WorkLog κ)) : WorkLoop κ σ where
  queue := l.queue
  inner := l.inner.1
  returnedAt := l.returnedAt

end WorkLoop

namespace QueueEvent

variable {κ : Type}

/-- The key that was triggered. -/
def triggered? : QueueEvent κ → Option κ
  | trigger k => some k
  | _ => none

end QueueEvent

namespace Worker

open QueueEvent

variable {κ σ : Type}

/-- The worker that also keeps a log of what it is asked to do. -/
def recorded (w : Worker κ σ) : Worker κ (σ × WorkLog κ) where
  name := w.name
  retryDelay := w.retryDelay
  start t k s := (((w.start t k s.1).1, (t, .started k) :: s.2), (w.start t k s.1).2)
  finish t k ok s := (w.finish t k ok s.1, (t, .ended k ok) :: s.2)
  measure t m s := (w.measure t m s.1, (t, .metric m) :: s.2)

variable [DecidableEq κ]

/-- Let events happen, one after another. -/
def follow (w : Worker κ σ) (l : WorkLoop κ σ) (events : List (Nat × QueueEvent κ)) :
    WorkLoop κ σ :=
  events.foldl (fun l e => (w.react e.1 e.2 l).state) l

/-- Passes end only while they run. -/
def Admits (w : Worker κ σ) : WorkLoop κ σ → List (Nat × QueueEvent κ) → Prop
  | _, [] => True
  | l, e :: events =>
    (∀ k ∈ ended? e.2, k ∈ l.queue.running) ∧ w.Admits (w.react e.1 e.2 l).state events

instance decidableAdmits (w : Worker κ σ) :
    (l : WorkLoop κ σ) → (events : List (Nat × QueueEvent κ)) → Decidable (w.Admits l events)
  | _, [] => .isTrue trivial
  | l, e :: events =>
    have := w.decidableAdmits (w.react e.1 e.2 l).state events
    inferInstanceAs (Decidable ((∀ k ∈ ended? e.2, k ∈ l.queue.running) ∧ _))

/-- What an event brings about, before the loop looks whether it has come to its end. -/
def act (w : Worker κ σ) (t : Nat) (e : QueueEvent κ) (l : WorkLoop κ σ) :
    Reaction (WorkLoop κ σ) (QueueEvent κ) :=
  match e with
  | .trigger k => { state := { l with queue := l.queue.trigger k }, atOnce := [.pull .triggers] }
  | .wake k => { state := { l with queue := l.queue.wake k }, atOnce := [.pull .retries] }
  | .pull first => w.pull t first l
  | .finish k result => w.finishPass t k result l
  | .stop => { state := { l with queue := l.queue.stop } }

variable {w : Worker κ σ} {l : WorkLoop κ σ} {t : Nat} {e : QueueEvent κ} {k : κ}
  {events more : List (Nat × QueueEvent κ)}

theorem state_react : (w.react t e l).state = w.settle t (w.act t e l).state := by
  cases e <;> rfl

theorem follow_append : w.follow l (events ++ more) = w.follow (w.follow l events) more :=
  List.foldl_append

theorem admits_append :
    w.Admits l (events ++ more) ↔ w.Admits l events ∧ w.Admits (w.follow l events) more := by
  induction events generalizing l with
  | nil => simp [Admits, follow]
  | cons e events ih => exact (and_congr_right fun _ => ih).trans and_assoc.symm

/-- What one event keeps, any number of events keeps. -/
theorem follow_keeps {P : WorkLoop κ σ → Prop} (h : w.Admits l events) (hl : P l)
    (hP : ∀ l t e, (∀ k ∈ ended? e, k ∈ l.queue.running) → P l → P (w.react t e l).state) :
    P (w.follow l events) := by
  induction events generalizing l with
  | nil => exact hl
  | cons e events ih => exact ih h.2 (hP l e.1 e.2 h.1 hl)

/-! ## The log -/

omit [DecidableEq κ] in
theorem forget_settle (l : WorkLoop κ (σ × WorkLog κ)) :
    (w.recorded.settle t l).forget = w.settle t l.forget := by
  unfold settle
  show WorkLoop.forget (if l.queue.isDrained && l.returnedAt.isNone then _ else _) =
    if l.queue.isDrained && l.returnedAt.isNone then _ else _
  split <;> rfl

omit [DecidableEq κ] in
theorem forget_begin (starts : Bool) (l : WorkLoop κ (σ × WorkLog κ)) :
    (if starts then w.recorded.begin t k l else { state := l } : Reaction _ _).state.forget =
      (if starts then w.begin t k l.forget else { state := l.forget } : Reaction _ _).state := by
  cases starts with
  | false => rfl
  | true =>
    show (w.recorded.begin t k l).state.forget = (w.begin t k l.forget).state
    unfold begin
    dsimp only
    split
    · rename_i hzero
      rw [if_pos (show (w.start t k l.forget.inner).2.1 = 0 from hzero)]
      rfl
    · rename_i hlong
      rw [if_neg (show (w.start t k l.forget.inner).2.1 ≠ 0 from hlong)]
      rfl

theorem forget_react (l : WorkLoop κ (σ × WorkLog κ)) :
    (w.recorded.react t e l).state.forget = (w.react t e l.forget).state := by
  rw [state_react, state_react, forget_settle]
  congr 1
  cases e with
  | pull first =>
    have hqueue : l.forget.queue = l.queue := rfl
    simp only [act, pull, hqueue]
    cases l.queue.take? first with
    | none => rfl
    | some next => exact forget_begin next.1.starts { l with queue := next.2 }
  | finish k result =>
    have hinner : (w.recorded.count t result (w.recorded.finish t k result.isOk l.inner)).1 =
        w.count t result (w.finish t k result.isOk l.inner.1) := by
      unfold count
      cases result <;> rfl
    unfold act finishPass
    dsimp only
    rw [forget_begin]
    unfold WorkLoop.forget
    dsimp only
    rw [hinner]
  | _ => rfl

/-- The log changes nothing else. -/
theorem forget_follow (l : WorkLoop κ (σ × WorkLog κ)) (events : List (Nat × QueueEvent κ)) :
    (w.recorded.follow l events).forget = w.follow l.forget events := by
  induction events generalizing l with
  | nil => rfl
  | cons e events ih =>
    show (w.recorded.follow _ events).forget = w.follow (w.react e.1 e.2 l.forget).state events
    rw [ih, forget_react]

/-! ## Steps of a course -/

omit [DecidableEq κ] in
theorem ends_map_finish (ks : List κ) (result : Result Unit) :
    ends (ks.map (.finish · result)) = ks := by
  induction ks with
  | nil => rfl
  | cons k ks ih => exact congrArg (k :: ·) ih

/-- An event that is admitted is a step or two of a course. -/
theorem Courses.react (h : Courses l) (he : ∀ k ∈ ended? e, k ∈ l.queue.running) :
    Courses (w.react t e l).state := by
  -- The ends that are still to come are those of the other passes that run.
  let rest := ((ended? e).elim l.queue.running l.queue.running.erase).map
    fun k => QueueEvent.finish k (.ok ())
  have haccounts : Accounts l (e :: rest) := by
    unfold Accounts
    cases e with
    | finish k result =>
      have hk : k ∈ l.queue.running := he k rfl
      show (k :: ends rest).Perm _
      rw [ends_map_finish]
      exact (List.perm_cons_erase hk).symm
    | _ =>
      show (ends rest).Perm _
      rw [ends_map_finish]
      exact .refl _
  exact (react_spec t h haccounts).1

theorem Courses.follow (h : Courses l) (he : w.Admits l events) :
    Courses (w.follow l events) :=
  follow_keeps he h fun _ _ _ he h => h.react he

theorem courses_init (w : Worker κ σ) (limit : Nat) (s : σ) : Courses (w.init limit s) :=
  ⟨_, ⟨limit, .refl⟩, rfl, rfl⟩

theorem Courses.mem_running (h : Courses l) :
    k ∈ l.queue.running ↔ l.queue.isClaimed k = true := by
  obtain ⟨c, hc, hq, -⟩ := h
  exact hq ▸ hc.sound.running k

theorem Courses.nodup (h : Courses l) : l.queue.running.Nodup := by
  obtain ⟨c, hc, hq, -⟩ := h
  exact hq ▸ hc.sound.running_nodup

/-- What a loop does on its clock is a list of events that it admits. -/
theorem run_follows (fuel t : Nat) {now : List (QueueEvent κ)} {a : Agenda (QueueEvent κ)}
    (h : Courses l) (hends : Accounts l (now ++ a.map (·.2))) :
    ∃ events, w.Admits l events ∧ Agenda.run w.react fuel t now a l = w.follow l events := by
  induction fuel generalizing t now a l with
  | zero => exact ⟨[], trivial, rfl⟩
  | succ fuel ih =>
    cases now with
    | nil =>
      cases a with
      | nil => exact ⟨[], trivial, rfl⟩
      | cons e rest => exact ih e.1 h hends
    | cons e now =>
      obtain ⟨h', hends'⟩ := react_spec (w := w) t h hends
      obtain ⟨events, hadmits, hrun⟩ := ih t h' hends'.put
      refine ⟨(t, e) :: events, ⟨fun k hk => ?_, hadmits⟩, hrun⟩
      exact hends.mem_iff.1 (List.mem_filterMap.2 ⟨e, List.mem_cons_self, hk⟩)

/-- **Loops run courses.** Whatever is asked of a loop and however far it is followed, its queue is
one that a course comes to, with no pass about to begin. -/
theorem run_reaches (w : Worker κ σ) (concurrency : Nat) (s : σ) (fuel : Nat)
    {a : Agenda (QueueEvent κ)} (ha : ∀ e ∈ a, ended? e.2 = none) :
    Courses (Agenda.run w.react fuel 0 [] a (w.init concurrency s)) := by
  have hnone : ends (a.map (·.2)) = [] := by
    refine List.filterMap_eq_nil_iff.2 fun e he => ?_
    obtain ⟨x, hx, rfl⟩ := List.mem_map.1 he
    exact ha x hx
  have hends : Accounts (w.init concurrency s) ([] ++ a.map (·.2)) := by
    unfold Accounts
    rw [List.nil_append, hnone]
    exact .nil
  obtain ⟨events, hadmits, hrun⟩ := run_follows fuel 0 (courses_init w concurrency s) hends
  rw [hrun]
  exact (courses_init w concurrency s).follow hadmits

/-! ## What an event does to the queue -/

theorem queue_react : (w.react t e l).state.queue = (w.act t e l).state.queue := by
  rw [state_react, queue_settle]

theorem queue_pull {first : WorkQueue.Source} : (w.act t (.pull first) l).state.queue =
    ((l.queue.take? first).map (·.2)).getD l.queue := by
  show (w.pull t first l).state.queue = _
  unfold pull
  cases l.queue.take? first with
  | none => rfl
  | some next => exact (begin_spec next.1.starts t next.1.key { l with queue := next.2 }).1

theorem queue_finish {result : Result Unit} : (w.act t (.finish k result) l).state.queue =
    (l.queue.finish k (!result.isOk)).2 :=
  (begin_spec (w := w) _ t k { l with queue := (l.queue.finish k (!result.isOk)).2, inner := _ }).1

/-- One more pass is owed to a key after a request for it was taken while it was in flight, and
until its pass ends. -/
theorem owes_react : (w.react t e l).state.queue.owes k = true ↔
    (∃ first q, e = .pull first ∧ l.queue.take? first = some (⟨k, false⟩, q)) ∨
      l.queue.owes k = true ∧ k ∉ ended? e := by
  rw [queue_react]
  cases e with
  | pull first =>
    have htaken : (∃ first' q, (.pull first : QueueEvent κ) = .pull first' ∧
        l.queue.take? first' = some (⟨k, false⟩, q)) ↔
        ∃ q, l.queue.take? first = some (⟨k, false⟩, q) := by
      constructor
      · rintro ⟨_, q, ⟨⟩, h⟩
        exact ⟨q, h⟩
      · exact fun ⟨q, h⟩ => ⟨first, q, rfl, h⟩
    rw [htaken]
    rw [queue_pull]
    cases htake : l.queue.take? first with
    | none => simp [ended?]
    | some next =>
      obtain ⟨⟨k', starts⟩, q'⟩ := next
      obtain ⟨-, q, hpop, hstarts, rfl⟩ := WorkQueue.take?_eq_some htake
      have hsame := hpop.sameWork
      change starts = (q.claim k').1 at hstarts
      rw [WorkQueue.starts_claim, hsame.isClaimed] at hstarts
      show (q.claim k').2.owes k = true ↔ _
      rw [WorkQueue.owes_claim, hsame.isClaimed, hsame.owes]
      by_cases hk : k = k'
      · subst hk
        rw [if_pos rfl]
        constructor
        · intro hc
          exact .inl ⟨_, by rw [hstarts, hc]; rfl⟩
        · rintro (⟨q', hq⟩ | ⟨ho, -⟩)
          · cases hq
            simpa using hstarts
          · exact WorkQueue.isClaimed_of_owes ho
      · simp [hk, Ne.symm hk, ended?]
  | finish k' result =>
    rw [queue_finish, WorkQueue.owes_finish]
    have hk : k ∈ ended? (.finish k' result) ↔ k' = k := Option.mem_some_iff
    rw [hk]
    constructor
    · intro h
      exact .inr ⟨h.1, Ne.symm h.2⟩
    · rintro (⟨_, _, he, -⟩ | h)
      · cases he
      · exact ⟨h.1, Ne.symm h.2⟩
  | wake k' =>
    have hsame : l.queue.SameWork (l.queue.wake k') := WorkQueue.sameWork_wake
    show (l.queue.wake k').owes k = true ↔ _
    simp [hsame.owes, ended?]
  | trigger k' => simp [act, ended?, WorkQueue.trigger, WorkQueue.owes]
  | stop => simp [act, ended?, WorkQueue.stop, WorkQueue.owes]

/-- A request for the key was taken while it was in flight, and no pass for it ended since. -/
def Flags (w : Worker κ σ) (l : WorkLoop κ σ) (events : List (Nat × QueueEvent κ)) (k : κ) : Prop :=
  ∃ earlier t first later q, events = earlier ++ (t, .pull first) :: later ∧
    (w.follow l earlier).queue.take? first = some (⟨k, false⟩, q) ∧ ∀ e ∈ later, k ∉ ended? e.2

theorem flags_concat {e : Nat × QueueEvent κ} : w.Flags l (events ++ [e]) k ↔
    (∃ first q, e.2 = .pull first ∧
        (w.follow l events).queue.take? first = some (⟨k, false⟩, q)) ∨
      w.Flags l events k ∧ k ∉ ended? e.2 := by
  constructor
  · rintro ⟨earlier, t, first, later, q, heq, htake, hlater⟩
    rcases List.eq_nil_or_concat' later with rfl | ⟨later, last, rfl⟩
    · obtain ⟨rfl, he⟩ := List.append_inj' heq rfl
      cases he
      exact .inl ⟨first, q, rfl, htake⟩
    · rw [← List.cons_append, ← List.append_assoc] at heq
      obtain ⟨rfl, he⟩ := List.append_inj' heq rfl
      cases he
      refine .inr ⟨⟨earlier, t, first, later, q, rfl, htake, fun e he => ?_⟩, ?_⟩
      · exact hlater e (List.mem_append_left _ he)
      · exact hlater _ (List.mem_append_right _ (List.mem_singleton_self _))
  · rintro (⟨first, q, he, htake⟩ | ⟨⟨earlier, t, first, later, q, rfl, htake, hlater⟩, he⟩)
    · obtain ⟨t, x⟩ := e
      subst he
      exact ⟨events, t, first, [], q, rfl, htake, fun e he => absurd he List.not_mem_nil⟩
    · refine ⟨earlier, t, first, later ++ [e], q, by simp, htake, fun x hx => ?_⟩
      rcases List.mem_append.1 hx with hx | hx
      · exact hlater x hx
      · exact List.mem_singleton.1 hx ▸ he

/-- One more pass is owed to a key just where a request flagged it. -/
theorem owes_follow (h : l.queue.owes k = false) :
    (w.follow l events).queue.owes k = true ↔ w.Flags l events k := by
  induction events using List.reverseRecOn with
  | nil =>
    refine ⟨fun ho => ?_, fun ⟨earlier, t, first, later, q, heq, _⟩ => ?_⟩
    · rw [follow, List.foldl_nil, h] at ho
      cases ho
    · simp at heq
  | append_singleton events e ih =>
    rw [flags_concat, ← ih, follow_append]
    exact owes_react

/-! ## What an event writes down -/

/-- What the worker writes down at an event. -/
def notes (w : Worker κ σ) (t : Nat) (e : QueueEvent κ) (q : WorkQueue κ) : WorkLog κ :=
  match e with
  | .pull first =>
    match q.take? first with
    | some (⟨k, true⟩, _) => [(t, .started k)]
    | _ => []
  | .finish k result =>
    let failure := match result with
      | .ok () => []
      | .error e => [(t, .metric (.reconcileError w.name e.category))]
    (if q.owes k then [(t, .started k)] else []) ++ failure ++ [(t, .ended k result.isOk)]
  | _ => []

section

variable {l : WorkLoop κ (σ × WorkLog κ)}

omit [DecidableEq κ] in
theorem log_begin (starts : Bool) (l : WorkLoop κ (σ × WorkLog κ)) :
    let r : Reaction _ _ := if starts then w.recorded.begin t k l else { state := l }
    r.state.inner.2 = (if starts then [(t, .started k)] else []) ++ l.inner.2 ∧
      r.state.returnedAt = l.returnedAt := by
  cases starts with
  | false => exact ⟨rfl, rfl⟩
  | true =>
    rw [if_pos rfl, if_pos rfl]
    unfold begin
    dsimp only
    split <;> exact ⟨rfl, rfl⟩

theorem log_act : (w.recorded.act t e l).state.inner.2 = w.notes t e l.queue ++ l.inner.2 ∧
    (w.recorded.act t e l).state.returnedAt = l.returnedAt := by
  cases e with
  | pull first =>
    simp only [act, pull, notes]
    cases l.queue.take? first with
    | none => exact ⟨rfl, rfl⟩
    | some next =>
      obtain ⟨⟨k, starts⟩, q⟩ := next
      have hbegin := log_begin (w := w) (t := t) (k := k) starts { l with queue := q }
      cases starts <;> exact hbegin
  | finish k result =>
    have hreruns : (l.queue.finish k (!result.isOk)).1.reruns = l.queue.owes k :=
      WorkQueue.reruns_finish
    have hbegin := log_begin (w := w) (t := t) (k := k) (l.queue.owes k)
      { l with
        queue := (l.queue.finish k (!result.isOk)).2
        inner := w.recorded.count t result (w.recorded.finish t k result.isOk l.inner) }
    simp only [act, finishPass, notes, hreruns]
    refine ⟨hbegin.1.trans ?_, hbegin.2⟩
    rw [List.append_assoc, List.append_assoc]
    cases result <;> rfl
  | _ => exact ⟨rfl, rfl⟩

theorem not_isHealth_notes {q : WorkQueue κ} {x : Nat × WorkEntry κ} (hx : x ∈ w.notes t e q) :
    x.2.isHealth = false := by
  cases e with
  | pull first =>
    simp only [notes] at hx
    split at hx
    · rw [List.mem_singleton.1 hx]
      rfl
    · cases hx
  | finish k result =>
    simp only [notes, List.mem_append] at hx
    rcases hx with (hx | hx) | hx
    · split at hx
      · rw [List.mem_singleton.1 hx]
        rfl
      · cases hx
    · split at hx
      · cases hx
      · rw [List.mem_singleton.1 hx]
        rfl
    · rw [List.mem_singleton.1 hx]
      rfl
  | _ => cases hx

/-- Entries that are not metrics are written down at the event, or they stood there before. -/
theorem countP_react {p : Nat × WorkEntry κ → Bool} (hp : ∀ t m, p (t, .metric m) = false) :
    (w.recorded.react t e l).state.inner.2.countP p =
      l.inner.2.countP p + (w.notes t e l.queue).countP p := by
  have hsettle : ∀ l : WorkLoop κ (σ × WorkLog κ),
      (w.recorded.settle t l).inner.2.countP p = l.inner.2.countP p := by
    intro l
    unfold settle
    split
    · exact List.countP_cons_of_neg (by simp [hp])
    · rfl
  rw [state_react, hsettle, log_act.1, List.countP_append, Nat.add_comm]

theorem begun_react (k : κ) : (w.recorded.react t e l).state.begun k =
    l.begun k + (w.notes t e l.queue).countP (·.2.begins k) :=
  countP_react fun _ _ => rfl

theorem ended_react (k : κ) : (w.recorded.react t e l).state.ended k =
    l.ended k + (w.notes t e l.queue).countP (·.2.finishes k) :=
  countP_react fun _ _ => rfl

theorem countP_begins_finish {q : WorkQueue κ} {k' : κ} {result : Result Unit} (k : κ) :
    (w.notes t (.finish k' result) q).countP (·.2.begins k) =
      if k' = k ∧ q.owes k' = true then 1 else 0 := by
  cases ho : q.owes k' <;> cases result <;>
    simp [notes, ho, WorkEntry.begins, List.countP_cons]

theorem countP_finishes_finish {q : WorkQueue κ} {k' : κ} {result : Result Unit} (k : κ) :
    (w.notes t (.finish k' result) q).countP (·.2.finishes k) = if k' = k then 1 else 0 := by
  cases ho : q.owes k' <;> cases result <;>
    simp [notes, ho, WorkEntry.finishes, List.countP_cons]

/-- A pass that begins runs, and it does until it ends. -/
theorem count_running_react (he : ∀ k ∈ ended? e, k ∈ l.queue.running) (k : κ) :
    (w.recorded.react t e l).state.queue.running.count k +
        (w.notes t e l.queue).countP (·.2.finishes k) =
      l.queue.running.count k + (w.notes t e l.queue).countP (·.2.begins k) := by
  rw [queue_react]
  cases e with
  | pull first =>
    rw [queue_pull, notes]
    cases htake : l.queue.take? first with
    | none => rfl
    | some next =>
      obtain ⟨⟨k', starts⟩, q'⟩ := next
      obtain ⟨-, q, hpop, hstarts, rfl⟩ := WorkQueue.take?_eq_some htake
      change starts = (q.claim k').1 at hstarts
      rw [WorkQueue.starts_claim] at hstarts
      show (q.claim k').2.running.count k + _ = _
      rw [WorkQueue.running_claim, hpop.sameWork.2]
      cases hclaim : q.isClaimed k' with
      | true =>
        rw [hstarts, hclaim]
        rfl
      | false =>
        rw [hstarts, hclaim]
        simp [WorkEntry.begins, WorkEntry.finishes, List.countP_cons, List.count_singleton]
  | finish k' result =>
    have hk : k' ∈ l.queue.running := he k' rfl
    rw [queue_finish, WorkQueue.running_finish, countP_begins_finish, countP_finishes_finish]
    cases l.queue.owes k' with
    | true => simp
    | false =>
      simp only [Bool.false_eq_true, if_false, and_false]
      by_cases hkk : k' = k
      · subst hkk
        have hpos := List.count_pos_iff.2 hk
        rw [List.count_erase_self, if_pos rfl]
        omega
      · rw [List.count_erase_of_ne (Ne.symm hkk), if_neg hkk]
  | wake k' =>
    show (l.queue.wake k').running.count k + _ = _
    rw [WorkQueue.sameWork_wake.2]
    rfl
  | _ => rfl

/-- Each pass that began has ended or runs. -/
theorem begun_follow {events : List (Nat × QueueEvent κ)}
    (hk : l.begun k = l.ended k + l.queue.running.count k) (h : w.recorded.Admits l events) :
    let l' := w.recorded.follow l events
    l'.begun k = l'.ended k + l'.queue.running.count k := by
  let P (l : WorkLoop κ (σ × WorkLog κ)) := l.begun k = l.ended k + l.queue.running.count k
  refine follow_keeps (P := P) h hk fun l t e he hl => ?_
  have hrunning := count_running_react (w := w) (t := t) he k
  unfold P at hl ⊢
  rw [begun_react, ended_react]
  omega

end

end Worker

end TenantCloud
