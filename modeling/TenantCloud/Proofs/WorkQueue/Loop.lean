import TenantCloud.Proofs.WorkQueue.Course
import TenantCloud.WorkQueue.Loop

/-!
# Loops run courses

A loop at work takes the steps of a course, and a pass begins as soon as its key is claimed: each
event is a step or two of a course (`Worker.react_spec`). What goes along is that the ends of passes
which lie ahead are those of the passes that run (`Worker.Accounts`).
-/

set_option autoImplicit false

namespace TenantCloud

/-! ## Agendas -/

namespace Agenda

variable {ε : Type}

theorem perm_put (t : Nat) (e : ε) (a : Agenda ε) : (put t e a).Perm ((t, e) :: a) := by
  induction a with
  | nil => exact .refl _
  | cons x rest ih =>
    unfold put
    split
    · exact .refl _
    · exact (ih.cons x).trans (.swap _ _ _)

theorem perm_putAll (a events : Agenda ε) : (putAll a events).Perm (events ++ a) := by
  induction events generalizing a with
  | nil => exact .refl _
  | cons e events ih =>
    refine (ih (put e.1 e.2 a)).trans ?_
    exact ((perm_put e.1 e.2 a).append_left events).trans List.perm_middle

end Agenda

namespace QueueEvent

variable {κ : Type}

/-- The key of the pass that ends. -/
def ended? : QueueEvent κ → Option κ
  | finish k _ => some k
  | _ => none

/-- The keys of the passes whose ends are among events. -/
def ends (events : List (QueueEvent κ)) : List κ := events.filterMap ended?

theorem ends_append (events more : List (QueueEvent κ)) :
    ends (events ++ more) = ends events ++ ends more := List.filterMap_append

end QueueEvent

/-! ## Reactions -/

theorem WorkQueue.take?_eq_some {κ : Type} [DecidableEq κ] {q q' : WorkQueue κ} {first : Source}
    {taken : Taken κ} (h : q.take? first = some (taken, q')) : q.hasRoom = true ∧
      ∃ q₁, q.Pops taken.key q₁ ∧ taken.starts = (q₁.claim taken.key).1 ∧
        q' = (q₁.claim taken.key).2 := by
  unfold take? at h
  cases hroom : q.hasRoom with
  | false =>
    rw [hroom] at h
    cases h
  | true =>
    rw [hroom] at h
    cases hnext : q.next? first with
    | none =>
      rw [hnext] at h
      cases h
    | some next =>
      rw [hnext] at h
      cases h
      exact ⟨rfl, next.2, pops_of_next? hnext, rfl, rfl⟩

namespace Worker

open QueueEvent

variable {κ σ : Type} {w : Worker κ σ} {l : WorkLoop κ σ}

/-- The events that a reaction brings about, whenever they come. -/
def ahead (r : Reaction (WorkLoop κ σ) (QueueEvent κ)) : List (QueueEvent κ) :=
  r.atOnce ++ r.later.map (·.2)

theorem queue_settle (t : Nat) (l : WorkLoop κ σ) : (w.settle t l).queue = l.queue := by
  unfold settle
  split <;> rfl

/-- A pass that begins leaves the queue alone and has one end ahead. -/
theorem begin_spec (starts : Bool) (t : Nat) (k : κ) (l : WorkLoop κ σ) :
    (if starts then w.begin t k l else { state := l }).state.queue = l.queue ∧
      ends (ahead (if starts then w.begin t k l else { state := l })) =
        if starts then [k] else [] := by
  cases starts with
  | false => exact ⟨rfl, rfl⟩
  | true =>
    rw [if_pos rfl, if_pos rfl]
    unfold begin
    dsimp only
    split <;> exact ⟨rfl, rfl⟩

theorem ends_ahead_pull (r : Reaction (WorkLoop κ σ) (QueueEvent κ)) (first : WorkQueue.Source) :
    ends (ahead { r with atOnce := r.atOnce ++ [.pull first] }) = ends (ahead r) := by
  unfold ahead
  rw [ends_append, ends_append, ends_append]
  exact congrArg (· ++ _) (List.append_nil _)

theorem ends_ahead_later (r : Reaction (WorkLoop κ σ) (QueueEvent κ))
    {more : Agenda (QueueEvent κ)} (h : ends (more.map (·.2)) = []) :
    ends (ahead { r with later := r.later ++ more }) = ends (ahead r) := by
  unfold ahead
  rw [List.map_append, ends_append, ends_append, ends_append, h, List.append_nil]

variable [DecidableEq κ]

/-- The loop is at a point of a course where no pass is about to begin. -/
def Courses (l : WorkLoop κ σ) : Prop :=
  ∃ c : Course κ, c.Reaches ∧ c.queue = l.queue ∧ c.starting = []

/-- A step of the course, and one that begins a pass if it made one be about to begin. -/
theorem Courses.step {c c' : Course κ} {l' : WorkLoop κ σ} (h : c.Reaches) (hs : Course.Step c c')
    (hq : c'.queue = l'.queue) (hstart : c'.starting = [] ∨ ∃ k, c'.starting = [k]) :
    Courses l' := by
  obtain ⟨limit, h⟩ := h
  rcases hstart with hstart | ⟨k, hstart⟩
  · exact ⟨c', ⟨limit, h.tail hs⟩, hq, hstart⟩
  · have hk : k ∈ c'.starting := by
      rw [hstart]
      exact List.mem_singleton_self k
    refine ⟨c'.begin k, ⟨limit, (h.tail hs).tail (.begin hk)⟩, hq, ?_⟩
    show c'.starting.erase k = []
    rw [hstart]
    exact List.erase_cons_head k []

/-- The ends of passes among events are those of the passes that run. -/
def Accounts (l : WorkLoop κ σ) (events : List (QueueEvent κ)) : Prop :=
  (ends events).Perm l.queue.running

theorem pull_spec (t : Nat) (first : WorkQueue.Source) {rest : List (QueueEvent κ)}
    (h : Courses l) (hrest : Accounts l rest) : Courses (w.pull t first l).state ∧
      Accounts (w.pull t first l).state (ahead (w.pull t first l) ++ rest) := by
  unfold pull
  cases htake : l.queue.take? first with
  | none => exact ⟨h, hrest⟩
  | some next =>
    obtain ⟨taken, queue⟩ := next
    obtain ⟨hroom, q, hpop, hstarts, rfl⟩ := WorkQueue.take?_eq_some htake
    obtain ⟨c, hc, hq, hstart⟩ := h
    rw [← hq] at hroom hpop
    have hstarting : (c.take taken.key q).starting = if taken.starts then [taken.key] else [] := by
      show (if _ then _ else _) = _
      rw [hstarts, hstart]
    have hrunning : (q.claim taken.key).2.running =
        l.queue.running ++ if taken.starts then [taken.key] else [] := by
      rw [WorkQueue.running_claim, hpop.sameWork.2, hq, hstarts, WorkQueue.starts_claim]
      cases q.isClaimed taken.key with
      | true => exact (List.append_nil _).symm
      | false => rfl
    obtain ⟨hqueue, hends⟩ := begin_spec (w := w) taken.starts t taken.key
      { l with queue := (q.claim taken.key).2 }
    dsimp only
    generalize (if taken.starts then w.begin t taken.key _ else _ : Reaction _ _) = r at *
    refine ⟨.step hc (.take hroom hpop) hqueue.symm ?_, ?_⟩
    · rw [hstarting]
      cases taken.starts with
      | true => exact .inr ⟨_, rfl⟩
      | false => exact .inl rfl
    · show (ends _).Perm r.state.queue.running
      rw [ends_append, ends_ahead_pull, hends, hqueue]
      exact List.perm_append_comm.trans (hrunning ▸ hrest.append_right _)

theorem finish_spec (t : Nat) {k : κ} {result : Result Unit} {rest : List (QueueEvent κ)}
    (h : Courses l) (hrest : Accounts l (.finish k result :: rest)) :
    Courses (w.finishPass t k result l).state ∧ Accounts (w.finishPass t k result l).state
      (ahead (w.finishPass t k result l) ++ rest) := by
  obtain ⟨c, hc, hq, hstart⟩ := h
  have hk : k ∈ l.queue.running := hrest.mem_iff.1 List.mem_cons_self
  have hstep : Course.Step c (c.finish k (!result.isOk)) :=
    .finish _ (hq ▸ hk) (by rw [hstart]; exact List.not_mem_nil)
  have hreruns : (l.queue.finish k (!result.isOk)).1.reruns = l.queue.owes k :=
    WorkQueue.reruns_finish
  have hrunning : (l.queue.finish k (!result.isOk)).2.running =
      if l.queue.owes k then l.queue.running else l.queue.running.erase k :=
    WorkQueue.running_finish
  have hstarting : (c.finish k (!result.isOk)).starting = if l.queue.owes k then [k] else [] := by
    rw [Course.starting_finish, hq, hstart]
  obtain ⟨hqueue, hends⟩ := begin_spec (w := w) (l.queue.finish k (!result.isOk)).1.reruns t k
    { l with
      queue := (l.queue.finish k (!result.isOk)).2
      inner := w.count t result (w.finish t k result.isOk l.inner) }
  unfold finishPass
  dsimp only
  generalize (if (l.queue.finish k (!result.isOk)).1.reruns then w.begin t k _ else _ :
    Reaction _ _) = r at *
  refine ⟨.step hc hstep ?_ ?_, ?_⟩
  · show (c.queue.finish k (!result.isOk)).2 = r.state.queue
    rw [hq, hqueue]
  · rw [hstarting]
    cases l.queue.owes k with
    | true => exact .inr ⟨k, rfl⟩
    | false => exact .inl rfl
  · show (ends _).Perm r.state.queue.running
    rw [ends_append, ends_ahead_later { r with atOnce := r.atOnce ++ [.pull .triggers] },
      ends_ahead_pull, hends, hqueue, hreruns, hrunning]
    · cases l.queue.owes k with
      | true => exact hrest
      | false =>
        have herase := hrest.erase k
        change ((k :: ends rest).erase k).Perm _ at herase
        rw [List.erase_cons_head] at herase
        exact herase
    · split <;> rfl

/-- Each event is a step or two of the course, and the ends ahead stay those of the passes that
run. -/
theorem react_spec (t : Nat) {e : QueueEvent κ} {rest : List (QueueEvent κ)} (h : Courses l)
    (hrest : Accounts l (e :: rest)) :
    Courses (w.react t e l).state ∧
      Accounts (w.react t e l).state (ahead (w.react t e l) ++ rest) := by
  have hsettle : ∀ {r : Reaction (WorkLoop κ σ) (QueueEvent κ)},
      Courses r.state ∧ Accounts r.state (ahead r ++ rest) →
      Courses (w.settle t r.state) ∧ Accounts (w.settle t r.state) (ahead r ++ rest) := by
    rintro r ⟨⟨c, hc, hq, hstart⟩, hends⟩
    refine ⟨⟨c, hc, hq.trans (queue_settle t _).symm, hstart⟩, ?_⟩
    unfold Accounts
    rw [queue_settle]
    exact hends
  refine hsettle ?_
  cases e with
  | pull first => exact pull_spec t first h hrest
  | finish k result => exact finish_spec t h hrest
  | trigger k =>
    obtain ⟨c, hc, hq, hstart⟩ := h
    refine ⟨.step hc (.trigger k) ?_ (.inl hstart), hrest⟩
    rw [hq]
  | wake k =>
    obtain ⟨c, hc, hq, hstart⟩ := h
    refine ⟨.step hc (.wake k) ?_ (.inl hstart), ?_⟩
    · rw [hq]
    · show (ends rest).Perm (l.queue.wake k).running
      rw [WorkQueue.sameWork_wake.2]
      exact hrest
  | stop =>
    obtain ⟨c, hc, hq, hstart⟩ := h
    refine ⟨.step hc .stop ?_ (.inl hstart), hrest⟩
    rw [hq]

omit [DecidableEq κ] in
/-- What has happened makes room for what it brings about. -/
theorem Accounts.put {now : List (QueueEvent κ)}
    {a : Agenda (QueueEvent κ)} {r : Reaction (WorkLoop κ σ) (QueueEvent κ)}
    (h : Accounts l (ahead r ++ (now ++ a.map (·.2)))) :
    Accounts l ((r.atOnce ++ now) ++ (Agenda.putAll a r.later).map (·.2)) := by
  refine .trans (.filterMap _ ?_) h
  have hput := (Agenda.perm_putAll a r.later).map (·.2)
  rw [List.map_append] at hput
  unfold ahead
  refine (hput.append_left _).trans ?_
  rw [List.append_assoc, List.append_assoc]
  exact (List.perm_append_comm_assoc _ _ _).append_left _

end Worker

end TenantCloud
