import Mathlib.Data.List.Nodup
import TenantCloud.Proofs.WorkQueue.Course

/-!
# Owners of keys

A `Crew` is a queue together with the requests at work on it: a request that was taken and found
its key free is a `Task`, which owns the key until it releases it, and which begins the passes for
it. A log says what became of each request, so that owners and running passes can be read off the
past (`Crew.owners`, `Crew.passes`), whatever the tasks are now.

* `Crew.Sound` ties the log to the tasks and the tasks to the claims of the queue; each step keeps
  it (`Crew.Sound.step`).
* `Crew.one_pass_per_key` is what follows for every state that can be reached.
* `Crew.exists_of_course`: whatever a course does, a crew does.
-/

set_option autoImplicit false

namespace TenantCloud

/-- What becomes of a request that was taken. -/
inductive Turn
  /-- Its key was free and is its own now. -/
  | claimed
  /-- Its key was claimed already. -/
  | coalesced
  | began
  | ended
  /-- Its key is free again. -/
  | released
  deriving DecidableEq

/-- A request that owns its key. Its pass runs, or else is about to begin. -/
structure Task (κ : Type) where
  request : Nat
  key : κ
  runs : Bool
  deriving DecidableEq

/-- The request of a task and the key that it owns. -/
def Task.name {κ : Type} (t : Task κ) : Nat × κ := (t.request, t.key)

/-- A queue and the requests at work on it. -/
structure Crew (κ : Type) where
  queue : WorkQueue κ
  tasks : List (Task κ) := []
  /-- How many requests were taken; they are numbered in order. -/
  taken : Nat := 0
  /-- What became of which request for which key, latest first. -/
  log : List (Nat × κ × Turn) := []

namespace Crew

variable {κ : Type} [DecidableEq κ]

/-- The requests, with their keys, for which the first turn came and the second one not yet. -/
def between (first second : Turn) : List (Nat × κ × Turn) → List (Nat × κ)
  | [] => []
  | (r, k, u) :: log =>
    if u = first then (r, k) :: between first second log
    else if u = second then (between first second log).erase (r, k)
    else between first second log

/-- The requests that claimed their key and did not release it yet. -/
def owners (c : Crew κ) : List (Nat × κ) := between .claimed .released c.log

/-- The passes that began and did not end yet, by the request and the key. -/
def passes (c : Crew κ) : List (Nat × κ) := between .began .ended c.log

/-- A request is taken that leaves a queue behind: it claims its key. -/
def take (c : Crew κ) (k : κ) (q : WorkQueue κ) : Crew κ where
  queue := (q.claim k).2
  tasks := if (q.claim k).1 then ⟨c.taken, k, false⟩ :: c.tasks else c.tasks
  taken := c.taken + 1
  log := (c.taken, k, if (q.claim k).1 then .claimed else .coalesced) :: c.log

/-- A task begins its pass. -/
def begin (c : Crew κ) (t : Task κ) : Crew κ :=
  { c with
    tasks := { t with runs := true } :: c.tasks.erase t
    log := (t.request, t.key, .began) :: c.log }

/-- The pass of a task ends. Where one more is owed the task goes on, else it releases its key. -/
def finish (c : Crew κ) (t : Task κ) (failed : Bool) : Crew κ :=
  let ended := (t.request, t.key, Turn.ended) :: c.log
  if (c.queue.finish t.key failed).1.reruns then
    { c with
      queue := (c.queue.finish t.key failed).2
      tasks := { t with runs := false } :: c.tasks.erase t
      log := ended }
  else
    { c with
      queue := (c.queue.finish t.key failed).2
      tasks := c.tasks.erase t
      log := (t.request, t.key, .released) :: ended }

/-- What can happen next, in any order. A request is taken only while fewer tasks are at work than
may be. -/
inductive Step : Crew κ → Crew κ → Prop
  | trigger {c : Crew κ} (k : κ) : Step c { c with queue := c.queue.trigger k }
  | wake {c : Crew κ} (k : κ) : Step c { c with queue := c.queue.wake k }
  | take {c : Crew κ} {k : κ} {q : WorkQueue κ} : c.queue.stopped = false →
      c.tasks.length < max 1 c.queue.limit → c.queue.Pops k q → Step c (c.take k q)
  | begin {c : Crew κ} {t : Task κ} : t ∈ c.tasks → t.runs = false → Step c (c.begin t)
  | finish {c : Crew κ} {t : Task κ} (failed : Bool) :
      t ∈ c.tasks → t.runs = true → Step c (c.finish t failed)
  | stop {c : Crew κ} : Step c { c with queue := c.queue.stop }

/-- What can come of an empty queue. -/
def Reaches (limit : Nat) (c : Crew κ) : Prop :=
  Relation.ReflTransGen Step { queue := { limit } } c

/-- The log tells the tasks, and the tasks tell the claims of the queue. -/
structure Sound (limit : Nat) (c : Crew κ) : Prop where
  limited : c.queue.limit = limit
  room : c.tasks.length ≤ max 1 limit
  keys : (c.tasks.map Task.key).Nodup
  claimed : ∀ k, c.queue.isClaimed k = true ↔ k ∈ c.tasks.map Task.key
  owners : c.owners.Perm (c.tasks.map Task.name)
  passes : c.passes.Perm ((c.tasks.filter Task.runs).map Task.name)
  known : ∀ e ∈ c.log, e.1 < c.taken
  coalesced : ∀ r k, (r, k, Turn.coalesced) ∈ c.log →
    ∀ k' u, (r, k', u) ∈ c.log → u = .coalesced

variable {limit : Nat} {c c' : Crew κ} {t : Task κ} {k : κ}

theorem mem_log_of_between {first second : Turn} {log : List (Nat × κ × Turn)} {r : Nat}
    (h : (r, k) ∈ between first second log) : (r, k, first) ∈ log := by
  induction log with
  | nil => cases h
  | cons e log ih =>
    obtain ⟨r', k', u⟩ := e
    simp only [between] at h
    split at h
    · rename_i hu
      rcases List.mem_cons.1 h with h | h
      · cases h
        simp [hu]
      · exact List.mem_cons_of_mem _ (ih h)
    · split at h
      · exact List.mem_cons_of_mem _ (ih (List.mem_of_mem_erase h))
      · exact List.mem_cons_of_mem _ (ih h)

/-- A change of the queue that keeps its claims is seen by no task. -/
theorem Sound.sameWork {q : WorkQueue κ} (h : c.Sound limit) (hs : c.queue.SameWork q)
    (hl : q.limit = c.queue.limit) : Sound limit { c with queue := q } := by
  refine { h with limited := hl.trans h.limited, claimed := fun k => ?_ }
  rw [hs.isClaimed]
  exact h.claimed k

/-! ## The limit of a queue -/

theorem limit_pops {q q' : WorkQueue κ} (h : q.Pops k q') : q'.limit = q.limit := by
  cases h <;> rfl

theorem limit_claim (q : WorkQueue κ) (k : κ) : (q.claim k).2.limit = q.limit := by
  unfold WorkQueue.claim
  split <;> rfl

theorem limit_finish (q : WorkQueue κ) (k : κ) (failed : Bool) :
    (q.finish k failed).2.limit = q.limit := by
  have hretry : (q.retry k).2.limit = q.limit := by
    unfold WorkQueue.retry
    split
    · rfl
    · split <;> rfl
  have hrelease : ∀ q : WorkQueue κ, (q.release k).2.limit = q.limit := by
    intro q
    unfold WorkQueue.release
    split <;> rfl
  cases failed with
  | false => exact hrelease q
  | true => exact (hrelease _).trans hretry

/-! ## Requests that are taken -/

/-- What becomes of a request that is new leaves the log in order. -/
theorem Sound.fresh (h : c.Sound limit) (k : κ) (u : Turn) :
    (∀ e ∈ (c.taken, k, u) :: c.log, e.1 < c.taken + 1) ∧
      ∀ r k', (r, k', Turn.coalesced) ∈ (c.taken, k, u) :: c.log →
        ∀ k'' u', (r, k'', u') ∈ (c.taken, k, u) :: c.log → u' = .coalesced := by
  have hnew : ∀ k' u, (c.taken, k', u) ∉ c.log := fun k' u hm => Nat.lt_irrefl _ (h.known _ hm)
  refine ⟨fun e he => ?_, fun r k' hr k'' u' hu => ?_⟩
  · rcases List.mem_cons.1 he with rfl | he
    · exact Nat.lt_succ_self _
    · exact Nat.lt_succ_of_lt (h.known e he)
  · rcases List.mem_cons.1 hr with hr | hr
    · obtain ⟨hreq, hturn⟩ := Prod.mk.inj hr
      rcases List.mem_cons.1 hu with hu | hu
      · exact (Prod.mk.inj (Prod.mk.inj hu).2).2.trans (Prod.mk.inj hturn).2.symm
      · exact absurd (hreq ▸ hu) (hnew _ _)
    · rcases List.mem_cons.1 hu with hu | hu
      · exact absurd ((Prod.mk.inj hu).1 ▸ hr) (hnew _ _)
      · exact h.coalesced r k' hr k'' u' hu

theorem Sound.take {q : WorkQueue κ} (h : c.Sound limit)
    (hroom : c.tasks.length < max 1 c.queue.limit) (hpop : c.queue.Pops k q) :
    (c.take k q).Sound limit := by
  have hs := hpop.sameWork
  have hlimited : (q.claim k).2.limit = limit :=
    (limit_claim q k).trans ((limit_pops hpop).trans h.limited)
  have hclaims : ∀ k', (q.claim k).2.isClaimed k' = true ↔ k' = k ∨ k' ∈ c.tasks.map Task.key := by
    intro k'
    rw [← h.claimed, ← hs.isClaimed]
    exact WorkQueue.isClaimed_claim
  -- The claim succeeds just where no task has the key.
  have hstarts : (q.claim k).1 = !c.queue.isClaimed k := by
    rw [WorkQueue.starts_claim, hs.isClaimed]
  unfold Crew.take
  rw [hstarts]
  cases hc : c.queue.isClaimed k with
  | true =>
    have hmem : k ∈ c.tasks.map Task.key := (h.claimed k).1 hc
    obtain ⟨hknown, hcoalesced⟩ := h.fresh k .coalesced
    refine ⟨hlimited, h.room, h.keys, fun k' => (hclaims k').trans ?_, h.owners, h.passes, hknown,
      hcoalesced⟩
    exact or_iff_right_of_imp fun he => he ▸ hmem
  | false =>
    have hmem : k ∉ c.tasks.map Task.key := by
      intro hm
      rw [(h.claimed k).2 hm] at hc
      cases hc
    obtain ⟨hknown, hcoalesced⟩ := h.fresh k .claimed
    rw [h.limited] at hroom
    exact ⟨hlimited, hroom, List.nodup_cons.2 ⟨hmem, h.keys⟩,
      fun k' => (hclaims k').trans List.mem_cons.symm, h.owners.cons _, h.passes, hknown,
      hcoalesced⟩

/-! ## Passes that begin and end -/

/-- One more turn of a task leaves the log in order. -/
theorem Sound.turn (h : c.Sound limit) (ht : t ∈ c.tasks) (log : List (Nat × κ × Turn))
    (hlog : ∀ e ∈ log, e ∈ c.log ∨ e.1 = t.request ∧ e.2.2 ≠ .coalesced) :
    (∀ e ∈ log, e.1 < c.taken) ∧ ∀ r k, (r, k, Turn.coalesced) ∈ log →
      ∀ k' u, (r, k', u) ∈ log → u = .coalesced := by
  -- The request of the task claimed its key, so it was not coalesced.
  have hclaimed : (t.request, t.key, Turn.claimed) ∈ c.log :=
    mem_log_of_between (h.owners.mem_iff.2 (List.mem_map.2 ⟨t, ht, rfl⟩))
  have hown : ∀ k, (t.request, k, Turn.coalesced) ∉ c.log := by
    intro k hm
    cases h.coalesced _ _ hm _ _ hclaimed
  refine ⟨fun e he => ?_, fun r k hr k' u hu => ?_⟩
  · rcases hlog e he with he | ⟨he, -⟩
    · exact h.known e he
    · exact he ▸ h.known _ hclaimed
  · have hr' : (r, k, Turn.coalesced) ∈ c.log := (hlog _ hr).resolve_right fun hx => hx.2 rfl
    rcases hlog _ hu with hu | ⟨hu, -⟩
    · exact h.coalesced r k hr' k' u hu
    · change r = t.request at hu
      subst hu
      exact absurd hr' (hown k)

theorem Sound.begin (h : c.Sound limit) (ht : t ∈ c.tasks) (hr : t.runs = false) :
    (c.begin t).Sound limit := by
  have hperm := List.perm_cons_erase ht
  have hkeys : (c.tasks.map Task.key).Perm ((c.begin t).tasks.map Task.key) := hperm.map Task.key
  have hnames : (c.tasks.map Task.name).Perm ((c.begin t).tasks.map Task.name) :=
    hperm.map Task.name
  have hpasses : (c.tasks.filter Task.runs).Perm ((c.tasks.erase t).filter Task.runs) := by
    have hfilter := hperm.filter Task.runs
    rwa [List.filter_cons_of_neg (by simp [hr])] at hfilter
  obtain ⟨hknown, hcoalesced⟩ := h.turn ht (c.begin t).log fun e he => by
    rcases List.mem_cons.1 he with rfl | he
    · exact .inr ⟨rfl, Turn.noConfusion⟩
    · exact .inl he
  refine ⟨h.limited, ?_, hkeys.nodup_iff.1 h.keys, fun k => (h.claimed k).trans hkeys.mem_iff,
    h.owners.trans hnames, ?_, hknown, hcoalesced⟩
  · have hlen := hkeys.length_eq
    rw [List.length_map, List.length_map] at hlen
    exact hlen ▸ h.room
  · show ((t.request, t.key) :: c.passes).Perm _
    exact (h.passes.trans (hpasses.map Task.name)).cons _

theorem Sound.finish (h : c.Sound limit) (ht : t ∈ c.tasks) (hr : t.runs = true) (failed : Bool) :
    (c.finish t failed).Sound limit := by
  have hperm := List.perm_cons_erase ht
  have hkeys : (c.tasks.map Task.key).Perm (t.key :: (c.tasks.erase t).map Task.key) :=
    hperm.map Task.key
  have hnames : (c.tasks.map Task.name).Perm (t.name :: (c.tasks.erase t).map Task.name) :=
    hperm.map Task.name
  have hnodup := hkeys.nodup_iff.1 h.keys
  have hlen : c.tasks.length = (c.tasks.erase t).length + 1 := hperm.length_eq
  have hlimited : (c.queue.finish t.key failed).2.limit = limit :=
    (limit_finish _ _ _).trans h.limited
  -- The pass of the task ran, and it is the one that runs no longer.
  have hpasses : (c.passes.erase t.name).Perm
      (((c.tasks.erase t).filter Task.runs).map Task.name) := by
    have hfilter := (h.passes.trans ((hperm.filter Task.runs).map Task.name)).erase t.name
    rwa [List.filter_cons_of_pos hr, List.map_cons, List.erase_cons_head] at hfilter
  have hclaims : ∀ k, (c.queue.finish t.key failed).2.isClaimed k = true ↔
      k ∈ c.tasks.map Task.key ∧ (k = t.key → c.queue.owes t.key = true) := by
    intro k
    rw [← h.claimed]
    exact WorkQueue.isClaimed_finish
  unfold Crew.finish
  dsimp only
  rw [WorkQueue.reruns_finish]
  cases ho : c.queue.owes t.key with
  | true =>
    obtain ⟨hknown, hcoalesced⟩ := h.turn ht ((t.request, t.key, .ended) :: c.log)
      fun e he => by
        rcases List.mem_cons.1 he with rfl | he
        · exact .inr ⟨rfl, Turn.noConfusion⟩
        · exact .inl he
    rw [if_pos rfl]
    refine ⟨hlimited, ?_, hnodup, fun k => (hclaims k).trans ?_, h.owners.trans hnames, hpasses,
      hknown, hcoalesced⟩
    · exact Nat.le_trans (Nat.le_of_eq hlen.symm) h.room
    · rw [ho, hkeys.mem_iff]
      exact and_iff_left fun _ => rfl
  | false =>
    obtain ⟨hknown, hcoalesced⟩ := h.turn ht
      ((t.request, t.key, .released) :: (t.request, t.key, .ended) :: c.log)
      fun e he => by
        rcases List.mem_cons.1 he with rfl | he
        · exact .inr ⟨rfl, Turn.noConfusion⟩
        · rcases List.mem_cons.1 he with rfl | he
          · exact .inr ⟨rfl, Turn.noConfusion⟩
          · exact .inl he
    have howners : (c.owners.erase t.name).Perm ((c.tasks.erase t).map Task.name) := by
      have herase := (h.owners.trans hnames).erase t.name
      rwa [List.erase_cons_head] at herase
    rw [if_neg Bool.false_ne_true]
    refine ⟨hlimited, ?_, (List.nodup_cons.1 hnodup).2, fun k => (hclaims k).trans ?_, howners,
      hpasses, hknown, hcoalesced⟩
    · have hroom := h.room
      show (c.tasks.erase t).length ≤ _
      omega
    · rw [ho, hkeys.mem_iff, List.mem_cons]
      constructor
      · rintro ⟨hk | hk, hne⟩
        · cases hne hk
        · exact hk
      · intro hk
        refine ⟨.inr hk, fun he => ?_⟩
        subst he
        exact absurd hk (List.nodup_cons.1 hnodup).1

theorem Sound.step (h : c.Sound limit) (hs : Step c c') : c'.Sound limit := by
  cases hs with
  | trigger k => exact h.sameWork ⟨rfl, rfl⟩ rfl
  | wake k =>
    refine h.sameWork WorkQueue.sameWork_wake ?_
    unfold WorkQueue.wake
    split <;> rfl
  | take _ hroom hpop => exact h.take hroom hpop
  | begin ht hr => exact h.begin ht hr
  | finish failed ht hr => exact h.finish ht hr failed
  | stop => exact h.sameWork ⟨rfl, rfl⟩ rfl

theorem Reaches.sound (h : Reaches limit c) : c.Sound limit := by
  induction h with
  | refl =>
    refine ⟨rfl, Nat.zero_le _, .nil, fun k => ?_, .nil, .nil, ?_, ?_⟩
    · exact ⟨fun hk => absurd hk Bool.false_ne_true, fun hk => absurd hk List.not_mem_nil⟩
    · exact fun _ he => absurd he List.not_mem_nil
    · exact fun _ _ he => absurd he List.not_mem_nil
  | tail _ hs ih => exact ih.step hs

/-- **One pass per key.** Before and after the stop, whatever is triggered and however passes end:
a key that is claimed has one owner, a request that claimed it and did not release it, and another
key has none. The passes that run are passes of owners, at most one per key, and no more than may
run at once. A request that was coalesced never begins a pass. -/
theorem one_pass_per_key (h : Reaches limit c) :
    (∀ k, (c.passes.map Prod.snd).count k ≤ 1) ∧
    (∀ k, (c.owners.map Prod.snd).count k = if c.queue.isClaimed k = true then 1 else 0) ∧
    (∀ p ∈ c.passes, p ∈ c.owners) ∧
    (∀ r k, (r, k, Turn.coalesced) ∈ c.log → ∀ k', (r, k', Turn.began) ∉ c.log) ∧
    c.passes.length ≤ max 1 limit := by
  have hs := h.sound
  have hfilter : (c.tasks.filter Task.runs).Sublist c.tasks := List.filter_sublist
  have howners : (c.owners.map Prod.snd).Perm (c.tasks.map Task.key) := by
    have hmap := hs.owners.map Prod.snd
    rwa [List.map_map] at hmap
  have hpasses : (c.passes.map Prod.snd).Perm ((c.tasks.filter Task.runs).map Task.key) := by
    have hmap := hs.passes.map Prod.snd
    rwa [List.map_map] at hmap
  refine ⟨fun k => ?_, fun k => ?_, fun p hp => ?_, fun r k hr k' hb => ?_, ?_⟩
  · rw [hpasses.count_eq]
    exact List.nodup_iff_count_le_one.1 (hs.keys.sublist (hfilter.map _)) k
  · rw [howners.count_eq, hs.keys.count]
    simp only [hs.claimed]
  · refine hs.owners.mem_iff.2 ?_
    exact (hfilter.map _).subset (hs.passes.mem_iff.1 hp)
  · cases hs.coalesced r k hr k' _ hb
  · have hlen := hs.passes.length_eq
    rw [List.length_map] at hlen
    exact hlen ▸ Nat.le_trans hfilter.length_le hs.room

/-- A key with a pass that runs and was triggered again meanwhile, next to another key. -/
def pair : Crew Nat :=
  let c : Crew Nat := { queue := { limit := 2, triggers := [7, 7, 8] } }
  let c := (c.take 7 { c.queue with triggers := [7, 8] }).begin ⟨0, 7, false⟩
  let c := c.take 7 { c.queue with triggers := [8] }
  (c.take 8 { c.queue with triggers := [] }).begin ⟨2, 8, false⟩

theorem reaches_pair : Reaches 2 pair := by
  refine .head (.trigger 7) (.head (.trigger 7) (.head (.trigger 8) ?_))
  refine .head (.take rfl (by decide) (.trigger rfl)) ?_
  refine .head (.begin (t := ⟨0, 7, false⟩) (by decide) rfl) ?_
  refine .head (.take rfl (by decide) (.trigger rfl)) ?_
  refine .head (.take rfl (by decide) (.trigger rfl)) ?_
  exact .head (.begin (t := ⟨2, 8, false⟩) (by decide) rfl) .refl

/-- Two passes run, and the second request for the first key begins none. -/
theorem pair_runs_apart :
    pair.passes = [(2, 8), (0, 7)] ∧ (1, 7, Turn.coalesced) ∈ pair.log ∧
      (pair.owners.map Prod.snd).count 7 = (if pair.queue.isClaimed 7 = true then 1 else 0) ∧
      (∀ k', (1, k', Turn.began) ∉ pair.log) ∧ pair.passes.length ≤ max 1 2 :=
  have h := one_pass_per_key reaches_pair
  ⟨by decide, by decide, h.2.1 7, h.2.2.2.1 1 7 (by decide), h.2.2.2.2⟩

/-! ## Courses -/

/-- The tasks that are about to begin are the passes that are about to begin in a course. -/
structure Mirrors (c : Crew κ) (d : Course κ) : Prop where
  queue : c.queue = d.queue
  starting : ∀ k, k ∈ d.starting ↔ ∃ t ∈ c.tasks, t.key = k ∧ t.runs = false

variable {d d' : Course κ}

theorem Sound.eq_of_key (h : c.Sound limit) {t t' : Task κ} (ht : t ∈ c.tasks) (ht' : t' ∈ c.tasks)
    (hk : t.key = t'.key) : t = t' :=
  List.inj_on_of_nodup_map h.keys ht ht' hk

theorem Sound.mem_erase (h : c.Sound limit) (ht : t ∈ c.tasks) {t' : Task κ} :
    t' ∈ c.tasks.erase t ↔ t'.key ≠ t.key ∧ t' ∈ c.tasks := by
  rw [h.keys.of_map.mem_erase_iff]
  refine and_congr_left fun ht' => not_congr ⟨fun he => he ▸ rfl, fun hk => ?_⟩
  exact h.eq_of_key ht' ht hk

/-- A course claims a key for each task. -/
theorem Mirrors.length_tasks (hm : c.Mirrors d) (hc : c.Sound limit) (hd : d.Sound) :
    c.tasks.length = d.queue.running.length := by
  have hperm : (c.tasks.map Task.key).Perm d.queue.running := by
    refine (List.perm_ext_iff_of_nodup hc.keys hd.running_nodup).2 fun k => ?_
    rw [← hc.claimed, hd.running, hm.queue]
  have hlen := hperm.length_eq
  rwa [List.length_map] at hlen

theorem Mirrors.take {q : WorkQueue κ} (hm : c.Mirrors d) : (c.take k q).Mirrors (d.take k q) := by
  refine ⟨rfl, fun k' => ?_⟩
  unfold Crew.take Course.take
  dsimp only
  split
  · rw [List.mem_cons, hm.starting]
    constructor
    · rintro (rfl | ⟨t, ht, hk⟩)
      · exact ⟨_, List.mem_cons_self, rfl, rfl⟩
      · exact ⟨t, List.mem_cons_of_mem _ ht, hk⟩
    · rintro ⟨t, ht, rfl, hr⟩
      rcases List.mem_cons.1 ht with rfl | ht
      · exact .inl rfl
      · exact .inr ⟨t, ht, rfl, hr⟩
  · exact hm.starting k'

theorem Mirrors.begin (hm : c.Mirrors d) (hc : c.Sound limit) (hd : d.Sound) (ht : t ∈ c.tasks) :
    (c.begin t).Mirrors (d.begin t.key) := by
  refine ⟨hm.queue, fun k' => ?_⟩
  show k' ∈ d.starting.erase t.key ↔ ∃ t' ∈ { t with runs := true } :: c.tasks.erase t, _
  rw [hd.starting_nodup.mem_erase_iff, hm.starting]
  constructor
  · rintro ⟨hne, t', ht', rfl, hr⟩
    exact ⟨t', List.mem_cons_of_mem _ ((hc.mem_erase ht).2 ⟨hne, ht'⟩), rfl, hr⟩
  · rintro ⟨t', ht', rfl, hr⟩
    rcases List.mem_cons.1 ht' with rfl | ht'
    · cases hr
    · obtain ⟨hne, ht'⟩ := (hc.mem_erase ht).1 ht'
      exact ⟨hne, t', ht', rfl, hr⟩

theorem Mirrors.finish (hm : c.Mirrors d) (hc : c.Sound limit) (ht : t ∈ c.tasks)
    (hr : t.runs = true) (failed : Bool) : (c.finish t failed).Mirrors (d.finish t.key failed) := by
  have hrest : ∀ k', k' ∈ d.starting ↔ ∃ t' ∈ c.tasks.erase t, t'.key = k' ∧ t'.runs = false := by
    intro k'
    rw [hm.starting]
    refine exists_congr fun t' => and_congr_left fun ⟨_, hr'⟩ => ⟨fun ht' => ?_, fun ht' => ?_⟩
    · refine (hc.mem_erase ht).2 ⟨fun hk => ?_, ht'⟩
      rw [hc.eq_of_key ht' ht hk, hr] at hr'
      cases hr'
    · exact ((hc.mem_erase ht).1 ht').2
  unfold Crew.finish Course.finish
  rw [← hm.queue]
  dsimp only
  split
  · refine ⟨rfl, fun k' => ?_⟩
    show k' ∈ t.key :: d.starting ↔ ∃ t' ∈ { t with runs := false } :: c.tasks.erase t, _
    rw [List.mem_cons, hrest]
    constructor
    · rintro (rfl | ⟨t', ht', hk⟩)
      · exact ⟨_, List.mem_cons_self, rfl, rfl⟩
      · exact ⟨t', List.mem_cons_of_mem _ ht', hk⟩
    · rintro ⟨t', ht', rfl, hr'⟩
      rcases List.mem_cons.1 ht' with rfl | ht'
      · exact .inl rfl
      · exact .inr ⟨t', ht', rfl, hr'⟩
  · exact ⟨rfl, hrest⟩

theorem Mirrors.step (hm : c.Mirrors d) (hc : c.Sound limit) (hd : d.Sound)
    (hs : Course.Step d d') : ∃ c', Step c c' ∧ c'.Mirrors d' := by
  obtain ⟨hq, hstarting⟩ := hm
  cases hs with
  | trigger k => exact ⟨_, .trigger k, congrArg (·.trigger k) hq, hstarting⟩
  | wake k => exact ⟨_, .wake k, congrArg (·.wake k) hq, hstarting⟩
  | stop => exact ⟨_, .stop, congrArg WorkQueue.stop hq, hstarting⟩
  | take hroom hpop =>
    have hlen := Mirrors.length_tasks ⟨hq, hstarting⟩ hc hd
    unfold WorkQueue.hasRoom at hroom
    simp only [Bool.and_eq_true, Bool.not_eq_true', decide_eq_true_eq] at hroom
    rw [← hq] at hroom hpop hlen
    exact ⟨_, .take hroom.1 (hlen ▸ hroom.2) hpop, Mirrors.take ⟨hq, hstarting⟩⟩
  | begin hk =>
    obtain ⟨t, ht, rfl, hr⟩ := (hstarting _).1 hk
    exact ⟨_, .begin ht hr, Mirrors.begin ⟨hq, hstarting⟩ hc hd ht⟩
  | finish failed hk hnot =>
    have hclaimed := (hd.running _).1 hk
    rw [← hq, hc.claimed] at hclaimed
    obtain ⟨t, ht, rfl⟩ := List.mem_map.1 hclaimed
    have hr : t.runs = true := by
      by_contra hr
      exact hnot ((hstarting _).2 ⟨t, ht, rfl, Bool.eq_false_iff.2 hr⟩)
    exact ⟨_, .finish failed ht hr, Mirrors.finish ⟨hq, hstarting⟩ hc ht hr failed⟩

/-- What a course does, a crew does. -/
theorem exists_of_course (h : d.Reaches) : ∃ limit c, Reaches limit c ∧ c.Mirrors d := by
  obtain ⟨limit, h⟩ := h
  refine ⟨limit, ?_⟩
  induction h with
  | refl => exact ⟨_, .refl, rfl, fun k => by simp⟩
  | tail hpath hs ih =>
    obtain ⟨c, hc, hm⟩ := ih
    obtain ⟨c', hstep, hm'⟩ := hm.step hc.sound (Course.Reaches.sound ⟨limit, hpath⟩) hs
    exact ⟨c', hc.tail hstep, hm'⟩

end Crew

end TenantCloud
