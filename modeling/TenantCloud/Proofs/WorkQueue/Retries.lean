import TenantCloud.Proofs.WorkQueue.Course

/-!
# Retries of a queue

A retry goes from a delay that runs (`sleeping`) to a message that waits to be taken
(`dueRetries`), and `retryPending` says for which keys one is on its way. `WorkQueue.Chained` is
the invariant between the three: one retry on its way for a key that is marked, none for another
one. Until the queue is stopped, every step of a course keeps it (`Course.chained_step`).
-/

set_option autoImplicit false

namespace TenantCloud

namespace WorkQueue

variable {κ : Type} [DecidableEq κ] {q q' : WorkQueue κ} {k : κ}

/-- The retries of a key that are on their way. -/
def retries (q : WorkQueue κ) (k : κ) : Nat := q.sleeping.count k + q.dueRetries.count k

/-- One retry is on its way for each key that is marked, and none for another key. -/
def Chained (q : WorkQueue κ) : Prop :=
  ∀ k, q.retries k = if k ∈ q.retryPending then 1 else 0

/-- Two queues have the same retries, and one is stopped if the other is. -/
structure SameRetries (q q' : WorkQueue κ) : Prop where
  sleeping : q'.sleeping = q.sleeping
  due : q'.dueRetries = q.dueRetries
  pending : q'.retryPending = q.retryPending
  stopped : q'.stopped = q.stopped

theorem SameRetries.chained (hs : q.SameRetries q') (h : q.Chained) : q'.Chained := by
  intro k
  have hk := h k
  unfold retries at hk ⊢
  rw [hs.sleeping, hs.due, hs.pending]
  exact hk

theorem sameRetries_claim : q.SameRetries (q.claim k).2 := by
  unfold claim
  split <;> exact ⟨rfl, rfl, rfl, rfl⟩

theorem sameRetries_release : q.SameRetries (q.release k).2 := by
  unfold release
  split <;> exact ⟨rfl, rfl, rfl, rfl⟩

/-- A delay that is over becomes a message. -/
theorem Chained.wake (h : q.Chained) (k : κ) : (q.wake k).Chained := by
  unfold WorkQueue.wake
  split
  · rename_i hk
    intro k'
    have hk' := h k'
    have hpos : 0 < q.sleeping.count k := List.count_pos_iff.2 hk
    unfold retries at hk' ⊢
    simp only [List.count_append, List.count_erase, List.count_singleton]
    by_cases he : k = k'
    · subst he
      simp only [beq_self_eq_true, if_true]
      omega
    · simp only [beq_eq_false_iff_ne.2 he, Bool.false_eq_true, if_false]
      omega
  · exact h

/-- A message that is taken takes the mark of its key along. -/
theorem Chained.pops (h : q.Chained) (hp : q.Pops k q') : q'.Chained := by
  cases hp with
  | trigger => exact h
  | retry hd =>
    intro k'
    have hk' := h k'
    unfold retries at hk' ⊢
    rw [hd, List.count_cons] at hk'
    simp only [List.mem_filter, decide_eq_true_eq]
    by_cases he : k = k'
    · subst he
      simp only [beq_self_eq_true, if_true] at hk'
      have hmark : k ∈ q.retryPending := by
        by_contra hn
        rw [if_neg hn] at hk'
        omega
      rw [if_pos hmark] at hk'
      rw [if_neg fun hm => hm.2 rfl]
      omega
    · simp only [beq_eq_false_iff_ne.2 he, Bool.false_eq_true, if_false] at hk'
      simpa [Ne.symm he] using hk'

/-- A failure marks its key, and a delay starts where the key was not marked yet. -/
theorem Chained.retry (h : q.Chained) (hs : q.stopped = false) (k : κ) :
    (q.retry k).2.Chained := by
  unfold WorkQueue.retry
  split
  · exact h
  · rename_i hk
    rw [if_neg (by simp [hs])]
    intro k'
    have hk' := h k'
    unfold retries at hk' ⊢
    simp only [List.count_append, List.count_singleton, List.mem_cons]
    by_cases he : k = k'
    · subst he
      rw [if_neg hk] at hk'
      simp only [beq_self_eq_true, if_true, true_or]
      omega
    · simp only [beq_eq_false_iff_ne.2 he, Bool.false_eq_true, if_false, Ne.symm he, false_or]
      omega

theorem mem_retryPending_retry : k ∈ (q.retry k).2.retryPending := by
  unfold WorkQueue.retry
  split
  · assumption
  · split <;> exact List.mem_cons_self

theorem stopped_retry : (q.retry k).2.stopped = q.stopped := by
  unfold WorkQueue.retry
  split
  · rfl
  · split <;> rfl

/-- The end of a pass records its failure and releases its key. -/
theorem sameRetries_finish (q : WorkQueue κ) (k : κ) (failed : Bool) :
    (if failed then (q.retry k).2 else q).SameRetries (q.finish k failed).2 := by
  cases failed <;> exact sameRetries_release

theorem Chained.finish (h : q.Chained) (hs : q.stopped = false) (k : κ) (failed : Bool) :
    (q.finish k failed).2.Chained := by
  refine (sameRetries_finish q k failed).chained ?_
  cases failed with
  | true => exact h.retry hs k
  | false => exact h

theorem stopped_finish (q : WorkQueue κ) (k : κ) (failed : Bool) :
    (q.finish k failed).2.stopped = q.stopped := by
  rw [(sameRetries_finish q k failed).stopped]
  cases failed with
  | true => exact stopped_retry
  | false => rfl

theorem Pops.stopped (hp : q.Pops k q') : q'.stopped = q.stopped := by
  cases hp <;> rfl

theorem stopped_wake : (q.wake k).stopped = q.stopped := by
  unfold WorkQueue.wake
  split <;> rfl

end WorkQueue

namespace Course

variable {κ : Type} [DecidableEq κ] {c c' : Course κ}

/-- A queue that is stopped stays so. -/
theorem stopped_step (hs : Step c c') (h : c'.queue.stopped = false) : c.queue.stopped = false := by
  cases hs with
  | trigger => exact h
  | wake k => exact WorkQueue.stopped_wake.symm.trans h
  | take _ hp => exact (WorkQueue.sameRetries_claim.stopped.trans hp.stopped).symm.trans h
  | begin => exact h
  | finish failed => exact (WorkQueue.stopped_finish _ _ failed).symm.trans h
  | stop => cases h

theorem chained_step (hs : Step c c') (hgo : c'.queue.stopped = false) (h : c.queue.Chained) :
    c'.queue.Chained := by
  have hc := stopped_step hs hgo
  cases hs with
  | trigger => exact h
  | wake k => exact h.wake k
  | take _ hp => exact WorkQueue.sameRetries_claim.chained (h.pops hp)
  | begin => exact h
  | finish failed => exact h.finish hc _ failed
  | stop => cases hgo

theorem Reaches.chained (h : Reaches c) (hgo : c.queue.stopped = false) : c.queue.Chained := by
  obtain ⟨limit, h⟩ := h
  induction h with
  | refl => exact fun k => rfl
  | tail _ hs ih => exact chained_step hs hgo (ih (stopped_step hs hgo))

end Course

end TenantCloud
