import TenantCloud.Proofs.WorkQueue.Retries

/-!
# Passes that fail

A `Trial` is a course together with the keys whose last pass failed, and every course is that of a
trial (`Trial.exists_of_course`). Such a key always has something to come: a retry on its way, or a
pass that runs (`Trial.Reaches.owed`).
-/

set_option autoImplicit false

namespace TenantCloud

/-- A course, and the keys whose last pass that ended failed. -/
structure Trial (κ : Type) where
  course : Course κ
  failed : List κ := []

/-- A retry of the key is on its way, or the key is in flight. -/
def WorkQueue.Owed {κ : Type} [DecidableEq κ] (q : WorkQueue κ) (k : κ) : Prop :=
  k ∈ q.retryPending ∨ q.isClaimed k = true

namespace Trial

variable {κ : Type} [DecidableEq κ]

/-- A pass ends, and its outcome is noted. -/
def finish (t : Trial κ) (k : κ) (failed : Bool) : Trial κ where
  course := t.course.finish k failed
  failed := if failed then k :: t.failed else t.failed.filter (· ≠ k)

/-- A step of the course in which no pass ends, or the end of a pass. -/
inductive Step : Trial κ → Trial κ → Prop
  | go {t : Trial κ} {c : Course κ} : Course.Step t.course c →
      (∀ k, c.history ≠ (k, .ended) :: t.course.history) → Step t { t with course := c }
  | finish {t : Trial κ} {k : κ} (failed : Bool) :
      k ∈ t.course.queue.running → k ∉ t.course.starting → Step t (t.finish k failed)

/-- What can come of an empty queue. -/
def Reaches (t : Trial κ) : Prop :=
  ∃ limit, Relation.ReflTransGen Step { course := { queue := { limit } } } t

variable {t t' : Trial κ} {k : κ}

theorem Step.course (hs : Step t t') : Course.Step t.course t'.course := by
  cases hs with
  | go hs _ => exact hs
  | finish failed hk hn => exact .finish failed hk hn

theorem Reaches.course (h : Reaches t) : t.course.Reaches := by
  obtain ⟨limit, h⟩ := h
  exact ⟨limit, h.lift Trial.course fun _ _ => Step.course⟩

/-- Whatever a course does, a trial can note. -/
theorem Step.of_course {c : Course κ} (hs : Course.Step t.course c) :
    ∃ failed, Step t { course := c, failed } := by
  by_cases hend : ∃ k, c.history = (k, .ended) :: t.course.history
  · cases hs with
    | finish failed hk hn => exact ⟨_, .finish failed hk hn⟩
    | take => obtain ⟨k, hk⟩ := hend; cases hk
    | begin => obtain ⟨k, hk⟩ := hend; cases hk
    | _ => obtain ⟨k, hk⟩ := hend; simp at hk
  · exact ⟨_, .go hs fun k hk => hend ⟨k, hk⟩⟩

theorem exists_of_course {c : Course κ} (h : c.Reaches) :
    ∃ t : Trial κ, t.Reaches ∧ t.course = c := by
  obtain ⟨limit, h⟩ := h
  induction h with
  | refl => exact ⟨_, ⟨limit, .refl⟩, rfl⟩
  | tail _ hs ih =>
    obtain ⟨t, ⟨limit', ht⟩, rfl⟩ := ih
    obtain ⟨failed, hs⟩ := Step.of_course hs
    exact ⟨_, ⟨limit', ht.tail hs⟩, rfl⟩

/-- A step that does not end the pass of the key leaves it owed what it was. -/
theorem owed_step {c c' : Course κ} (hs : Course.Step c c') (hk : c.queue.Owed k)
    (hend : ∀ failed, c' ≠ c.finish k failed) : c'.queue.Owed k := by
  cases hs with
  | trigger => exact hk
  | wake k' =>
    have hsame : c.queue.SameWork (c.queue.wake k') := WorkQueue.sameWork_wake
    refine hk.imp (fun h => ?_) fun h => (hsame.isClaimed k).trans h
    show k ∈ (c.queue.wake k').retryPending
    unfold WorkQueue.wake
    split <;> exact h
  | @take k' q _ hp =>
    by_cases he : k = k'
    · exact .inr ((Course.isClaimed_take hp.sameWork).2 (.inl he))
    · refine hk.imp (fun h => ?_) fun h => (Course.isClaimed_take hp.sameWork).2 (.inr h)
      show k ∈ (q.claim k').2.retryPending
      rw [WorkQueue.sameRetries_claim.pending]
      cases hp with
      | trigger => exact h
      | retry => exact List.mem_filter.2 ⟨h, decide_eq_true he⟩
  | begin => exact hk
  | @finish k' failed _ _ =>
    have he : k ≠ k' := fun he => hend failed (he ▸ rfl)
    refine hk.imp (fun h => ?_) fun h => WorkQueue.isClaimed_finish.2 ⟨h, fun hk => absurd hk he⟩
    show k ∈ (c.queue.finish k' failed).2.retryPending
    rw [(WorkQueue.sameRetries_finish c.queue k' failed).pending]
    cases failed with
    | false => exact h
    | true =>
      show k ∈ (c.queue.retry k').2.retryPending
      unfold WorkQueue.retry
      split
      · exact h
      · split <;> exact List.mem_cons_of_mem _ h
  | stop => exact hk

theorem owed_finish (c : Course κ) (k : κ) : (c.finish k true).queue.Owed k := by
  refine .inl ?_
  show k ∈ (c.queue.finish k true).2.retryPending
  rw [(WorkQueue.sameRetries_finish c.queue k true).pending]
  exact WorkQueue.mem_retryPending_retry

theorem Step.owed (hs : Step t t') (h : ∀ k ∈ t.failed, t.course.queue.Owed k) :
    ∀ k ∈ t'.failed, t'.course.queue.Owed k := by
  intro k hk
  cases hs with
  | go hs hend =>
    refine owed_step hs (h k hk) ?_
    rintro failed rfl
    exact hend k rfl
  | @finish k' failed hrun hstart =>
    by_cases he : k = k'
    · subst he
      cases failed with
      | true => exact owed_finish _ _
      | false => simp [Trial.finish] at hk
    · have hbefore : k ∈ t.failed := by
        cases failed <;> simpa [Trial.finish, he] using hk
      refine owed_step (.finish failed hrun hstart) (h k hbefore) fun failed' heq => he ?_
      have hhist : (k', Act.ended) :: t.course.history = (k, .ended) :: t.course.history :=
        congrArg Course.history heq
      simp only [List.cons.injEq, Prod.mk.injEq, and_true] at hhist
      exact hhist.symm

/-- A key whose last pass failed is owed another one. -/
theorem Reaches.owed (h : Reaches t) : ∀ k ∈ t.failed, t.course.queue.Owed k := by
  obtain ⟨limit, h⟩ := h
  induction h with
  | refl => exact fun k hk => absurd hk List.not_mem_nil
  | tail _ hs ih => exact hs.owed ih

end Trial

end TenantCloud
