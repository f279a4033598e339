import TenantCloud.WorkQueue.Basic

/-!
# Claims of a queue

What taking a request and ending a pass do to claims, key by key: `WorkQueue.isClaimed_claim`,
`WorkQueue.owes_claim`, `WorkQueue.isClaimed_finish`, `WorkQueue.owes_finish`. Everything else that
happens to a queue leaves its claims and its passes as they are (`WorkQueue.SameWork`).
-/

set_option autoImplicit false

namespace TenantCloud

namespace WorkQueue

variable {κ : Type} [DecidableEq κ] {q : WorkQueue κ} {k k' : κ}

theorem isClaimed_iff : q.isClaimed k = true ↔ ∃ owed, (k, owed) ∈ q.inFlight := by
  simp [isClaimed]

theorem owes_iff : q.owes k = true ↔ (k, true) ∈ q.inFlight := by
  simp [owes]

theorem isClaimed_of_owes (h : q.owes k = true) : q.isClaimed k = true :=
  isClaimed_iff.2 ⟨true, owes_iff.1 h⟩

/-- Keys in flight after the mark of one of them is set. -/
theorem mem_map_mark {l : List (κ × Bool)} {b owed : Bool} :
    (k', owed) ∈ l.map (fun e => if e.1 = k then (k, b) else e) ↔
      if k' = k then owed = b ∧ ∃ o, (k, o) ∈ l else (k', owed) ∈ l := by
  rw [List.mem_map]
  constructor
  · rintro ⟨⟨x, o⟩, he, heq⟩
    by_cases hx : x = k
    · subst hx
      simp only [if_true, Prod.mk.injEq] at heq
      obtain ⟨rfl, rfl⟩ := heq
      rw [if_pos rfl]
      exact ⟨rfl, o, he⟩
    · simp only [hx, if_false, Prod.mk.injEq] at heq
      obtain ⟨rfl, rfl⟩ := heq
      rw [if_neg hx]
      exact he
  · split
    · rename_i hk
      rintro ⟨rfl, o, ho⟩
      exact ⟨(k, o), ho, by simp [hk]⟩
    · rename_i hk
      exact fun h => ⟨(k', owed), h, by simp [hk]⟩

theorem isClaimed_claim : (q.claim k).2.isClaimed k' = true ↔ k' = k ∨ q.isClaimed k' = true := by
  unfold claim
  split
  · rename_i hk
    rw [isClaimed_iff, isClaimed_iff]
    rw [isClaimed_iff] at hk
    simp only [mem_map_mark]
    by_cases h : k' = k
    · simpa [h] using hk
    · simp [h]
  · rw [isClaimed_iff, isClaimed_iff]
    by_cases h : k' = k
    · simp [h]
    · simp [h]

theorem owes_claim : (q.claim k).2.owes k' = true ↔
    if k' = k then q.isClaimed k = true else q.owes k' = true := by
  unfold claim
  split
  · rename_i hk
    rw [owes_iff, owes_iff]
    simp only [mem_map_mark]
    by_cases h : k' = k
    · simpa [h, hk] using isClaimed_iff.1 hk
    · simp [h]
  · rename_i hk
    rw [owes_iff, owes_iff]
    by_cases h : k' = k
    · subst h
      simpa [hk] using fun hm => hk (isClaimed_iff.2 ⟨true, hm⟩)
    · simp [h]

theorem isClaimed_release : (q.release k).2.isClaimed k' = true ↔
    q.isClaimed k' = true ∧ (k' = k → q.owes k = true) := by
  unfold release
  split
  · rename_i hk
    rw [isClaimed_iff, isClaimed_iff]
    simp only [mem_map_mark]
    by_cases h : k' = k
    · simp [h, hk]
    · simp [h]
  · rename_i hk
    rw [isClaimed_iff, isClaimed_iff]
    by_cases h : k' = k
    · simp [h, hk]
    · simp [h]

theorem owes_release : (q.release k).2.owes k' = true ↔ q.owes k' = true ∧ k' ≠ k := by
  unfold release
  split
  · rw [owes_iff, owes_iff]
    simp only [mem_map_mark]
    by_cases h : k' = k
    · simp [h]
    · simp [h]
  · rw [owes_iff, owes_iff]
    simp

/-! ## Requests and ends of passes -/

/-- A request that can be taken next, of either kind, and the queue without it: a retry is pending
no more. -/
inductive Pops (q : WorkQueue κ) : κ → WorkQueue κ → Prop
  | trigger {k : κ} {rest : List κ} : q.triggers = k :: rest → Pops q k { q with triggers := rest }
  | retry {k : κ} {rest : List κ} : q.dueRetries = k :: rest →
      Pops q k { q with dueRetries := rest, retryPending := q.retryPending.filter (· ≠ k) }

theorem pops_of_pop? {q' : WorkQueue κ} {source : Source} (h : q.pop? source = some (k, q')) :
    q.Pops k q' := by
  unfold pop? at h
  cases source with
  | triggers =>
    dsimp only at h
    split at h
    · cases h
    · rename_i ht
      cases h
      exact .trigger ht
  | retries =>
    dsimp only at h
    split at h
    · cases h
    · rename_i hr
      cases h
      exact .retry hr

/-- Whichever source is asked first, what comes next can be taken. -/
theorem pops_of_next? {q' : WorkQueue κ} {first : Source} (h : q.next? first = some (k, q')) :
    q.Pops k q' := by
  unfold next? at h
  cases hfirst : q.pop? first with
  | some next =>
    rw [hfirst] at h
    exact pops_of_pop? (hfirst.trans h)
  | none =>
    rw [hfirst] at h
    exact pops_of_pop? h

/-- Two queues have the same claims and passes. -/
def SameWork (q q' : WorkQueue κ) : Prop := q'.inFlight = q.inFlight ∧ q'.running = q.running

theorem SameWork.isClaimed {q' : WorkQueue κ} (h : q.SameWork q') (k : κ) :
    q'.isClaimed k = q.isClaimed k := by
  rw [WorkQueue.isClaimed, h.1]
  rfl

theorem SameWork.owes {q' : WorkQueue κ} (h : q.SameWork q') (k : κ) : q'.owes k = q.owes k := by
  rw [WorkQueue.owes, h.1]
  rfl

theorem Pops.sameWork {q' : WorkQueue κ} (h : q.Pops k q') : q.SameWork q' := by
  cases h <;> exact ⟨rfl, rfl⟩

theorem sameWork_wake : q.SameWork (q.wake k) := by
  unfold wake
  split <;> exact ⟨rfl, rfl⟩

theorem sameWork_retry : q.SameWork (q.retry k).2 := by
  unfold retry
  split
  · exact ⟨rfl, rfl⟩
  · split <;> exact ⟨rfl, rfl⟩

/-- The end of a pass releases its key, with the same claims as before. -/
theorem finish_eq (q : WorkQueue κ) (k : κ) (failed : Bool) : ∃ q', q.SameWork q' ∧
    (q.finish k failed).1.reruns = (q'.release k).1 ∧ (q.finish k failed).2 = (q'.release k).2 := by
  cases failed with
  | true => exact ⟨(q.retry k).2, sameWork_retry, rfl, rfl⟩
  | false => exact ⟨q, ⟨rfl, rfl⟩, rfl, rfl⟩

theorem reruns_finish {failed : Bool} : (q.finish k failed).1.reruns = q.owes k := by
  obtain ⟨q', hs, hr, -⟩ := q.finish_eq k failed
  rw [hr, ← hs.owes k]
  unfold release
  cases q'.owes k <;> rfl

theorem isClaimed_finish {failed : Bool} : (q.finish k failed).2.isClaimed k' = true ↔
    q.isClaimed k' = true ∧ (k' = k → q.owes k = true) := by
  obtain ⟨q', hs, -, hq⟩ := q.finish_eq k failed
  rw [hq, isClaimed_release, hs.isClaimed, hs.owes]

theorem owes_finish {failed : Bool} :
    (q.finish k failed).2.owes k' = true ↔ q.owes k' = true ∧ k' ≠ k := by
  obtain ⟨q', hs, -, hq⟩ := q.finish_eq k failed
  rw [hq, owes_release, hs.owes]

theorem running_finish {failed : Bool} : (q.finish k failed).2.running =
    if q.owes k then q.running else q.running.erase k := by
  obtain ⟨q', hs, -, hq⟩ := q.finish_eq k failed
  rw [hq, ← hs.owes k, ← hs.2]
  unfold release
  cases q'.owes k <;> rfl

theorem running_claim : (q.claim k).2.running =
    if q.isClaimed k then q.running else q.running ++ [k] := by
  unfold claim
  cases q.isClaimed k <;> rfl

theorem starts_claim : (q.claim k).1 = !q.isClaimed k := by
  unfold claim
  cases q.isClaimed k <;> rfl

end WorkQueue

end TenantCloud
