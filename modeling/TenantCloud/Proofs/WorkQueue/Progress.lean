import TenantCloud.Proofs.WorkQueue.Failures

/-!
# Passes after failures

The retry of a pass that failed comes, as long as the queue is not stopped and its surroundings are
fair (`Trial.Fair`): delays and passes come to an end, and a message does not wait for ever while
there is room again and again. Room there is again and again, because each end of a pass lightens a
full queue (`Course.load_step`, `Trial.Fair.room`). With the accounting of retries this is
`Trial.one_retry_chain`.
-/

set_option autoImplicit false

namespace TenantCloud

/-! ## Full queues -/

namespace WorkQueue

variable {κ : Type} [DecidableEq κ] {q q' : WorkQueue κ} {k : κ}

/-- How many passes run and how many are owed. -/
def load (q : WorkQueue κ) : Nat := q.running.length + (q.running.filter q.owes).length

theorem SameWork.load (h : q.SameWork q') : q'.load = q.load := by
  have howes : q'.owes = q.owes := funext h.owes
  unfold WorkQueue.load
  rw [h.2, howes]

/-- The end of a pass takes it away from those that run, or the owed one from those that are. -/
theorem load_finish (failed : Bool) (hk : k ∈ q.running) : (q.finish k failed).2.load +
    (if q.owes k then q.running.count k else 1) = q.load := by
  have howes : (q.finish k failed).2.owes = fun k' => q.owes k' && !k' == k := by
    funext k'
    rw [Bool.eq_iff_iff, owes_finish]
    simp
  unfold load
  simp only [← List.countP_eq_length_filter]
  rw [howes, running_finish]
  cases ho : q.owes k with
  | true =>
    have hsplit := List.countP_eq_countP_filter_add q.running q.owes (· == k)
    have hself : (q.running.filter (· == k)).countP q.owes = q.running.count k := by
      rw [List.countP_filter]
      refine List.countP_congr fun k' _ => ?_
      by_cases he : k' = k <;> simp [he, ho]
    rw [hself, List.countP_filter] at hsplit
    rw [if_pos rfl, if_pos rfl]
    omega
  | false =>
    have herase := (List.perm_cons_erase hk).countP_eq q.owes
    have hothers : (q.running.erase k).countP (fun k' => q.owes k' && !k' == k) =
        (q.running.erase k).countP q.owes := by
      refine List.countP_congr fun k' _ => ?_
      by_cases he : k' = k <;> simp [he, ho]
    have hpos := List.length_pos_of_mem hk
    rw [List.countP_cons_of_neg (by simp [ho])] at herase
    rw [if_neg Bool.false_ne_true, if_neg Bool.false_ne_true, List.length_erase_of_mem hk, hothers,
      herase]
    omega

theorem load_finish_lt {failed : Bool} (hk : k ∈ q.running) :
    (q.finish k failed).2.load < q.load := by
  have hload := load_finish failed hk
  have hpos := List.count_pos_iff.2 hk
  split at hload <;> omega

omit [DecidableEq κ] in
/-- Where there is no room, passes run. -/
theorem exists_running (hgo : q.stopped = false) (h : q.hasRoom = false) : ∃ k, k ∈ q.running := by
  refine List.exists_mem_of_length_pos ?_
  simp only [hasRoom, hgo, Bool.not_false, Bool.true_and, decide_eq_false_iff_not] at h
  omega

end WorkQueue

namespace Course

variable {κ : Type} [DecidableEq κ] {c c' : Course κ} {k k' : κ}

/-- The passes of a key that began. -/
def begun (c : Course κ) (k : κ) : Nat := (c.acts k).count .began

/-- The passes of a key that ended. -/
def ended (c : Course κ) (k : κ) : Nat := (c.acts k).count .ended

theorem Reaches.begun (h : Reaches c) (k : κ) : c.begun k = c.ended k + (c.phase k).runs :=
  (h.sound.path k).count_began

theorem ended_of_history {a : Act} (h : c'.history = (k', a) :: c.history) :
    c'.ended k = c.ended k + if k' = k ∧ a = .ended then 1 else 0 := by
  unfold ended acts
  rw [h]
  by_cases he : k' = k
  · subst he
    by_cases ha : a = .ended <;> simp [ha]
  · simp [he]

/-- While there is no room, the load falls with each end of a pass. -/
theorem load_step (hs : Step c c') (hfull : c.queue.hasRoom = false) :
    c'.queue.load + c'.ended k ≤ c.queue.load + c.ended k := by
  cases hs with
  | trigger => exact Nat.le_refl _
  | wake k' =>
    have hload : (c.queue.wake k').load = c.queue.load := WorkQueue.sameWork_wake.load
    exact Nat.add_le_add_right (Nat.le_of_eq hload) _
  | take hroom =>
    rw [hfull] at hroom
    cases hroom
  | @begin k' =>
    have hend : (c.begin k').ended k = c.ended k + _ := ended_of_history rfl
    rw [if_neg fun h => nomatch h.2] at hend
    rw [hend]
    exact Nat.le_refl _
  | @finish k' failed hk =>
    have hend : (c.finish k' failed).ended k = c.ended k + _ := ended_of_history rfl
    have hload : (c.finish k' failed).queue.load < c.queue.load := WorkQueue.load_finish_lt hk
    split at hend <;> omega
  | stop => exact Nat.le_refl _

end Course

namespace Trial

variable {κ : Type} [DecidableEq κ] {t t' : Trial κ} {k : κ}

/-! ## While no pass of a key ends -/

/-- What a step that ends no pass of a key leaves to it. -/
structure Quiet (k : κ) (t t' : Trial κ) : Prop where
  sleeping : t'.course.queue.sleeping.count k ≤ t.course.queue.sleeping.count k
  failed : k ∈ t.failed → k ∈ t'.failed

theorem Quiet.refl (k : κ) (t : Trial κ) : Quiet k t t := ⟨Nat.le_refl _, id⟩

theorem Quiet.trans {t'' : Trial κ} (h : Quiet k t t') (h' : Quiet k t' t'') : Quiet k t t'' :=
  ⟨Nat.le_trans h'.sleeping h.sleeping, h'.failed ∘ h.failed⟩

theorem quiet_go {c : Course κ} (hs : Course.Step t.course c)
    (hend : ∀ k, c.history ≠ (k, .ended) :: t.course.history) :
    Quiet k t { t with course := c } := by
  refine ⟨?_, id⟩
  cases hs with
  | wake k' =>
    show (t.course.queue.wake k').sleeping.count k ≤ _
    unfold WorkQueue.wake
    split
    · exact List.erase_sublist.count_le k
    · exact Nat.le_refl _
  | take _ hp =>
    show (WorkQueue.claim _ _).2.sleeping.count k ≤ _
    rw [WorkQueue.sameRetries_claim.sleeping]
    cases hp <;> exact Nat.le_refl _
  | finish => exact absurd rfl (hend _)
  | stop => exact Nat.zero_le _
  | _ => exact Nat.le_refl _

theorem quiet_finish {k' : κ} {failed : Bool} (he : k ≠ k') : Quiet k t (t.finish k' failed) := by
  refine ⟨?_, fun hk => ?_⟩
  · show (t.course.queue.finish k' failed).2.sleeping.count k ≤ _
    rw [(WorkQueue.sameRetries_finish t.course.queue k' failed).sleeping]
    cases failed with
    | false => exact Nat.le_refl _
    | true =>
      show (t.course.queue.retry k').2.sleeping.count k ≤ _
      unfold WorkQueue.retry
      split
      · exact Nat.le_refl _
      · split
        · exact Nat.le_refl _
        · simp [List.count_append, Ne.symm he]
  · cases failed <;> simpa [Trial.finish, he] using hk

/-- A step ends a pass of the key, or is quiet for it. -/
theorem Step.quiet (hs : Step t t') (k : κ) : t.course.ended k < t'.course.ended k ∨
    t'.course.ended k = t.course.ended k ∧ Quiet k t t' := by
  cases hs with
  | @go c hs hend =>
    refine .inr ⟨?_, quiet_go hs hend⟩
    have hother : ∀ k' a, c.history = (k', a) :: t.course.history →
        c.ended k = t.course.ended k := by
      intro k' a h
      have hno : ¬(k' = k ∧ a = .ended) := fun hx => hend k' (hx.2 ▸ h)
      rw [Course.ended_of_history h, if_neg hno]
      rfl
    cases hs with
    | take => exact hother _ _ rfl
    | begin => exact hother _ _ rfl
    | finish => exact hother _ _ rfl
    | _ => rfl
  | @finish k' failed =>
    have hcount : (t.finish k' failed).course.ended k = t.course.ended k + _ :=
      Course.ended_of_history rfl
    by_cases he : k = k'
    · rw [if_pos ⟨he.symm, rfl⟩] at hcount
      exact .inl (by omega)
    · rw [if_neg fun h => he h.1.symm] at hcount
      exact .inr ⟨hcount, quiet_finish he⟩

/-! ## Fair surroundings -/

/-- What the surroundings of a queue do: no delay of the key lasts for ever, every pass comes to its
end, and a retry of the key that is due is taken if there is room again and again. -/
structure Fair (k : κ) (run : Nat → Trial κ) : Prop where
  step : ∀ n, run (n + 1) = run n ∨ Step (run n) (run (n + 1))
  wakes : ∀ n, ∃ m, n ≤ m ∧ k ∉ (run m).course.queue.sleeping
  ends : ∀ n, ∀ k' ∈ (run n).course.queue.running,
    ∃ m, n ≤ m ∧ (run n).course.ended k' < (run m).course.ended k'
  takes : (∀ n, ∃ m, n ≤ m ∧ (run m).course.queue.hasRoom = true) →
    ∀ n, ∃ m, n ≤ m ∧ k ∉ (run m).course.queue.dueRetries

variable {run : Nat → Trial κ}

theorem Fair.reaches (hf : Fair k run) (h : (run 0).Reaches) (n : Nat) : (run n).Reaches := by
  induction n with
  | zero => exact h
  | succ n ih =>
    rcases hf.step n with hsame | hs
    · rw [hsame]
      exact ih
    · obtain ⟨limit, ih⟩ := ih
      exact ⟨limit, ih.tail hs⟩

/-- Between two moments a pass of the key ends, or all is quiet for it. -/
theorem Fair.quiet (hf : Fair k run) {n m : Nat} (hnm : n ≤ m) :
    (run n).course.ended k < (run m).course.ended k ∨
      (run m).course.ended k = (run n).course.ended k ∧ Quiet k (run n) (run m) := by
  obtain ⟨d, rfl⟩ := Nat.exists_eq_add_of_le hnm
  clear hnm
  induction d with
  | zero => exact .inr ⟨rfl, .refl k _⟩
  | succ d ih =>
    rw [← Nat.add_assoc]
    rcases hf.step (n + d) with hsame | hs
    · rw [hsame]
      exact ih
    · rcases hs.quiet k with hlt | ⟨heq, hq⟩
      · exact .inl (by rcases ih with ih | ih <;> omega)
      · rcases ih with ih | ⟨ih, hq'⟩
        · exact .inl (by omega)
        · exact .inr ⟨heq.trans ih, hq'.trans hq⟩

theorem Fair.load (hf : Fair k run) {n : Nat}
    (hfull : ∀ m, n ≤ m → (run m).course.queue.hasRoom = false) (k' : κ) (d : Nat) :
    (run (n + d)).course.queue.load + (run (n + d)).course.ended k' ≤
      (run n).course.queue.load + (run n).course.ended k' := by
  induction d with
  | zero => exact Nat.le_refl _
  | succ d ih =>
    rw [← Nat.add_assoc]
    rcases hf.step (n + d) with hsame | hs
    · rw [hsame]
      exact ih
    · exact Nat.le_trans (Course.load_step hs.course (hfull _ (Nat.le_add_right n d))) ih

/-- There is room again and again. -/
theorem Fair.room (hf : Fair k run) (hgo : ∀ n, (run n).course.queue.stopped = false) (n : Nat) :
    ∃ m, n ≤ m ∧ (run m).course.queue.hasRoom = true := by
  by_contra hnone
  have hfull : ∀ m, n ≤ m → (run m).course.queue.hasRoom = false := fun m hnm =>
    Bool.eq_false_iff.2 fun hroom => hnone ⟨m, hnm, hroom⟩
  have hfalls : ∀ m, n ≤ m → ∃ m', n ≤ m' ∧
      (run m').course.queue.load < (run m).course.queue.load := by
    intro m hnm
    obtain ⟨k', hk'⟩ := WorkQueue.exists_running (hgo m) (hfull m hnm)
    obtain ⟨m', hmm', hend⟩ := hf.ends m k' hk'
    obtain ⟨d, rfl⟩ := Nat.exists_eq_add_of_le hmm'
    have hload := hf.load (fun m' h => hfull m' (Nat.le_trans hnm h)) k' d
    exact ⟨m + d, Nat.le_trans hnm hmm', by omega⟩
  -- A load that falls for ever is no number.
  have hnever : ∀ load m, n ≤ m → (run m).course.queue.load ≠ load := by
    intro load
    induction load using Nat.strongRecOn with
    | ind load ih =>
      intro m hnm hm
      obtain ⟨m', hnm', hlt⟩ := hfalls m hnm
      exact ih _ (hm ▸ hlt) m' hnm' rfl
  exact hnever _ n (Nat.le_refl n) rfl

/-! ## The pass after a failure -/

/-- A pass that failed is followed by another one, as long as the queue is not stopped. -/
theorem begins_after_failure (h : (run 0).Reaches) (hf : Fair k run)
    (hgo : ∀ n, (run n).course.queue.stopped = false) (hk : k ∈ (run 0).failed) :
    ∃ n, (run 0).course.ended k < (run n).course.begun k := by
  by_contra hnone
  simp only [not_exists, Nat.not_lt] at hnone
  -- No pass begins, so none ends.
  have hstill : ∀ n, (run n).course.ended k = (run 0).course.ended k := by
    intro n
    have hbegun := (hf.reaches h n).course.begun k
    have hle := hnone n
    have hmono := hf.quiet (Nat.zero_le n)
    omega
  have hquiet : ∀ n m, n ≤ m → Quiet k (run n) (run m) := by
    intro n m hnm
    have hn := hstill n
    have hm := hstill m
    rcases hf.quiet hnm with hlt | hq
    · omega
    · exact hq.2
  -- The key is never in flight, as its pass would end.
  have hfree : ∀ n, ¬ (run n).course.queue.isClaimed k = true := by
    intro n hc
    obtain ⟨m, -, hlt⟩ := hf.ends n k (((hf.reaches h n).course.sound.running k).2 hc)
    have hn := hstill n
    have hm := hstill m
    omega
  -- So a retry is on its way all the time, first as a delay and then as a message.
  have hretry : ∀ n, (run n).course.queue.retries k = 1 := by
    intro n
    have howed := (hf.reaches h n).owed k ((hquiet 0 n (Nat.zero_le n)).failed hk)
    rw [(hf.reaches h n).course.chained (hgo n) k, if_pos (howed.resolve_right (hfree n))]
  obtain ⟨n, -, hn⟩ := hf.wakes 0
  obtain ⟨m, hnm, hm⟩ := hf.takes (hf.room hgo) n
  have hsleep := (hquiet n m hnm).sleeping
  have hm' := hretry m
  rw [WorkQueue.retries, List.count_eq_zero.2 hm] at hm'
  rw [List.count_eq_zero.2 hn] at hsleep
  omega

/-- **One retry chain per key, and no retry is lost.** Until the queue is stopped, the delays of a
key that run and its messages that wait are one if a retry of it is pending and none otherwise. A
key whose last pass failed has a retry pending or is in flight with its pass. In fair surroundings
each failed pass is followed by another one, unless the queue is stopped. -/
theorem one_retry_chain (h : Reaches t) (hgo : t.course.queue.stopped = false) (k : κ) :
    t.course.queue.sleeping.count k + t.course.queue.dueRetries.count k =
        (if k ∈ t.course.queue.retryPending then 1 else 0) ∧
      (k ∈ t.failed → k ∈ t.course.queue.retryPending ∨
        t.course.queue.isClaimed k = true ∧ k ∈ t.course.queue.running) ∧
      ∀ run : Nat → Trial κ, run 0 = t → Fair k run → k ∈ t.failed →
        ∃ n, (run n).course.queue.stopped = true ∨ t.course.ended k < (run n).course.begun k := by
  refine ⟨h.course.chained hgo k, fun hk => ?_, fun run h0 hf hk => ?_⟩
  · refine (h.owed k hk).imp_right fun hc => ⟨hc, ?_⟩
    exact (h.course.sound.running k).2 hc
  · subst h0
    by_cases hstop : ∃ n, (run n).course.queue.stopped = true
    · obtain ⟨n, hn⟩ := hstop
      exact ⟨n, .inl hn⟩
    · have hgo' : ∀ n, (run n).course.queue.stopped = false := fun n =>
        Bool.eq_false_iff.2 fun hn => hstop ⟨n, hn⟩
      obtain ⟨n, hn⟩ := begins_after_failure h hf hgo' hk
      exact ⟨n, .inr hn⟩

/-- The first pass of a key failed. -/
def setback : Trial Nat :=
  let c : Course Nat := { queue := { limit := 1, triggers := [7] } }
  { course := (c.take 7 { c.queue with triggers := [] }).begin 7 : Trial Nat }.finish 7 true

theorem reaches_setback : Reaches setback := by
  refine ⟨1, .head (.go (.trigger 7) (by simp)) (.head (.go (.take rfl (.trigger rfl)) ?_) ?_)⟩
  · exact fun k hk => nomatch hk
  · refine .head (.go (.begin (k := 7) (by decide)) fun k hk => nomatch hk) ?_
    exact .head (.finish (k := 7) true (by decide) (by decide)) .refl

/-- The delay ends, the retry is taken, and its pass goes well. -/
def recovery (n : Nat) : Trial Nat :=
  let awake := { setback with course.queue := setback.course.queue.wake 7 }
  let rest := { awake.course.queue with dueRetries := [], retryPending := [] }
  let taken := { awake with course := awake.course.take 7 rest }
  let running := { taken with course := taken.course.begin 7 }
  match n with
  | 0 => setback
  | 1 => awake
  | 2 => taken
  | 3 => running
  | _ => running.finish 7 false

theorem fair_recovery : Fair 7 recovery := by
  refine ⟨fun n => ?_, fun n => ⟨n + 4, Nat.le_add_right n 4, List.not_mem_nil⟩, fun n k' hk' => ?_,
    fun _ n => ⟨n + 4, Nat.le_add_right n 4, List.not_mem_nil⟩⟩
  · match n with
    | 0 => exact .inr (.go (.wake 7) fun k hk => List.cons_ne_self _ _ hk.symm)
    | 1 => exact .inr (.go (.take rfl (.retry rfl)) fun k hk => nomatch hk)
    | 2 => exact .inr (.go (.begin (k := 7) (by decide)) fun k hk => nomatch hk)
    | 3 => exact .inr (.finish (k := 7) false (by decide) (by decide))
    | n + 4 => exact .inl rfl
  · match n with
    | 0 => exact absurd hk' List.not_mem_nil
    | 1 => exact absurd hk' List.not_mem_nil
    | 2 =>
      obtain rfl := List.mem_singleton.1 hk'
      exact ⟨4, by decide, by decide⟩
    | 3 =>
      obtain rfl := List.mem_singleton.1 hk'
      exact ⟨4, by decide, by decide⟩
    | n + 4 => exact absurd hk' List.not_mem_nil

/-- The retry after a failed pass is one, and in fair surroundings it leads to a second pass. -/
theorem setback_is_retried :
    Reaches setback ∧ setback.course.queue.stopped = false ∧ 7 ∈ setback.failed ∧
    (setback.course.queue.sleeping.count 7 + setback.course.queue.dueRetries.count 7 = 1 ∧
      7 ∈ setback.course.queue.retryPending) ∧
    recovery 0 = setback ∧ Fair 7 recovery ∧
    ∃ n, (recovery n).course.queue.stopped = true ∨ 1 < (recovery n).course.begun 7 := by
  have hfailed : 7 ∈ setback.failed := by decide
  obtain ⟨hchain, -, hfollowed⟩ := one_retry_chain reaches_setback rfl 7
  exact ⟨reaches_setback, rfl, hfailed, ⟨hchain, by decide⟩, rfl, fair_recovery,
    hfollowed recovery rfl fair_recovery hfailed⟩

end Trial

end TenantCloud
