import TenantCloud.Proofs.WorkQueue.Events
import TenantCloud.Proofs.WorkQueue.Progress

/-!
# Draining a loop

After its stop a loop takes no request any more (`Worker.queue_react_closed`), so nothing can flag
another pass, and each end of a pass takes one away from those that run or are owed
(`Worker.load_follow`). What a loop does from its stop on follows (`Worker.Drains`), whenever the
stop comes (`Worker.cancellation_drains`).
-/

set_option autoImplicit false

namespace TenantCloud

namespace WorkQueue

variable {κ : Type} {q : WorkQueue κ} {k : κ}

/-- Nothing is taken, and no delay of a retry runs. -/
structure Closed (q : WorkQueue κ) : Prop where
  stopped : q.stopped = true
  sleeping : q.sleeping = []

theorem closed_stop : q.stop.Closed := ⟨rfl, rfl⟩

theorem isDrained_iff : q.isDrained = true ↔ q.stopped = true ∧ q.running = [] := by
  simp [isDrained]

theorem Closed.stop (h : q.Closed) : q.stop = q := by
  obtain ⟨hstopped, hsleeping⟩ := h
  cases q
  cases hstopped
  cases hsleeping
  rfl

variable [DecidableEq κ]

theorem take?_stopped (h : q.stopped = true) (first : Source) : q.take? first = none := by
  have hroom : q.hasRoom = false := by simp [hasRoom, h]
  unfold take?
  rw [hroom]
  rfl

theorem Closed.wake (h : q.Closed) : q.wake k = q := by
  unfold WorkQueue.wake
  rw [if_neg (by simp [h.sleeping])]

/-- The end of a pass leaves requests alone, and a closed queue starts no delay for its retry. -/
theorem Closed.finish (h : q.Closed) {failed : Bool} : (q.finish k failed).2.Closed ∧
    (q.finish k failed).2.triggers = q.triggers ∧
      (q.finish k failed).2.dueRetries = q.dueRetries := by
  have hrelease : ∀ q : WorkQueue κ, (q.release k).2.Closed = q.Closed ∧
      (q.release k).2.triggers = q.triggers ∧ (q.release k).2.dueRetries = q.dueRetries := by
    intro q
    unfold release
    split <;> exact ⟨propext ⟨fun h => ⟨h.1, h.2⟩, fun h => ⟨h.1, h.2⟩⟩, rfl, rfl⟩
  have hretry : (q.retry k).2.Closed ∧ (q.retry k).2.triggers = q.triggers ∧
      (q.retry k).2.dueRetries = q.dueRetries := by
    unfold retry
    split
    · exact ⟨h, rfl, rfl⟩
    · rw [if_pos h.stopped]
      exact ⟨⟨h.stopped, h.sleeping⟩, rfl, rfl⟩
  cases failed with
  | false =>
    obtain ⟨hclosed, hsame⟩ := hrelease q
    exact ⟨hclosed ▸ h, hsame⟩
  | true =>
    obtain ⟨hclosed, htriggers, hdue⟩ := hrelease (q.retry k).2
    exact ⟨hclosed ▸ hretry.1, htriggers.trans hretry.2.1, hdue.trans hretry.2.2⟩

end WorkQueue

namespace Worker

open QueueEvent

variable {κ σ : Type} [DecidableEq κ] {w : Worker κ σ} {l : WorkLoop κ σ} {t : Nat}
  {e : QueueEvent κ} {events : List (Nat × QueueEvent κ)}

/-! ## The queue after the stop -/

/-- After the stop only triggers and ends of passes change the queue. -/
theorem queue_react_closed (h : l.queue.Closed) : (w.react t e l).state.queue =
    match e with
    | .trigger k => l.queue.trigger k
    | .finish k result => (l.queue.finish k (!result.isOk)).2
    | _ => l.queue := by
  rw [queue_react]
  cases e with
  | pull first =>
    rw [queue_pull, WorkQueue.take?_stopped h.stopped]
    rfl
  | finish k result => exact queue_finish
  | wake k => exact h.wake
  | stop => exact h.stop
  | trigger k => rfl

theorem closed_react (h : l.queue.Closed) : (w.react t e l).state.queue.Closed := by
  rw [queue_react_closed h]
  cases e with
  | trigger k => exact ⟨h.stopped, h.sleeping⟩
  | finish k result => exact h.finish.1
  | _ => exact h

/-- Triggers pile up, and retries that were due stay so. -/
theorem requests_follow (h : l.queue.Closed) (w : Worker κ σ)
    (events : List (Nat × QueueEvent κ)) :
    (w.follow l events).queue.triggers =
        l.queue.triggers ++ events.filterMap (triggered? ·.2) ∧
      (w.follow l events).queue.dueRetries = l.queue.dueRetries := by
  induction events generalizing l with
  | nil => exact ⟨(List.append_nil _).symm, rfl⟩
  | cons e events ih =>
    obtain ⟨htriggers, hdue⟩ := ih (l := (w.react e.1 e.2 l).state) (closed_react h)
    have hreact := queue_react_closed (w := w) (t := e.1) (e := e.2) h
    show (w.follow (w.react e.1 e.2 l).state events).queue.triggers = _ ∧ _
    obtain ⟨t, e⟩ := e
    rw [htriggers, hreact]
    refine ⟨?_, hdue.trans ?_⟩
    · cases e with
      | trigger k => simp [WorkQueue.trigger, triggered?]
      | finish k result => rw [h.finish.2.1]; rfl
      | _ => rfl
    · rw [hreact]
      cases e with
      | finish k result => exact h.finish.2.2
      | _ => rfl

/-- Each end of a pass takes one away from those that run or are owed, and nothing adds one. -/
theorem load_follow (hl : Courses l) (h : l.queue.Closed) (he : w.Admits l events) :
    (ends (events.map (·.2))).length + (w.follow l events).queue.load = l.queue.load := by
  induction events generalizing l with
  | nil => exact Nat.zero_add _
  | cons e events ih =>
    obtain ⟨t, e⟩ := e
    have hrest := ih (hl.react he.1) (closed_react h) he.2
    change _ + (w.follow (w.react t e l).state events).queue.load = _ at hrest
    show (ends (e :: events.map (·.2))).length +
      (w.follow (w.react t e l).state events).queue.load = _
    rw [queue_react_closed h] at hrest
    cases e with
    | finish k result =>
      have hk : k ∈ l.queue.running := he.1 k rfl
      have hload := WorkQueue.load_finish (!result.isOk) hk
      rw [hl.nodup.count, if_pos hk, ite_self] at hload
      show (k :: ends (events.map (·.2))).length + _ = _
      rw [List.length_cons]
      dsimp only at hrest
      omega
    | _ => exact hrest

/-! ## The return of a loop -/

section

variable {l : WorkLoop κ (σ × WorkLog κ)}

/-- A loop that has returned does nothing any more. -/
theorem notes_drained {q : WorkQueue κ} (h : q.isDrained = true)
    (he : ∀ k ∈ ended? e, k ∈ q.running) : w.notes t e q = [] := by
  obtain ⟨hstopped, hempty⟩ := WorkQueue.isDrained_iff.1 h
  cases e with
  | pull first =>
    simp only [notes, WorkQueue.take?_stopped hstopped]
  | finish k result => exact absurd (he k rfl) (hempty ▸ List.not_mem_nil)
  | _ => rfl

theorem isDrained_react (h : l.queue.isDrained = true)
    (he : ∀ k ∈ ended? e, k ∈ l.queue.running) :
    (w.recorded.react t e l).state.queue.isDrained = true := by
  obtain ⟨hstopped, hempty⟩ := WorkQueue.isDrained_iff.1 h
  rw [queue_react]
  cases e with
  | pull first =>
    rw [queue_pull, WorkQueue.take?_stopped hstopped]
    exact h
  | finish k result => exact absurd (he k rfl) (hempty ▸ List.not_mem_nil)
  | wake k =>
    show (l.queue.wake k).isDrained = true
    unfold WorkQueue.wake
    split <;> exact h
  | trigger k => exact h
  | stop => exact WorkQueue.isDrained_iff.2 ⟨rfl, hempty⟩

omit [DecidableEq κ] in
/-- The health of the loop was reported when it started and, after the last pass, when it
returned. -/
def TellsHealth (name : String) (l : WorkLoop κ (σ × WorkLog κ)) : Prop :=
  ∃ work : WorkLog κ, (∀ x ∈ work, x.2.isHealth = false) ∧ l.inner.2 =
    l.returnedAt.toList.map (fun t => (t, .metric (.controllerHealth name false))) ++ work ++
      [(0, .metric (.controllerHealth name true))]

/-- The loop returned where nothing runs and nothing will, and told its health. -/
structure Reports (name : String) (l : WorkLoop κ (σ × WorkLog κ)) : Prop where
  returned : l.returnedAt.isSome = l.queue.isDrained
  health : TellsHealth name l

omit [DecidableEq κ] in
theorem reports_init (w : Worker κ σ) (limit : Nat) (s : σ) :
    Reports w.name (w.recorded.init limit (s, [])) :=
  ⟨rfl, [], by simp, rfl⟩

omit [DecidableEq κ] in
theorem reports_settle (h : TellsHealth w.name l)
    (hreturned : l.returnedAt.isSome = true → l.queue.isDrained = true) :
    Reports w.name (w.recorded.settle t l) := by
  unfold settle
  split
  · rename_i hnow
    obtain ⟨hdrained, hnone⟩ := Bool.and_eq_true_iff.1 hnow
    obtain ⟨work, hwork, hlog⟩ := h
    rw [Option.isNone_iff_eq_none.1 hnone] at hlog
    exact ⟨hdrained.symm, work, hwork, congrArg (_ :: ·) hlog⟩
  · rename_i hnow
    refine ⟨?_, h⟩
    cases hl : l.returnedAt with
    | some t₀ => exact (hreturned (by rw [hl]; rfl)).symm
    | none =>
      rw [hl, Option.isNone_none, Bool.and_true, Bool.not_eq_true] at hnow
      exact hnow.symm

theorem Reports.react (h : Reports w.name l) (he : ∀ k ∈ ended? e, k ∈ l.queue.running) :
    Reports w.name (w.recorded.react t e l).state := by
  obtain ⟨hreturned, work, hwork, hlog⟩ := h
  obtain ⟨hnotes, hsame⟩ := log_act (w := w) (t := t) (e := e) (l := l)
  rw [state_react]
  refine reports_settle ?_ fun hsome => ?_
  · unfold TellsHealth
    rw [hnotes, hlog, hsame]
    cases hl : l.returnedAt with
    | some t₀ =>
      have hdone : l.queue.isDrained = true := by rw [← hreturned, hl]; rfl
      rw [notes_drained hdone he]
      exact ⟨work, hwork, rfl⟩
    | none =>
      refine ⟨w.notes t e l.queue ++ work, fun x hx => ?_, (List.append_assoc _ _ _).symm⟩
      exact (List.mem_append.1 hx).elim not_isHealth_notes (hwork x)
  · rw [hsame, hreturned] at hsome
    rw [← queue_react]
    exact isDrained_react hsome he

/-! ## Cancellation -/

/-- Neither what began nor what is owed of a key gets more after the stop. -/
theorem begun_react_closed (h : l.queue.Closed) (k : κ) :
    (w.recorded.react t e l).state.begun k + ((w.recorded.react t e l).state.queue.owes k).toNat =
      l.begun k + (l.queue.owes k).toNat := by
  rw [begun_react, queue_react_closed h]
  cases e with
  | pull first =>
    simp only [notes, WorkQueue.take?_stopped h.stopped]
    rfl
  | finish k' result =>
    have howes : (l.queue.finish k' (!result.isOk)).2.owes k = (l.queue.owes k && k ≠ k') := by
      rw [Bool.eq_iff_iff, WorkQueue.owes_finish]
      simp
    rw [countP_begins_finish]
    dsimp only
    rw [howes]
    by_cases hk : k' = k
    · subst hk
      cases l.queue.owes k' <;> simp
    · simp [hk, Ne.symm hk]
  | _ => rfl

/-- What a loop does from its stop on. -/
structure Drains (name : String) (after : List (Nat × QueueEvent κ))
    (l l' : WorkLoop κ (σ × WorkLog κ)) : Prop where
  /-- No trigger is taken. -/
  triggers : l'.queue.triggers = l.queue.triggers ++ after.filterMap (triggered? ·.2)
  /-- No retry is taken, nor does one become due. -/
  retries : l'.queue.dueRetries = l.queue.dueRetries
  /-- Each pass that began has ended or runs. -/
  begun : ∀ k, l'.begun k = l'.ended k + if k ∈ l'.queue.running then 1 else 0
  /-- A further pass begins where one was owed, and no other. -/
  further : ∀ k, l'.begun k + (l'.queue.owes k).toNat = l.begun k + (l.queue.owes k).toNat
  /-- Each end of a pass takes one away from those that run or are owed. -/
  load : (ends (after.map (·.2))).length + l'.queue.load = l.queue.load
  /-- The loop returns as soon as no pass runs. -/
  returned : l'.returnedAt.isSome = l'.queue.running.isEmpty
  /-- When it has returned, no key is in flight, and all passes that were owed came to their end. -/
  idle : l'.returnedAt.isSome = true → l'.queue.inFlight = [] ∧
    ∀ k, l'.begun k = l'.ended k ∧ l'.begun k = l.begun k + (l.queue.owes k).toNat
  health : TellsHealth name l'

theorem inFlight_of_idle (h : Courses l) (hidle : l.queue.running = []) :
    l.queue.inFlight = [] := by
  refine List.eq_nil_iff_forall_not_mem.2 fun ⟨k, owed⟩ hk => ?_
  have hrun : k ∈ l.queue.running := h.mem_running.2 (WorkQueue.isClaimed_iff.2 ⟨owed, hk⟩)
  rw [hidle] at hrun
  cases hrun

/-- A loop whose queue is closed is drained. -/
theorem drains_follow {after : List (Nat × QueueEvent κ)} (hcourses : Courses l)
    (hclosed : l.queue.Closed) (hreports : Reports w.name l)
    (hbegun : ∀ k, l.begun k = l.ended k + l.queue.running.count k)
    (he : w.recorded.Admits l after) : Drains w.name after l (w.recorded.follow l after) := by
  obtain ⟨htriggers, hretries⟩ := requests_follow hclosed w.recorded after
  let P (l' : WorkLoop κ (σ × WorkLog κ)) := l'.queue.Closed ∧ Reports w.name l' ∧
    ∀ k, l'.begun k + (l'.queue.owes k).toNat = l.begun k + (l.queue.owes k).toNat
  obtain ⟨hclosed', hreports', hfurther⟩ : P (w.recorded.follow l after) :=
    follow_keeps he ⟨hclosed, hreports, fun _ => rfl⟩ fun l' t e he h =>
      ⟨closed_react h.1, h.2.1.react he, fun k => (begun_react_closed h.1 k).trans (h.2.2 k)⟩
  have hcourses' : Courses (w.recorded.follow l after) := hcourses.follow he
  have hbegun' := fun k => begun_follow (hbegun k) he
  have hload := load_follow hcourses hclosed he
  generalize w.recorded.follow l after = l' at *
  have hreturned : l'.returnedAt.isSome = l'.queue.running.isEmpty := by
    rw [hreports'.returned, WorkQueue.isDrained, hclosed'.stopped, Bool.true_and]
  refine ⟨htriggers, hretries, fun k => ?_, hfurther, hload, hreturned, fun hsome => ?_,
    hreports'.health⟩
  · rw [hbegun' k, hcourses'.nodup.count]
  · have hidle : l'.queue.running = [] := List.isEmpty_iff.1 (hreturned ▸ hsome)
    have hnone : l'.queue.inFlight = [] := inFlight_of_idle hcourses' hidle
    refine ⟨hnone, fun k => ⟨?_, ?_⟩⟩
    · rw [hbegun' k, hidle]
      rfl
    · have howes : l'.queue.owes k = false := by simp [WorkQueue.owes, hnone]
      rw [← hfurther k, howes]
      rfl

/-- **Cancellation drains the loop.** Whenever a loop is stopped, it takes nothing any more, the
passes that run and those that are owed come to their end, and then it returns and says so. One more
pass is owed to just the keys for which a request was taken during their pass. -/
theorem cancellation_drains (w : Worker κ σ) (limit : Nat) (s : σ) (t : Nat)
    {before after : List (Nat × QueueEvent κ)}
    (h : w.recorded.Admits (w.recorded.init limit (s, [])) (before ++ (t, .stop) :: after)) :
    let start := w.recorded.init limit (s, [])
    let l := w.recorded.follow start before
    Drains w.name after l (w.recorded.follow l ((t, .stop) :: after)) ∧
      ∀ k, l.queue.owes k = true ↔ w.recorded.Flags start before k := by
  intro start l
  have hbefore : w.recorded.Admits start before := (admits_append.1 h).1
  have hrest : w.recorded.Admits l ((t, .stop) :: after) := (admits_append.1 h).2
  have hcourses : Courses l := (courses_init w.recorded limit (s, [])).follow hbefore
  have hreports : Reports w.name l :=
    follow_keeps hbefore (reports_init w limit s) fun _ _ _ he h => h.react he
  have hbegun : ∀ k, l.begun k = l.ended k + l.queue.running.count k := fun k =>
    begun_follow rfl hbefore
  refine ⟨?_, fun k => owes_follow rfl⟩
  -- The stop itself closes the queue and leaves its requests and passes as they are.
  let l₁ := (w.recorded.react t .stop l).state
  have hqueue : l₁.queue = l.queue.stop := queue_react
  have hsame : ∀ k, l₁.begun k = l.begun k ∧ l₁.ended k = l.ended k := fun k =>
    ⟨begun_react k, ended_react k⟩
  have hdrains : Drains w.name after l₁ (w.recorded.follow l₁ after) := by
    refine drains_follow (hcourses.react hrest.1) (hqueue ▸ WorkQueue.closed_stop)
      (hreports.react hrest.1) (fun k => ?_) hrest.2
    rw [(hsame k).1, (hsame k).2, hqueue]
    exact hbegun k
  obtain ⟨htriggers, hretries, hbegun', hfurther, hload, hreturned, hidle, hhealth⟩ := hdrains
  simp only [hqueue, (hsame _).1] at htriggers hretries hfurther hload hidle
  exact ⟨htriggers, hretries, hbegun', hfurther, hload, hreturned, hidle, hhealth⟩

end

/-- Key 7 fails once and is owed one more pass when the loop is stopped, key 8 is not, and key 9 is
triggered too late. -/
theorem cancellation_drains_owed_pass :
    let w : Worker Nat (WorkRecord Nat) := Plan.worker [] "vdc" 10
    let start := w.recorded.init 2 ({}, [])
    let before : List (Nat × QueueEvent Nat) :=
      [(0, .trigger 7), (0, .pull .triggers), (0, .trigger 7), (0, .pull .retries),
        (0, .trigger 8), (0, .pull .triggers)]
    let after : List (Nat × QueueEvent Nat) :=
      [(6, .trigger 9), (7, .finish 7 (.error (.reconcile "lost"))), (8, .finish 8 (.ok ())),
        (9, .finish 7 (.ok ()))]
    let l := w.recorded.follow start before
    let l' := w.recorded.follow l ((5, .stop) :: after)
    w.recorded.Admits start (before ++ (5, .stop) :: after) ∧
      (Drains "vdc" after l l' ∧ ∀ k, l.queue.owes k = true ↔ w.recorded.Flags start before k) ∧
      l'.begun 7 = 2 ∧ l'.begun 8 = 1 ∧ l'.begun 9 = 0 ∧ l'.returnedAt = some 9 := by
  intro w start before after l l'
  have hadmits : w.recorded.Admits start (before ++ (5, .stop) :: after) := by decide
  exact ⟨hadmits, cancellation_drains w 2 {} 5 hadmits, by decide⟩

end Worker

end TenantCloud
