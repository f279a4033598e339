import Mathlib.Logic.Relation
import TenantCloud.Proofs.WorkQueue.Claims
import TenantCloud.Proofs.WorkQueue.Phases

/-!
# Courses of a queue

A `Course` is a queue with its history: which requests were taken, which passes began and ended,
and which ones are about to begin. Its steps come in any order (`Course.Step`). Each key goes
through the phases of `Phase.Step` (`Course.Reaches.path`), so that no request is lost and requests
during a pass make one more pass (`Course.no_request_is_lost`).
-/

set_option autoImplicit false

namespace TenantCloud

/-- A queue, the keys whose passes are about to begin, and what happened to keys, latest first. -/
structure Course (κ : Type) where
  queue : WorkQueue κ
  starting : List κ := []
  history : List (κ × Act) := []

namespace Course

variable {κ : Type} [DecidableEq κ]

/-- What happened to a key, latest first. -/
def acts (c : Course κ) (k : κ) : List Act := (c.history.filter (·.1 = k)).map (·.2)

/-- How a key stands. -/
def phase (c : Course κ) (k : κ) : Phase :=
  if c.queue.isClaimed k then
    if k ∈ c.starting then .starting (c.queue.owes k) else .running (c.queue.owes k)
  else .idle

/-- A request is taken that leaves a queue behind: its key is claimed. -/
def take (c : Course κ) (k : κ) (q : WorkQueue κ) : Course κ where
  queue := (q.claim k).2
  starting := if (q.claim k).1 then k :: c.starting else c.starting
  history := (k, .took) :: c.history

/-- A pass begins that was about to. -/
def begin (c : Course κ) (k : κ) : Course κ :=
  { c with starting := c.starting.erase k, history := (k, .began) :: c.history }

/-- A pass ends: its failure is recorded and its key released. -/
def finish (c : Course κ) (k : κ) (failed : Bool) : Course κ where
  queue := (c.queue.finish k failed).2
  starting := if (c.queue.finish k failed).1.reruns then k :: c.starting else c.starting
  history := (k, .ended) :: c.history

/-- What can happen next, in any order. -/
inductive Step : Course κ → Course κ → Prop
  | trigger {c : Course κ} (k : κ) : Step c { c with queue := c.queue.trigger k }
  | wake {c : Course κ} (k : κ) : Step c { c with queue := c.queue.wake k }
  | take {c : Course κ} {k : κ} {q : WorkQueue κ} :
      c.queue.hasRoom = true → c.queue.Pops k q → Step c (c.take k q)
  | begin {c : Course κ} {k : κ} : k ∈ c.starting → Step c (c.begin k)
  | finish {c : Course κ} {k : κ} (failed : Bool) :
      k ∈ c.queue.running → k ∉ c.starting → Step c (c.finish k failed)
  | stop {c : Course κ} : Step c { c with queue := c.queue.stop }

/-- What can come of an empty queue. -/
def Reaches (c : Course κ) : Prop :=
  ∃ limit, Relation.ReflTransGen Step { queue := { limit } } c

/-- Passes run for the keys that are claimed, once each, and each key went through phases. -/
structure Sound (c : Course κ) : Prop where
  running : ∀ k, k ∈ c.queue.running ↔ c.queue.isClaimed k = true
  running_nodup : c.queue.running.Nodup
  starting : ∀ k ∈ c.starting, c.queue.isClaimed k = true
  starting_nodup : c.starting.Nodup
  path : ∀ k, Phase.Path .idle (c.acts k) (c.phase k)

variable {c c' : Course κ} {k : κ}

/-- What happens to one key is a step of that key. -/
theorem path_cons {a : Act} (h : ∀ k, Phase.Path .idle (c.acts k) (c.phase k))
    (hist : c'.history = (k, a) :: c.history) (hother : ∀ k' ≠ k, c'.phase k' = c.phase k')
    (hstep : Phase.Step (c.phase k) a (c'.phase k)) (k' : κ) :
    Phase.Path .idle (c'.acts k') (c'.phase k') := by
  unfold acts
  rw [hist]
  by_cases hk : k' = k
  · subst hk
    rw [List.filter_cons_of_pos (by simp)]
    exact (h k').cons hstep
  · rw [List.filter_cons_of_neg (by simpa using Ne.symm hk), hother k' hk]
    exact h k'

theorem phase_congr (hc : c'.queue.isClaimed k = c.queue.isClaimed k)
    (ho : c'.queue.owes k = c.queue.owes k) (hm : k ∈ c'.starting ↔ k ∈ c.starting) :
    c'.phase k = c.phase k := by
  unfold phase
  simp only [hc, ho, hm]

/-- What changes no claim and no pass is seen by no key. -/
theorem Sound.sameWork {q : WorkQueue κ} (h : c.Sound) (hs : c.queue.SameWork q) :
    Sound { c with queue := q } := by
  have hphase : ∀ k, phase { c with queue := q } k = c.phase k := fun k =>
    phase_congr (hs.isClaimed k) (hs.owes k) Iff.rfl
  refine ⟨fun k => ?_, ?_, fun k hk => ?_, h.starting_nodup, fun k => ?_⟩
  · rw [hs.2, hs.isClaimed]
    exact h.running k
  · rw [hs.2]
    exact h.running_nodup
  · rw [hs.isClaimed]
    exact h.starting k hk
  · rw [hphase]
    exact h.path k

/-! ## Requests that are taken -/

section

variable {q : WorkQueue κ} {k' : κ}

theorem isClaimed_take (hs : c.queue.SameWork q) :
    (c.take k q).queue.isClaimed k' = true ↔ k' = k ∨ c.queue.isClaimed k' = true := by
  rw [← hs.isClaimed]
  exact WorkQueue.isClaimed_claim

theorem owes_take (hs : c.queue.SameWork q) : (c.take k q).queue.owes k' =
    if k' = k then c.queue.isClaimed k else c.queue.owes k' := by
  rw [Bool.eq_iff_iff, ← hs.isClaimed, ← hs.owes]
  refine WorkQueue.owes_claim.trans ?_
  split <;> rfl

theorem running_take (hs : c.queue.SameWork q) : (c.take k q).queue.running =
    if c.queue.isClaimed k then c.queue.running else c.queue.running ++ [k] := by
  rw [← hs.isClaimed, ← hs.2]
  exact WorkQueue.running_claim

theorem starting_take (hs : c.queue.SameWork q) : (c.take k q).starting =
    if c.queue.isClaimed k then c.starting else k :: c.starting := by
  show (if (q.claim k).1 then _ else _) = _
  rw [WorkQueue.starts_claim, hs.isClaimed]
  cases c.queue.isClaimed k <;> rfl

theorem phase_take (hs : c.queue.SameWork q) :
    Phase.Step (c.phase k) .took ((c.take k q).phase k) := by
  unfold phase
  rw [isClaimed_take hs |>.2 (.inl rfl), owes_take hs, starting_take hs, if_pos rfl, if_pos rfl]
  cases hc : c.queue.isClaimed k with
  | true =>
    rw [if_pos rfl, if_pos rfl]
    split
    · exact .join
    · exact .owe
  | false =>
    rw [if_neg Bool.false_ne_true, if_neg Bool.false_ne_true, if_pos List.mem_cons_self]
    exact .claim

theorem Sound.take (h : c.Sound) (hs : c.queue.SameWork q) : (c.take k q).Sound := by
  -- A key that is not claimed has neither a pass nor one that is about to begin.
  have hfresh : ¬ c.queue.isClaimed k = true → k ∉ c.queue.running ∧ k ∉ c.starting := fun hk =>
    ⟨fun hm => hk ((h.running k).1 hm), fun hm => hk (h.starting k hm)⟩
  refine ⟨fun k' => ?_, ?_, fun k' hk' => ?_, ?_, path_cons h.path rfl (fun k' hk' => ?_)
    (phase_take hs)⟩
  · rw [isClaimed_take hs, running_take hs]
    split
    · rename_i hk
      rw [h.running]
      exact ⟨.inr, fun h => h.elim (fun he => he ▸ hk) id⟩
    · rw [List.mem_append, List.mem_singleton, h.running, or_comm]
  · rw [running_take hs]
    split
    · exact h.running_nodup
    · rename_i hk
      refine (List.perm_append_singleton k c.queue.running).nodup_iff.2 ?_
      exact List.nodup_cons.2 ⟨(hfresh hk).1, h.running_nodup⟩
  · rw [isClaimed_take hs]
    rw [starting_take hs] at hk'
    split at hk'
    · exact .inr (h.starting k' hk')
    · exact (List.mem_cons.1 hk').imp_right (h.starting k')
  · rw [starting_take hs]
    split
    · exact h.starting_nodup
    · rename_i hk
      exact List.nodup_cons.2 ⟨(hfresh hk).2, h.starting_nodup⟩
  · refine phase_congr ?_ ?_ ?_
    · rw [Bool.eq_iff_iff, isClaimed_take hs]
      exact or_iff_right hk'
    · rw [owes_take hs, if_neg hk']
    · rw [starting_take hs]
      split
      · rfl
      · rw [List.mem_cons]
        exact or_iff_right hk'

end

/-! ## Passes that begin and end -/

theorem Sound.begin (h : c.Sound) (hk : k ∈ c.starting) : (c.begin k).Sound := by
  have hmem : ∀ k', k' ∈ (c.begin k).starting ↔ k' ≠ k ∧ k' ∈ c.starting := fun k' =>
    h.starting_nodup.mem_erase_iff
  refine ⟨h.running, h.running_nodup, fun k' hk' => h.starting k' ((hmem k').1 hk').2,
    h.starting_nodup.erase k, path_cons h.path rfl (fun k' hk' => ?_) ?_⟩
  · exact phase_congr rfl rfl ((hmem k').trans (and_iff_right hk'))
  · have hc : (c.begin k).queue.isClaimed k = true := h.starting k hk
    unfold phase
    rw [if_pos hc, if_neg fun hm => ((hmem k).1 hm).1 rfl, if_pos (h.starting k hk), if_pos hk]
    exact .begin

section

variable {failed : Bool} {k' : κ}

theorem starting_finish : (c.finish k failed).starting =
    if c.queue.owes k then k :: c.starting else c.starting := by
  show (if (c.queue.finish k failed).1.reruns then _ else _) = _
  rw [WorkQueue.reruns_finish]

theorem phase_finish (hc : c.queue.isClaimed k = true) (hk : k ∉ c.starting) :
    Phase.Step (c.phase k) .ended ((c.finish k failed).phase k) := by
  have hclaim : (c.finish k failed).queue.isClaimed k = c.queue.owes k := by
    rw [Bool.eq_iff_iff]
    exact WorkQueue.isClaimed_finish.trans ⟨fun h => h.2 rfl, fun h => ⟨hc, fun _ => h⟩⟩
  have howes : (c.finish k failed).queue.owes k = false := by
    rw [Bool.eq_false_iff]
    exact fun h => (WorkQueue.owes_finish.1 h).2 rfl
  unfold phase
  rw [hclaim, howes, if_pos hc, if_neg hk, starting_finish]
  cases c.queue.owes k with
  | true =>
    rw [if_pos rfl, if_pos rfl, if_pos List.mem_cons_self]
    exact .rerun
  | false =>
    rw [if_neg Bool.false_ne_true]
    exact .release

theorem Sound.finish (h : c.Sound) (hk : k ∈ c.queue.running) (hs : k ∉ c.starting) :
    (c.finish k failed).Sound := by
  have hclaim : ∀ k', (c.finish k failed).queue.isClaimed k' = true ↔
      c.queue.isClaimed k' = true ∧ (k' = k → c.queue.owes k = true) := fun _ =>
    WorkQueue.isClaimed_finish
  have hrunning : (c.finish k failed).queue.running =
      if c.queue.owes k then c.queue.running else c.queue.running.erase k :=
    WorkQueue.running_finish
  have hne : ∀ k' ∈ c.starting, k' ≠ k := fun k' hk' he => hs (he ▸ hk')
  refine ⟨fun k' => ?_, ?_, fun k' hk' => ?_, ?_, path_cons h.path rfl (fun k' hk' => ?_)
    (phase_finish ((h.running k).1 hk) hs)⟩
  · rw [hclaim, hrunning]
    split
    · rename_i ho
      rw [h.running]
      exact ⟨fun hc => ⟨hc, fun _ => ho⟩, fun hc => hc.1⟩
    · rename_i ho
      rw [h.running_nodup.mem_erase_iff, h.running]
      exact ⟨fun hc => ⟨hc.2, fun he => absurd he hc.1⟩, fun hc => ⟨fun he => ho (hc.2 he), hc.1⟩⟩
  · rw [hrunning]
    split
    · exact h.running_nodup
    · exact h.running_nodup.erase k
  · rw [hclaim]
    rw [starting_finish] at hk'
    split at hk'
    · rename_i ho
      rcases List.mem_cons.1 hk' with rfl | hk'
      · exact ⟨(h.running _).1 hk, fun _ => ho⟩
      · exact ⟨h.starting k' hk', fun _ => ho⟩
    · exact ⟨h.starting k' hk', fun he => absurd he (hne k' hk')⟩
  · rw [starting_finish]
    split
    · exact List.nodup_cons.2 ⟨hs, h.starting_nodup⟩
    · exact h.starting_nodup
  · refine phase_congr ?_ ?_ ?_
    · rw [Bool.eq_iff_iff, hclaim]
      exact and_iff_left fun he => absurd he hk'
    · rw [Bool.eq_iff_iff]
      exact WorkQueue.owes_finish.trans (and_iff_left hk')
    · rw [starting_finish]
      split
      · rw [List.mem_cons]
        exact or_iff_right hk'
      · rfl

end

/-! ## Runs -/

theorem Sound.step (h : c.Sound) (hs : Step c c') : c'.Sound := by
  cases hs with
  | trigger k => exact h.sameWork ⟨rfl, rfl⟩
  | wake k => exact h.sameWork WorkQueue.sameWork_wake
  | take _ hpop => exact h.take hpop.sameWork
  | begin hk => exact h.begin hk
  | finish failed hk hs => exact h.finish hk hs
  | stop => exact h.sameWork ⟨rfl, rfl⟩

theorem Reaches.sound (h : Reaches c) : c.Sound := by
  obtain ⟨limit, h⟩ := h
  induction h with
  | refl =>
    refine ⟨fun k => ?_, .nil, fun k hk => ?_, .nil, fun k => .nil⟩
    · exact ⟨fun h => absurd h List.not_mem_nil, fun h => by cases h⟩
    · exact absurd hk List.not_mem_nil
  | tail _ hs ih => exact ih.step hs

theorem waits_phase (h : (c.phase k).waits = true) :
    c.queue.isClaimed k = true ∧ (c.queue.owes k = true ∨ k ∈ c.starting) := by
  unfold phase at h
  split at h
  · rename_i hc
    split at h
    · rename_i hk
      exact ⟨hc, .inr hk⟩
    · exact ⟨hc, .inl h⟩
  · cases h

theorem soon_phase (h : c.Sound) (k : κ) : (c.phase k).soon = if k ∈ c.starting then 1 else 0 := by
  unfold phase
  split
  · split <;> rfl
  · rename_i hc
    rw [if_neg fun hk => hc (h.starting k hk)]
    rfl

/-- The passes of a key that are about to begin or owed. -/
def pending (c : Course κ) (k : κ) : Nat :=
  (if k ∈ c.starting then 1 else 0) + (c.queue.owes k).toNat

theorem due_phase (h : c.Sound) (k : κ) : (c.phase k).due = c.pending k := by
  unfold phase pending
  split
  · split
    · rfl
    · exact (Nat.zero_add _).symm
  · rename_i hc
    have ho : c.queue.owes k = false := by
      rw [Bool.eq_false_iff]
      exact fun ho => hc (WorkQueue.isClaimed_of_owes ho)
    rw [if_neg fun hk => hc (h.starting k hk), ho]
    rfl

/-- **No request is lost, and requests coalesce exactly.** Whatever the order of triggers, retries,
passes of other keys and failures: while no pass for a key began since a request for it was taken,
the key is claimed and a pass for it is owed or about to begin, so that once the key is claimed no
more, each request was followed by a pass. Any number of requests during one pass bring about one
more pass, and a further one only for requests after its end. No key has more passes than
requests. -/
theorem no_request_is_lost (h : Reaches c) (k : κ) :
    (∀ later earlier, c.acts k = later ++ .took :: earlier → .began ∉ later →
      c.queue.isClaimed k = true ∧ (c.queue.owes k = true ∨ k ∈ c.starting)) ∧
    (c.queue.isClaimed k = false →
      ∀ later earlier, c.acts k = later ++ .took :: earlier → .began ∈ later) ∧
    (∀ later during earlier, c.acts k = later ++ .ended :: (during ++ .began :: earlier) →
      .ended ∉ during → .took ∈ during →
      1 ≤ later.count .began + (if k ∈ c.starting then 1 else 0) ∧
      later.count .began + c.pending k ≤ 1 + later.count .took) ∧
    (c.acts k).count .began + c.pending k ≤ (c.acts k).count .took := by
  have hsound := h.sound
  have hpath := hsound.path k
  have hwaits : ∀ later earlier, c.acts k = later ++ .took :: earlier → .began ∉ later →
      c.queue.isClaimed k = true ∧ (c.queue.owes k = true ∨ k ∈ c.starting) := by
    intro later earlier he hb
    rw [he] at hpath
    exact waits_phase (hpath.waits hb)
  refine ⟨hwaits, fun hc later earlier he => ?_, fun later during earlier he hend ht => ?_, ?_⟩
  · by_contra hb
    rw [(hwaits later earlier he hb).1] at hc
    cases hc
  · rw [he] at hpath
    rw [← soon_phase hsound k, ← due_phase hsound k]
    exact hpath.reruns hend ht
  · have hcount := hpath.count_le
    rw [due_phase hsound k, Phase.due, Nat.zero_add] at hcount
    exact hcount

/-- Three requests for one key, two of them during its first pass, which fails. -/
def burst : Course Nat :=
  let c : Course Nat := { queue := { limit := 2, triggers := [7, 7, 7] } }
  let c := (c.take 7 { c.queue with triggers := [7, 7] }).begin 7
  let c := c.take 7 { c.queue with triggers := [7] }
  let c := c.take 7 { c.queue with triggers := [] }
  (c.finish 7 true).begin 7

theorem reaches_burst : Reaches burst := by
  refine ⟨2, .head (.trigger 7) (.head (.trigger 7) (.head (.trigger 7) ?_))⟩
  refine .head (.take rfl (.trigger rfl)) (.head (.begin (k := 7) (by decide)) ?_)
  refine .head (.take rfl (.trigger rfl)) (.head (.take rfl (.trigger rfl)) ?_)
  refine .head (.finish (k := 7) true (by decide) (by decide)) ?_
  exact .head (.begin (k := 7) (by decide)) .refl

/-- Both requests during the first pass bring about one more, and no second one. -/
theorem burst_reruns_once :
    burst.acts 7 = [.began, .ended, .took, .took, .began, .took] ∧
      1 ≤ [Act.began].count .began + (if 7 ∈ burst.starting then 1 else 0) ∧
      [Act.began].count .began + burst.pending 7 ≤ 1 + [Act.began].count .took :=
  ⟨by decide, (no_request_is_lost reaches_burst 7).2.2.1 [.began] [.took, .took] [.took]
    (by decide) (by decide) (by decide)⟩

end Course

end TenantCloud
