import TenantCloud.Controller.Follower
import TenantCloud.Proofs.Data.Dict

/-!
# Runs of followers

`Follower.after` is the state of a follower after what happened to it, and `Follower.heard` the
reports that it took in. Every run is such a state (`Follower.run_eq_after`). What a follower knows
of an object is the last report about it (`Follower.known_after`), and a request for an object that
was never reported comes from a report of a related one (`Follower.due_after`).
-/

set_option autoImplicit false

namespace TenantCloud

namespace Follower

variable {α : Type} (f : Follower α) (world : World)

/-- The state of a follower after what happened to it, latest first. -/
def after : List (Nat × FollowerEvent) → Following α
  | [] => f.init world
  | (t, e) :: earlier => (f.react t e (after earlier)).state

/-- The reports that a follower took in, latest first. -/
def heard : List (Nat × FollowerEvent) → List Report
  | [] => []
  | (t, .report r) :: earlier =>
    if isBroken t (f.after world earlier) || !r.object.isNamed then heard earlier
    else r :: heard earlier
  | _ :: earlier => heard earlier

/-- The report is about the object with a key. -/
def isAbout (k : ObjectAddress) (r : Report) : Bool := (f.own? r.object).any (f.key · = k)

/-- Whatever an agenda lets happen is a history. -/
theorem agenda_run_eq_after {react : Nat → FollowerEvent → Following α →
      Reaction (Following α) FollowerEvent}
    (hreact : ∀ t e s, (react t e s).state = s ∨ (react t e s).state = (f.react t e s).state)
    (fuel t : Nat) (now : List FollowerEvent) (a : Agenda FollowerEvent)
    (es : List (Nat × FollowerEvent)) :
    ∃ es', Agenda.run react fuel t now a (f.after world es) = f.after world es' := by
  induction fuel generalizing t now a es with
  | zero => exact ⟨es, rfl⟩
  | succ fuel ih =>
    cases now with
    | nil =>
      cases a with
      | nil => exact ⟨es, rfl⟩
      | cons e rest => exact ih e.1 [e.2] rest es
    | cons e now =>
      have hstep : ∃ es', (react t e (f.after world es)).state = f.after world es' := by
        rcases hreact t e (f.after world es) with h | h
        · exact ⟨es, h⟩
        · exact ⟨(t, e) :: es, h⟩
      obtain ⟨es', h⟩ := hstep
      show ∃ es', Agenda.run react fuel t _ _ (react t e (f.after world es)).state = _
      rw [h]
      exact ih t _ _ es'

/-- A run ends where some history leads. -/
theorem run_eq_after (cues : List (Nat × Cue)) (horizon : Nat) :
    ∃ es, f.run world cues horizon = f.after world es := by
  refine f.agenda_run_eq_after world (fun t e s => ?_) _ 0 [] _ []
  split
  · exact .inl rfl
  · exact .inr rfl

/-! ## What a reaction leaves as it is -/

variable {f world}

theorem stage_request (u : Nat) (k : ObjectAddress) (s : Following α) :
    (request u k s).state.stage = s.stage := by
  unfold request
  split <;> rfl

theorem stage_pause (t n : Nat) (k : ObjectAddress) (s : Following α) :
    (pause t n k s).state.stage = s.stage := by
  unfold pause
  split
  · exact stage_request _ _ _
  · rfl

theorem stage_report (t : Nat) (r : Report) (s : Following α) :
    (f.report t r s).state.stage = s.stage := by
  unfold report
  split
  · rfl
  · split
    · dsimp only
      split
      · rfl
      · exact stage_request _ _ _
    · split
      · exact stage_request _ _ _
      · rfl

theorem store_list (t : Nat) (w : Watch) (n : Nat) (s : Following α) :
    (f.list t w n s).state.stage.world.store = s.stage.world.store := by
  have hserve : (s.stage.serve w).2.world.store = s.stage.world.store := by
    show (s.stage.world.serve w).2.store = _
    unfold World.serve
    dsimp only
    split <;> rfl
  unfold list
  revert hserve
  rcases s.stage.serve w with ⟨_ | objects, stage⟩
  · exact id
  · dsimp only
    split <;> exact id

/-! ## What is known of an object -/

theorem known_request (u : Nat) (k : ObjectAddress) (s : Following α) :
    (request u k s).state.known = s.known := by
  unfold request
  split <;> rfl

theorem known_pause (t n : Nat) (k : ObjectAddress) (s : Following α) :
    (pause t n k s).state.known = s.known := by
  unfold pause
  split
  · exact known_request _ _ _
  · rfl

theorem known_carryOut (t : Nat) (k : ObjectAddress) (s : Following α) :
    (f.carryOut t k s).state.known = s.known := by
  unfold carryOut
  dsimp only
  split
  · exact known_pause _ _ _ _
  · rfl

theorem known_list (t : Nat) (w : Watch) (n : Nat) (s : Following α) :
    (f.list t w n s).state.known = s.known := by
  unfold list
  rcases s.stage.serve w with ⟨_ | objects, stage⟩
  · rfl
  · dsimp only
    split <;> rfl

/-- Only a report changes what is known. -/
theorem known_react (t : Nat) {e : FollowerEvent} (he : ∀ r, e ≠ .report r) (s : Following α) :
    (f.react t e s).state.known = s.known := by
  cases e with
  | list w n =>
    show (if _ then _ else _ : Reaction (Following α) FollowerEvent).state.known = _
    split
    · rfl
    · exact known_list t w n s
  | report r => exact absurd rfl (he r)
  | due k =>
    show (if _ then _ else _ : Reaction (Following α) FollowerEvent).state.known = _
    split
    · exact known_carryOut t k s
    · rfl
  | cue c => rfl

/-- A report that is taken in is about the one object of its key, or about none. -/
theorem known_report {t : Nat} {r : Report} {s : Following α} (hr : r.object.isNamed = true)
    (k : ObjectAddress) : (f.report t r s).state.known.get? k =
      if f.isAbout k r then (if r.gone then none else f.own? r.object) else s.known.get? k := by
  unfold report isAbout
  rw [hr]
  cases ho : f.own? r.object with
  | none =>
    cases f.related? r.object with
    | none => rfl
    | some q =>
      show (request t q s).state.known.get? k = _
      rw [known_request]
      rfl
  | some a =>
    have hnote : (f.note r.gone a s).known.get? k =
        if f.key a = k then (if r.gone then none else some a) else s.known.get? k := by
      unfold note
      cases r.gone with
      | true => exact (Dict.get?_erase _ _ _).trans (by simp [eq_comm])
      | false => exact (Dict.get?_insert _ _ _ _).trans (by simp [eq_comm])
    simp only [Option.any_some, decide_eq_true_eq]
    rw [← hnote]
    show (if r.gone then _ else _ : Reaction (Following α) FollowerEvent).state.known.get? k = _
    split
    · rfl
    · rw [known_request]

/-- What is known of an object is what the last report about it says. -/
theorem known_after (es : List (Nat × FollowerEvent)) (k : ObjectAddress) :
    (f.after world es).known.get? k = ((f.heard world es).find? (f.isAbout k)).bind fun r =>
      if r.gone then none else f.own? r.object := by
  induction es with
  | nil => rfl
  | cons e earlier ih =>
    obtain ⟨t, e⟩ := e
    have hother : (∀ r, e ≠ .report r) →
        (f.after world ((t, e) :: earlier)).known.get? k =
          (f.after world earlier).known.get? k := by
      intro he
      rw [after, known_react t he]
    cases e with
    | report r =>
      rw [after, heard, react]
      cases hb : isBroken t (f.after world earlier) with
      | true => exact ih
      | false =>
        cases hr : r.object.isNamed with
        | false =>
          show (f.report t r _).state.known.get? k = _
          unfold report
          rw [hr]
          exact ih
        | true =>
          show (f.report t r _).state.known.get? k = ((r :: f.heard world earlier).find? _).bind _
          rw [known_report hr, List.find?_cons]
          cases f.isAbout k r with
          | true => rfl
          | false => exact ih
    | list w n => exact (hother (fun _ h => by cases h)).trans ih
    | due q => exact (hother (fun _ h => by cases h)).trans ih
    | cue c => exact (hother (fun _ h => by cases h)).trans ih

/-! ## Where requests come from -/

theorem due_request {u : Nat} {k q : ObjectAddress} {s : Following α}
    (h : ((request u k s).state.due.get? q).isSome) : q = k ∨ (s.due.get? q).isSome := by
  unfold request at h
  split at h
  · exact .inr h
  · rw [Dict.get?_insert] at h
    split at h
    · rename_i hq
      exact .inl hq
    · exact .inr h

theorem due_pause {t n : Nat} {k q : ObjectAddress} {s : Following α}
    (h : ((pause t n k s).state.due.get? q).isSome) : q = k ∨ (s.due.get? q).isSome := by
  unfold pause at h
  split at h
  · exact due_request h
  · exact .inr h

theorem due_release {t : Nat} {q : ObjectAddress} {s : Following α}
    (h : ((release t s).state.due.get? q).isSome) : (s.due.get? q).isSome := by
  have hfold : (release t s).state.due.get? q = _ :=
    Dict.get?_foldl (g := fun _ => some t) (fun d e k => Dict.get?_insert d e.1 k t)
      (s.due.filter fun _ u => u ≤ t).sorted s.due q
  rw [hfold] at h
  have hfilter := Dict.get?_filter s.due (fun _ u => decide (u ≤ t)) q
  cases hq : s.due.get? q with
  | some u => rfl
  | none =>
    rw [hq] at h hfilter
    change Dict.find? q (s.due.filter fun _ u => u ≤ t).toList = none at hfilter
    rw [hfilter] at h
    cases h

theorem due_list {t : Nat} {w : Watch} {n : Nat} {q : ObjectAddress} {s : Following α}
    (h : ((f.list t w n s).state.due.get? q).isSome) : (s.due.get? q).isSome := by
  unfold list at h
  rcases hs : s.stage.serve w with ⟨_ | objects, stage⟩ <;> rw [hs] at h
  · exact h
  · dsimp only at h
    split at h
    · exact due_release h
    · exact h

theorem due_carryOut {t : Nat} {k q : ObjectAddress} {s : Following α}
    (hk : (s.due.get? k).isSome) (h : ((f.carryOut t k s).state.due.get? q).isSome) :
    (s.due.get? q).isSome := by
  have herase : ((s.due.erase k).get? q).isSome → (s.due.get? q).isSome := by
    rw [Dict.get?_erase]
    split
    · intro h
      cases h
    · exact id
  unfold carryOut at h
  dsimp only at h
  split at h
  · rcases due_pause h with rfl | h
    · exact hk
    · exact herase h
  · exact herase h

/-- The report asks for a pass for the object with a key: it is about that object, or about one
that is related to it. -/
def Asks (f : Follower α) (k : ObjectAddress) (r : Report) : Prop :=
  f.isAbout k r = true ∨ f.own? r.object = none ∧ f.related? r.object = some k

theorem due_report {t : Nat} {r : Report} {q : ObjectAddress} {s : Following α}
    (h : ((f.report t r s).state.due.get? q).isSome) :
    (s.due.get? q).isSome ∨ r.object.isNamed = true ∧ f.Asks q r := by
  unfold report at h
  split at h
  · exact .inl h
  · rename_i hr
    rw [Bool.not_eq_true, Bool.not_eq_false'] at hr
    split at h
    · rename_i a ha
      dsimp only at h
      split at h
      · exact .inl h
      · rcases due_request h with rfl | h
        · refine .inr ⟨hr, .inl ?_⟩
          rw [isAbout, ha]
          exact decide_eq_true rfl
        · exact .inl h
    · rename_i ho
      split at h
      · rename_i k hk
        rcases due_request h with rfl | h
        · exact .inr ⟨hr, .inr ⟨ho, hk⟩⟩
        · exact .inl h
      · exact .inl h

/-- A request comes from a report that was taken in. -/
theorem due_after {es : List (Nat × FollowerEvent)} {k : ObjectAddress}
    (h : ((f.after world es).due.get? k).isSome) : ∃ r ∈ f.heard world es, f.Asks k r := by
  induction es with
  | nil => cases h
  | cons e earlier ih =>
    obtain ⟨t, e⟩ := e
    unfold after react at h
    cases e with
    | list w n =>
      dsimp only at h
      split at h
      · exact ih h
      · exact ih (due_list h)
    | due q =>
      dsimp only at h
      split at h
      · rename_i hq
        refine ih (due_carryOut ?_ h)
        simp only [Bool.and_eq_true, decide_eq_true_eq] at hq
        rw [hq.1.1]
        rfl
      · exact ih h
    | cue c => exact ih h
    | report r =>
      dsimp only at h
      rw [heard]
      split at h
      · rename_i hb
        rw [hb]
        exact ih h
      · rename_i hb
        rcases due_report h with h | ⟨hr, hask⟩
        · obtain ⟨r', hr', h'⟩ := ih h
          refine ⟨r', ?_, h'⟩
          split
          · exact hr'
          · exact List.mem_cons_of_mem _ hr'
        · refine ⟨r, ?_, hask⟩
          rw [hr, if_neg (by simpa using hb)]
          exact List.mem_cons_self

end Follower

end TenantCloud
