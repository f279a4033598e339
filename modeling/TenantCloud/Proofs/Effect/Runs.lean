import TenantCloud.Effect.World

/-!
# Runs against a world

The trace of attempts in sequence (`World.mem_trace_bind`), and what an answer of a world is
(`World.answer_cases`): the failure that a fault causes, the empty answer that it causes, or the
answer of the store and the cluster. `World.calm` is the world without faults, where only the last
case is left.
-/

set_option autoImplicit false

namespace TenantCloud

namespace World

variable {α β : Type} {w : World}

theorem run_call (w : World) (c : Call) :
    w.run (Attempt.call c) = ⟨(answer c w).1, (answer c w).2, [.call c]⟩ := rfl

theorem run_bind (w : World) (a : Attempt α) (f : α → Attempt β) :
    w.run (a >>= f) =
      match (w.run a).value with
      | .ok v =>
        let r := (w.run a).state.run (f v)
        ⟨r.value, r.state, (w.run a).trace ++ r.trace⟩
      | .error e => ⟨.error e, (w.run a).state, (w.run a).trace⟩ := by
  show Pass.run handler (a.run >>= ExceptT.bindCont f) w = _
  rw [Pass.run_bind]
  show _ = match (Pass.run handler a.run w).value with
    | .ok v => _
    | .error e => _
  dsimp only
  cases (Pass.run handler a.run w).value with
  | ok v => rfl
  | error e =>
    show (⟨_, _, _ ++ []⟩ : Ran World (Result β)) = _
    rw [List.append_nil]
    rfl

/-- After a success the second attempt goes on where the first one ended. -/
theorem run_bind_of_ok {a : Attempt α} {v : α} (h : (w.run a).value = .ok v)
    (f : α → Attempt β) : w.run (a >>= f) =
      let r := (w.run a).state.run (f v)
      ⟨r.value, r.state, (w.run a).trace ++ r.trace⟩ := by
  rw [run_bind, h]

theorem run_outcome (w : World) (a : Attempt α) : w.run (Attempt.outcome a) =
    ⟨.ok (w.run a).value, (w.run a).state, (w.run a).trace⟩ := by
  show Pass.run handler (a.run >>= fun r => Pass.done (Except.ok r : Result (Result α))) w = _
  rw [Pass.run_bind]
  show (⟨_, _, _ ++ []⟩ : Ran World (Result (Result α))) = _
  rw [List.append_nil]
  rfl

/-- What holds after a sequence: what holds after its second attempt, or after the first where
that one failed. -/
theorem after_bind {a : Attempt α} {f : α → Attempt β} {I : World → Prop}
    (herr : ∀ e, (w.run a).value = .error e → I (w.run a).state)
    (hok : ∀ v, (w.run a).value = .ok v → I ((w.run a).state.run (f v)).state) :
    I (w.run (a >>= f)).state := by
  rw [run_bind]
  cases h : (w.run a).value with
  | ok v => exact hok v h
  | error e => exact herr e h

/-- A sequence succeeds where both attempts do. -/
theorem value_bind {a : Attempt α} {f : α → Attempt β} {b : β}
    (h : (w.run (a >>= f)).value = .ok b) :
    ∃ v, (w.run a).value = .ok v ∧ ((w.run a).state.run (f v)).value = .ok b := by
  rw [run_bind] at h
  cases hv : (w.run a).value with
  | ok v =>
    rw [hv] at h
    exact ⟨v, rfl, h⟩
  | error e =>
    rw [hv] at h
    cases h

/-- What a sequence does: what the first attempt does, and after its success the second. -/
theorem mem_trace_bind {a : Attempt α} {f : α → Attempt β} {e : Entry} :
    e ∈ (w.run (a >>= f)).trace ↔ e ∈ (w.run a).trace ∨
      ∃ v, (w.run a).value = .ok v ∧ e ∈ ((w.run a).state.run (f v)).trace := by
  rw [run_bind]
  cases (w.run a).value with
  | ok v => simp
  | error err => simp

/-- After a call, another thing is done only where the call was answered well. -/
theorem mem_trace_call_bind {c : Call} {f : c.Answer → Attempt β} {e : Entry} :
    e ∈ (w.run (Attempt.call c >>= f)).trace ↔ e = .call c ∨
      ∃ v, (answer c w).1 = .ok v ∧ e ∈ ((answer c w).2.run (f v)).trace := by
  rw [mem_trace_bind, run_call, List.mem_singleton]

/-! ## Answers -/

theorem answer_cases (c : Call) (w : World) : ∃ faults,
    (∃ e, answer c w = (.error e, { w with faults })) ∨
    (∃ a, c.emptyAnswer? = some a ∧ answer c w = (.ok a, { w with faults })) ∨
    answer c w = perform c { w with faults } := by
  refine ⟨(Fault.decide c.name w.faults).2, ?_⟩
  unfold answer
  rcases Fault.decide c.name w.faults with ⟨_ | _ | e, faults⟩
  · exact .inr (.inr rfl)
  · dsimp only
    cases h : c.emptyAnswer? with
    | none => exact .inr (.inr rfl)
    | some a => exact .inr (.inl ⟨a, rfl, rfl⟩)
  · exact .inl ⟨e, rfl⟩

/-- A success is the empty answer or that of the store and the cluster. -/
theorem value_answer {c : Call} {a : c.Answer} (h : (answer c w).1 = .ok a) :
    c.emptyAnswer? = some a ∨ ∃ faults, (perform c { w with faults }).1 = .ok a := by
  obtain ⟨faults, ⟨e, he⟩ | ⟨b, hb, he⟩ | he⟩ := answer_cases c w <;> rw [he] at h
  · cases h
  · cases h
    exact .inl hb
  · exact .inr ⟨faults, h⟩

theorem cluster_answer_store (c : StoreCall) (w : World) :
    (answer (.store c) w).2.cluster = w.cluster := by
  obtain ⟨faults, ⟨e, he⟩ | ⟨a, ha, he⟩ | he⟩ := answer_cases (.store c) w <;> rw [he]
  cases c with
  | createVApp new =>
    show (World.performStore _ (.createVApp new)).2.cluster = _
    unfold performStore
    dsimp only
    split <;> rfl
  | createVm new =>
    show (World.performStore _ (.createVm new)).2.cluster = _
    unfold performStore
    dsimp only
    split <;> rfl
  | _ => rfl

theorem store_answer_read {c : StoreCall} (h : c.isWrite = false) (w : World) :
    (answer (.store c) w).2.store = w.store := by
  obtain ⟨faults, ⟨e, he⟩ | ⟨a, ha, he⟩ | he⟩ := answer_cases (.store c) w <;> rw [he]
  cases c <;> first | rfl | cases h

/-- No call of the cluster changes a row. -/
theorem store_performCluster (c : ClusterCall) (w : World) :
    (performCluster w c).2.store = w.store := by
  have hchange : ∀ r, (w.changeCluster r).2.store = w.store := by
    rintro (e | cluster) <;> rfl
  cases c <;> first | rfl | exact hchange _

/-- The world without faults. -/
def calm (w : World) : World := { w with faults := [] }

/-! ## Worlds to try things in -/

/-- A virtual datacenter bound to a namespace. -/
def boundVdc (id : Nat) (name n : String) (deletedAt : Option Timestamp) : Vdc where
  id := .ofNat id
  name := name
  organizationId := .ofNat 90
  ns := some n
  enabled := true
  cpuLimit := none
  memoryLimit := none
  storageLimit := none
  deletedAt := deletedAt
  createdAt := ⟨0, 0⟩
  updatedAt := ⟨0, 0⟩

end World

end TenantCloud
