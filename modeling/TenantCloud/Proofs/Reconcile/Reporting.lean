import TenantCloud.Proofs.Effect.Logs
import TenantCloud.Proofs.Reconcile.Injectivity

/-!
# Failures that are told

A call that fails in a pass for a machine is accounted for where its error is the outcome of the
pass, where a metric tells of it, or where it is a creation that another writer won and the row was
read again (`Failure.IsAccounted`). Two failures can get lost: the one of the look at the instance
where the status could not be written either, and the one of a creation that another writer won
where reading the row again fails too. There are no others (`Reconcile.failures_accounted_iff`).
-/

set_option autoImplicit false

namespace TenantCloud

/-! ## What accounts for a failure -/

namespace Call

/-- The call writes the status of a machine. -/
def IsStatusWrite : Call → Prop
  | .store (.updateVmStatus ..) => True
  | _ => False

/-- The call looks at the instance of a machine. -/
def IsInstanceLook : Call → Prop
  | .cluster (.getVirtualMachineInstance ..) => True
  | _ => False

/-- The call makes a record. -/
def IsCreation : Call → Prop
  | .store (.createVApp _) | .store (.createVm _) => True
  | _ => False

/-- The measurement tells that the call failed. -/
def IsReportedBy (c : Call) (e : Error) : Measurement → Prop
  | .statusUpdate _ outcome _ => c.IsStatusWrite ∧ outcome = .failure
  | .recordCreated _ outcome => c.IsCreation ∧ outcome = .failure
  | .reconcileError _ category => category = e.category
  | _ => False

end Call

/-- After a creation its record is read again, and the reply says whether there is one. -/
inductive Rereads : Call → Log → Result Bool → Prop
  | vapp (new : NewVApp) (r : Result (Option VApp)) (l : Log) :
      Rereads (.store (.createVApp new))
        (.reply (.store (.getVAppByName new.vdcId new.name)) r :: l) (r.map Option.isSome)
  | vmFound (new : NewVm) (row : Vm) (l : Log) :
      Rereads (.store (.createVm new))
        (.reply (.store (.getVmByNamespaceAndName new.ns new.vmName)) (.ok (some row)) :: l)
        (.ok true)
  | vmFailed (new : NewVm) (e : Error) (l : Log) :
      Rereads (.store (.createVm new))
        (.reply (.store (.getVmByNamespaceAndName new.ns new.vmName)) (.error e) :: l) (.error e)
  | vmInVApp (new : NewVm) (r : Result (Option Vm)) (l : Log) :
      Rereads (.store (.createVm new))
        (.reply (.store (.getVmByNamespaceAndName new.ns new.vmName)) (.ok none) ::
          .reply (.store (.getVmByVAppAndName new.vappId new.vmName)) r :: l)
        (r.map Option.isSome)

theorem Rereads.not_nil {c : Call} {r : Result Bool} : ¬ Rereads c [] r := nofun

theorem Rereads.append {c : Call} {l : Log} {r : Result Bool} (h : Rereads c l r) (l' : Log) :
    Rereads c (l ++ l') r := by
  cases h <;> constructor

theorem Rereads.unique {c : Call} {l : Log} {r r' : Result Bool} (h : Rereads c l r)
    (h' : Rereads c l r') : r = r' := by
  cases h <;> cases h' <;> rfl

namespace Failure

variable {f : Failure} {l : Log}

/-- A metric tells of the failure right after it. -/
def IsMeasured (f : Failure) : Prop :=
  ∃ m l, f.after = .signal (.metric m) :: l ∧ f.call.IsReportedBy f.error m

/-- The record was there already, and it was found. -/
def IsReread (f : Failure) : Prop :=
  f.error.isAlreadyExists = true ∧ Rereads f.call f.after (.ok true)

/-- The pass ends with the error, or a metric tells of it, or it is that a record was there, which
was found. -/
def IsAccounted (f : Failure) (v : Result Unit) : Prop :=
  v = .error f.error ∨ f.IsMeasured ∨ f.IsReread

/-- Nothing is left to be told. -/
def IsSettled (f : Failure) : Prop := f.IsMeasured ∨ f.IsReread

theorem IsSettled.then (h : f.IsSettled) (l : Log) : (f.then l).IsSettled := by
  rcases h with ⟨m, l', hafter, hm⟩ | ⟨he, hread⟩
  · refine .inl ⟨m, l' ++ l, ?_, hm⟩
    rw [Failure.then, hafter, List.cons_append]
  · exact .inr ⟨he, hread.append l⟩

theorem IsMeasured.not_rereads (h : f.IsMeasured) (r : Result Bool) :
    ¬ Rereads f.call f.after r := by
  obtain ⟨m, l, hafter, -⟩ := h
  rw [hafter]
  intro hread
  generalize f.call = c at hread
  cases hread

theorem IsSettled.not_rereads_error (h : f.IsSettled) (e : Error) :
    ¬ Rereads f.call f.after (.error e) := by
  rcases h with h | ⟨-, hread⟩
  · exact h.not_rereads _
  · intro hread'
    cases hread.unique hread'

/-- What becomes of a failure in an attempt with an outcome. -/
inductive Fate {α : Type} (f : Failure) (r : Result α) : Prop
  | settled : f.IsSettled → Fate f r
  | returned : r = .error f.error → (∀ e, ¬ Rereads f.call f.after (.error e)) → Fate f r
  /-- Reading the record again failed, and that is told instead. -/
  | superseded (e : Error) : f.error.isAlreadyExists = true →
      Rereads f.call f.after (.error e) → r = .error e → Fate f r

theorem Fate.isSettled {α : Type} {v : α} (h : f.Fate (.ok v : Result α)) : f.IsSettled := by
  cases h with
  | settled h => exact h
  | returned h => cases h
  | superseded e _ _ h => cases h

theorem Fate.of_error {α β : Type} {e : Error} (h : f.Fate (.error e : Result α)) :
    f.Fate (.error e : Result β) := by
  cases h with
  | settled h => exact .settled h
  | returned h hread => exact .returned (by cases h; rfl) hread
  | superseded e' he hread h => exact .superseded e' he hread (by cases h; rfl)

end Failure

/-! ## Before the row is known -/

/-- No call on the row failed, and each other failure has its fate. -/
def Reported {α : Type} (l : Log) (r : Result α) : Prop :=
  ∀ f ∈ l.failures, ¬ f.call.IsStatusWrite ∧ ¬ f.call.IsInstanceLook ∧ f.Fate r

theorem Reported.of_no_failures {α : Type} {l : Log} {r : Result α} (h : l.failures = []) :
    Reported l r := by
  intro f hf
  rw [h] at hf
  cases hf

/-- A failure is passed on. -/
theorem Reported.of_error {α β : Type} {l : Log} {e : Error}
    (h : Reported l (.error e : Result α)) : Reported l (.error e : Result β) := fun f hf =>
  ⟨(h f hf).1, (h f hf).2.1, (h f hf).2.2.of_error⟩

theorem Reported.append {α β : Type} {l l' : Log} {v : α} {r : Result β}
    (h : Reported l (.ok v : Result α)) (h' : Reported l' r) : Reported (l ++ l') r := by
  intro f hf
  rcases Log.mem_failures_append.1 hf with ⟨g, hg, rfl⟩ | hf
  · obtain ⟨hstatus, hlook, hfate⟩ := h g hg
    exact ⟨hstatus, hlook, .settled (hfate.isSettled.then l')⟩
  · exact h' f hf

/-- The failure of a creation has its fate, and so have those after it. -/
theorem Reported.creation {α : Type} {c : Call} {e : Error} {l : Log} {r : Result α}
    (hc : c.IsCreation) (h : Reported l r) (hfate : (Failure.mk c e l).Fate r) :
    Reported (.reply c (.error e) :: l) r := by
  intro f hf
  rcases List.mem_cons.1 hf with rfl | hf
  · refine ⟨?_, ?_, hfate⟩
    all_goals
      cases c with
      | cluster c => exact hc.elim
      | store c => cases c <;> first | exact hc.elim | exact id
  · exact h f hf

namespace Attempt

variable {α β : Type}

/-- Whatever fails, it is told. -/
def Reports (a : Attempt α) : Prop := a.Logs Reported

namespace Reports

theorem pure (v : α) : (Pure.pure v : Attempt α).Reports :=
  Logs.pure (.of_no_failures rfl)

theorem throw (e : Error) : (throw e : Attempt α).Reports :=
  Logs.throw (.of_no_failures rfl)

theorem measure (m : Measurement) : (Attempt.measure m).Reports :=
  Logs.measure m (.of_no_failures rfl)

theorem publish (object : ObjectReference) (event : Event) :
    (Attempt.publish object event).Reports :=
  Logs.publish object event (.of_no_failures rfl)

/-- The failure of a call is the one of the attempt. -/
theorem call {c : Call} (hstatus : ¬ c.IsStatusWrite) (hlook : ¬ c.IsInstanceLook) :
    (Attempt.call c).Reports := by
  refine Logs.call fun r f hf => ?_
  cases r with
  | ok a => cases hf
  | error e =>
    obtain rfl := List.mem_singleton.1 hf
    exact ⟨hstatus, hlook, .returned rfl nofun⟩

theorem bind {a : Attempt α} {f : α → Attempt β} (h : a.Reports) (hf : ∀ v, (f v).Reports) :
    (a >>= f).Reports := by
  refine Logs.bind (Logs.mono h fun l r hr => ⟨?_, ?_⟩)
  · rintro v rfl
    exact Logs.mono (hf v) fun l' r' hr' => hr.append hr'
  · rintro e rfl
    exact hr.of_error

/-- A call whose failure is looked at. -/
theorem tried {c : Call} {f : Result c.Answer → Attempt β} (hok : ∀ a, (f (.ok a)).Reports)
    (herror : ∀ e, (f (.error e)).Logs fun l r => Reported (.reply c (.error e) :: l) r) :
    (outcome (Attempt.call c) >>= f).Reports := by
  refine Logs.tried fun r => ?_
  cases r with
  | ok a => exact hok a
  | error e => exact herror e

/-- A creation that another writer won: its record is read again, and where it is not there the
attempt fails as the creation did. -/
theorem exists_or_throw {c : Call} {e : Error} {again : Attempt (Option α)}
    {f : Option α → Attempt β} (hc : c.IsCreation) (he : e.isAlreadyExists = true)
    (hagain : again.Logs fun l r => Reported l r ∧ Rereads c l (r.map Option.isSome))
    (hsome : ∀ a, (f (some a)).Reports) (hnone : f none = MonadExcept.throw e) :
    (again >>= f).Logs fun l r => Reported (.reply c (.error e) :: l) r := by
  refine Logs.bind (Logs.mono hagain fun l r ⟨hl, hread⟩ => ⟨?_, ?_⟩)
  · rintro (_ | a) rfl
    · rw [hnone]
      refine Logs.throw (.creation hc (hl.append (.of_no_failures rfl)) (.returned rfl ?_))
      intro e' hread'
      cases (hread.append []).unique hread'
    · refine Logs.mono (hsome a) fun l' r' hr' => ?_
      exact .creation hc (hl.append hr') (.settled (.inr ⟨he, hread.append l'⟩))
  · rintro e' rfl
    exact .creation hc hl.of_error (.superseded e' he hread rfl)

/-- A creation that failed for another reason is counted. -/
theorem counted {c : Call} {e : Error} {m : Measurement} (hc : c.IsCreation)
    (hm : c.IsReportedBy e m) :
    (do Attempt.measure m; MonadExcept.throw e : Attempt β).Logs
      fun l r => Reported (.reply c (.error e) :: l) r :=
  .creation hc (.of_no_failures rfl) (.settled (.inl ⟨m, [], rfl, hm⟩))

end Reports

end Attempt

namespace Reconcile

open Attempt

theorem deriveVAppName_reports (vm : VirtualMachine) : (deriveVAppName vm).Reports := by
  unfold deriveVAppName
  split
  · refine .bind (.call id id) fun found => ?_
    cases found with
    | none => exact .pure _
    | some ti => exact .bind (.call id id) fun _ => .bind (.publish _ _) fun _ => .pure _
  · exact .pure _

theorem ensureVApp_reports (vm : VirtualMachine) (v : Vdc) (name : String) :
    (ensureVApp vm v name).Reports := by
  have hagain : (store (.getVAppByName v.id name)).Logs fun l r => Reported l r ∧
      Rereads (.store (.createVApp (vm.newVApp v.id name))) l (r.map Option.isSome) := by
    intro r
    exact ⟨Reports.call id id r, .vapp (vm.newVApp v.id name) r []⟩
  refine .bind (.call id id) fun found => ?_
  cases found with
  | some a => exact .pure _
  | none =>
    refine .tried (fun a => .bind (.measure _) fun _ => .bind (.publish _ _) fun _ => .pure a)
      fun e => ?_
    dsimp only
    split
    · rename_i he
      exact Reports.exists_or_throw trivial he hagain (fun a => .pure a) rfl
    · exact Reports.counted trivial ⟨trivial, rfl⟩

theorem createVm_reports (vm : VirtualMachine) (a : VApp) : (createVm vm a).Reports := by
  have hagain : (rereadVm vm a).Logs fun l r => Reported l r ∧
      Rereads (.store (.createVm (vm.newVm a.id))) l (r.map Option.isSome) := by
    intro r
    rcases r with e | _ | row
    · exact ⟨Reports.call id id (.error e), .vmFailed (vm.newVm a.id) e []⟩
    · intro r
      exact ⟨Reports.call id id r, .vmInVApp (vm.newVm a.id) r []⟩
    · exact ⟨.of_no_failures rfl, .vmFound (vm.newVm a.id) row []⟩
  refine .tried (fun row => .bind (.measure _) fun _ => .bind (.publish _ _) fun _ => .pure row)
    fun e => ?_
  dsimp only
  split
  · rename_i he
    exact Reports.exists_or_throw trivial he hagain (fun row => .pure row) rfl
  · exact Reports.counted trivial ⟨trivial, rfl⟩

theorem resolve_reports (vm : VirtualMachine) : (resolve vm).Reports := by
  have hlabel : (findByLabel vm).Reports := by
    unfold findByLabel
    split
    · exact .call id id
    · exact .pure _
  have hfind : (findVm vm).Reports := by
    refine .bind hlabel fun found => ?_
    cases found with
    | some row => exact .pure _
    | none => exact .call id id
  refine .bind hfind fun found => ?_
  cases found with
  | some row => exact .pure _
  | none =>
    show (discover vm).Reports
    unfold discover
    split
    · exact .pure _
    · refine .bind (.call id id) fun v => ?_
      cases v with
      | none => exact .pure _
      | some v =>
        exact .bind (ensureVApp_reports vm v _) fun a =>
          .bind (createVm_reports vm a) fun row => .pure _

end Reconcile

/-! ## The row -/

theorem Call.IsStatusWrite.not_isInstanceLook {c : Call} (h : c.IsStatusWrite) :
    ¬ c.IsInstanceLook := by
  cases c with
  | store c => exact id
  | cluster c => exact h.elim

/-- Only the status can fail, and that is told twice. -/
structure StatusTold (l : Log) (r : Result Unit) : Prop where
  told : ∀ f ∈ l.failures, f.call.IsStatusWrite ∧ f.IsMeasured ∧ r = .error f.error
  exists_of_error : ∀ e, r = .error e → ∃ f ∈ l.failures, f.call.IsStatusWrite

/-- The look at the instance fails, which is told by the outcome alone, or the facts do. -/
def FactsTold (l : Log) (r : Result Unit) : Prop :=
  ∀ f ∈ l.failures, ¬ f.call.IsStatusWrite ∧ r = .error f.error ∧
    (f.call.IsInstanceLook ∧ f.after = [] ∨ ¬ f.call.IsInstanceLook ∧ f.IsMeasured)

/-- What is told of the failures of a pass. -/
structure Told (l : Log) (v : Result Unit) : Prop where
  status : ∀ f ∈ l.failures, f.call.IsStatusWrite → v = .error f.error
  look : ∀ f ∈ l.failures, f.call.IsInstanceLook → f.after = []
  fate : ∀ f ∈ l.failures,
    f.Fate v ∨ f.call.IsInstanceLook ∧ ∃ g ∈ l.failures, g.call.IsStatusWrite

theorem Reported.told {l : Log} {v : Result Unit} (h : Reported l v) : Told l v where
  status f hf hstatus := absurd hstatus (h f hf).1
  look f hf hlook := absurd hlook (h f hf).2.1
  fate f hf := .inl (h f hf).2.2

theorem Told.prepend {α : Type} {l l' : Log} {a : α} {v : Result Unit}
    (h : Reported l (.ok a : Result α)) (h' : Told l' v) : Told (l ++ l') v := by
  have hcases : ∀ f ∈ Log.failures (l ++ l'), f ∈ l'.failures ∨
      ¬ f.call.IsStatusWrite ∧ ¬ f.call.IsInstanceLook ∧ f.IsSettled := by
    intro f hf
    rcases Log.mem_failures_append.1 hf with ⟨g, hg, rfl⟩ | hf
    · obtain ⟨hstatus, hlook, hfate⟩ := h g hg
      exact .inr ⟨hstatus, hlook, hfate.isSettled.then l'⟩
    · exact .inl hf
  refine ⟨fun f hf hstatus => ?_, fun f hf hlook => ?_, fun f hf => ?_⟩
  · rcases hcases f hf with hf | ⟨hno, -, -⟩
    · exact h'.status f hf hstatus
    · exact absurd hstatus hno
  · rcases hcases f hf with hf | ⟨-, hno, -⟩
    · exact h'.look f hf hlook
    · exact absurd hlook hno
  · rcases hcases f hf with hf | ⟨-, -, hsettled⟩
    · refine (h'.fate f hf).imp_right fun ⟨hlook, g, hg, hstatus⟩ => ⟨hlook, g, ?_, hstatus⟩
      exact Log.mem_failures_append.2 (.inr hg)
    · exact .inl (.settled hsettled)

/-- The failure of the status counts first. -/
theorem Told.of_row {l l' : Log} {r r' : Result Unit} (h : StatusTold l r) (h' : FactsTold l' r') :
    Told (l ++ l') (r >>= fun _ => r') := by
  have hcases : ∀ f ∈ Log.failures (l ++ l'), f ∈ l'.failures ∨
      f.call.IsStatusWrite ∧ f.IsSettled ∧ r = .error f.error := by
    intro f hf
    rcases Log.mem_failures_append.1 hf with ⟨g, hg, rfl⟩ | hf
    · obtain ⟨hstatus, hmeasured, hr⟩ := h.told g hg
      exact .inr ⟨hstatus, Failure.IsSettled.then (.inl hmeasured) l', hr⟩
    · exact .inl hf
  refine ⟨fun f hf hstatus => ?_, fun f hf hlook => ?_, fun f hf => ?_⟩
  · rcases hcases f hf with hf | ⟨-, -, rfl⟩
    · exact absurd hstatus (h' f hf).1
    · rfl
  · rcases hcases f hf with hf | ⟨hstatus, -, -⟩
    · obtain ⟨-, -, ⟨-, hafter⟩ | ⟨hno, -⟩⟩ := h' f hf
      · exact hafter
      · exact absurd hlook hno
    · exact absurd hlook hstatus.not_isInstanceLook
  · rcases hcases f hf with hf | ⟨-, hsettled, -⟩
    · obtain ⟨-, hr', ⟨hlook, hafter⟩ | ⟨-, hmeasured⟩⟩ := h' f hf
      · cases r with
        | ok u =>
          exact .inl (.returned hr' fun e => hafter ▸ Rereads.not_nil)
        | error e =>
          obtain ⟨g, hg, hstatus⟩ := h.exists_of_error e rfl
          refine .inr ⟨hlook, g.then l', ?_, hstatus⟩
          exact Log.mem_failures_append.2 (.inl ⟨g, hg, rfl⟩)
      · exact .inl (.settled (.inl hmeasured))
    · exact .inl (.settled hsettled)

namespace Reconcile

open Attempt

theorem timed_logs {β : Type} {c : Call} {f : Result c.Answer × Nat → Attempt β}
    {Q : Log → Result β → Prop}
    (h : ∀ r elapsed, (f (r, elapsed)).Logs fun l r' => Q (.reply c r :: l) r') :
    (timed (Attempt.call c) >>= f).Logs Q :=
  fun started r ended => h r (ended.nanosSince started)

theorem stampVAppId_logs (vm : VirtualMachine) (row : Vm) :
    (stampVAppId vm row).Logs fun l r => Reported l r ∧ r = .ok () := by
  unfold stampVAppId
  dsimp only
  split
  · exact Logs.pure ⟨.of_no_failures rfl, rfl⟩
  · refine Logs.tried fun r => ?_
    cases r with
    | ok u => exact Logs.pure ⟨.of_no_failures rfl, rfl⟩
    | error e =>
      refine Logs.measure _ ⟨fun f hf => ?_, rfl⟩
      obtain rfl := List.mem_singleton.1 hf
      exact ⟨id, id, .settled (.inl ⟨_, [], rfl, rfl⟩)⟩

theorem vmStatus_logs (settings : Settings) (vm : VirtualMachine) (row : Vm) :
    (vmStatus settings vm row).Logs StatusTold := by
  have hquiet : ∀ {l : Log}, l.failures = [] → StatusTold l (.ok ()) := by
    intro l hl
    refine ⟨fun f hf => ?_, nofun⟩
    rw [hl] at hf
    cases hf
  refine Logs.bind (Logs.clock fun now => ⟨?_, nofun⟩)
  rintro _ ⟨⟩
  split
  · exact Logs.measure _ (hquiet rfl)
  · refine timed_logs fun r elapsed => ?_
    rcases r with e | _ | _
    · refine ⟨fun f hf => ?_, fun e' he => ?_⟩
      · obtain rfl := List.mem_singleton.1 hf
        exact ⟨trivial, ⟨_, _, rfl, trivial, rfl⟩, rfl⟩
      · exact ⟨_, List.mem_singleton.2 rfl, trivial⟩
    · exact Logs.measure _ (hquiet rfl)
    · refine Logs.bind (Logs.measure _ ⟨?_, nofun⟩)
      rintro _ -
      split
      · exact Logs.publish _ _ (hquiet rfl)
      · exact Logs.pure (hquiet rfl)

theorem vmFacts_logs (vm : VirtualMachine) (row : Vm) : (vmFacts vm row).Logs FactsTold := by
  have hquiet : ∀ {l : Log}, l.failures = [] → FactsTold l (.ok ()) := by
    intro l hl f hf
    rw [hl] at hf
    cases hf
  refine Logs.bind_call (fun vmi => ?_) fun e f hf => ?_
  · split
    · exact Logs.pure (hquiet rfl)
    · refine Logs.tried fun r => ?_
      rcases r with e | _ | _
      · intro f hf
        obtain rfl := List.mem_singleton.1 hf
        exact ⟨id, rfl, .inr ⟨id, _, _, rfl, rfl⟩⟩
      · exact Logs.measure _ (hquiet rfl)
      · exact Logs.pure (hquiet rfl)
  · obtain rfl := List.mem_singleton.1 hf
    exact ⟨id, rfl, .inl ⟨trivial, rfl⟩⟩

theorem vmRow_logs (settings : Settings) (vm : VirtualMachine) (row : Vm) :
    (vmRow settings vm row).Logs Told := by
  refine Logs.bind (Logs.mono (stampVAppId_logs vm row) fun l₁ r₁ ⟨h₁, hr₁⟩ => ⟨?_, ?_⟩)
  · rintro u rfl
    refine Logs.bind (Logs.outcome (Logs.mono (vmStatus_logs settings vm row)
      fun l₂ r₂ h₂ => ⟨?_, nofun⟩))
    rintro _ ⟨⟩
    refine Logs.bind (Logs.outcome (Logs.mono (vmFacts_logs vm row)
      fun l₃ r₃ h₃ => ⟨?_, nofun⟩))
    rintro _ ⟨⟩
    have htold : Told (l₁ ++ (l₂ ++ l₃)) (r₂ >>= fun _ => r₃) := .prepend h₁ (.of_row h₂ h₃)
    cases r₂ with
    | ok u =>
      show Told (l₁ ++ (l₂ ++ (l₃ ++ []))) r₃
      rw [List.append_nil]
      exact htold
    | error e =>
      show Told (l₁ ++ (l₂ ++ (l₃ ++ []))) (.error e)
      rw [List.append_nil]
      exact htold
  · rintro e rfl
    cases hr₁

/-- A run for a row: one of the stamp, one of the status and one of the facts, each from where the
one before it ended. -/
theorem run_vmRow (settings : Settings) (vm : VirtualMachine) (row : Vm) (w : World) :
    w.run (vmRow settings vm row) =
      let stamp := w.run (stampVAppId vm row)
      let status := stamp.state.run (vmStatus settings vm row)
      let facts := status.state.run (vmFacts vm row)
      ⟨status.value >>= fun _ => facts.value, facts.state,
        stamp.trace ++ (status.trace ++ facts.trace)⟩ := by
  have hstamp : (w.run (stampVAppId vm row)).value = .ok () :=
    ((stampVAppId_logs vm row).log World.handler w).2
  have hend : ∀ (w : World) (r r' : Result Unit),
      w.run (do ofResult r; ofResult r') = ⟨r >>= fun _ => r', w, []⟩ := by
    intro w r r'
    cases r <;> rfl
  have hvalue : ∀ (w : World) (a : Attempt Unit),
      (w.run (outcome a)).value = .ok (w.run a).value := fun w a => by rw [World.run_outcome]
  unfold vmRow
  rw [World.run_bind_of_ok hstamp, World.run_bind_of_ok (hvalue _ _),
    World.run_bind_of_ok (hvalue _ _), hend]
  simp only [World.run_outcome, List.append_nil]

/-- What is told of the failures of a pass, however its calls are answered. -/
theorem virtualMachine_logs (settings : Settings) (vm : VirtualMachine) :
    (virtualMachine settings vm).Logs Told := by
  refine Logs.bind (Logs.mono (deriveVAppName_reports vm) fun l₁ r₁ h₁ => ⟨?_, ?_⟩)
  · rintro name rfl
    refine Logs.bind (Logs.mono (resolve_reports _) fun l₂ r₂ h₂ => ⟨?_, ?_⟩)
    · rintro res rfl
      cases res with
      | resolved row created =>
        exact Logs.mono (vmRow_logs settings _ row) fun l₃ v h₃ => .prepend h₁ (.prepend h₂ h₃)
      | notManaged reason =>
        exact Logs.measure _ (.prepend h₁ (.prepend h₂ (Reported.of_no_failures rfl).told))
    · rintro e rfl
      exact .prepend h₁ h₂.of_error.told
  · rintro e rfl
    exact h₁.of_error.told

end Reconcile

/-! ## All failures -/

theorem Told.accounted_iff {l : Log} {v : Result Unit} (h : Told l v) :
    (∀ f ∈ l.failures, f.IsAccounted v) ↔
      (∀ f ∈ l.failures, ∀ g ∈ l.failures, f.call.IsStatusWrite → g.call.IsInstanceLook →
        f.error = g.error) ∧
      ∀ f ∈ l.failures, f.error.isAlreadyExists = true →
        ∀ e, Rereads f.call f.after (.error e) → e = f.error := by
  constructor
  · intro hall
    refine ⟨fun f hf g hg hstatus hlook => ?_, fun f hf he e hread => ?_⟩
    · have hv := h.status f hf hstatus
      have hafter := h.look g hg hlook
      rcases hall g hg with hret | ⟨m, l', hm, -⟩ | ⟨-, hread⟩
      · exact Except.error.inj (hv.symm.trans hret)
      · cases hafter.symm.trans hm
      · exact absurd (hafter ▸ hread) Rereads.not_nil
    · -- The failure of the second reading is the outcome, so that the first is told by it or not.
      have hv : v = .error e := by
        rcases h.fate f hf with (hsettled | ⟨-, hno⟩ | ⟨e', -, hread', hv⟩) | ⟨hlook, -⟩
        · exact absurd hread (hsettled.not_rereads_error e)
        · exact absurd hread (hno e)
        · cases hread.unique hread'
          exact hv
        · exact absurd (h.look f hf hlook ▸ hread) Rereads.not_nil
      rcases hall f hf with hret | hmeasured | ⟨-, hread'⟩
      · exact Except.error.inj (hv.symm.trans hret)
      · exact absurd hread (hmeasured.not_rereads _)
      · cases hread.unique hread'
  · rintro ⟨hlooks, hrereads⟩ f hf
    rcases h.fate f hf with (hsettled | ⟨hv, -⟩ | ⟨e, he, hread, hv⟩) | ⟨hlook, g, hg, hstatus⟩
    · exact .inr hsettled
    · exact .inl hv
    · rw [hrereads f hf he e hread] at hv
      exact .inl hv
    · have hv := h.status g hg hstatus
      rw [hlooks g hg f hf hstatus hlook] at hv
      exact .inl hv

namespace Reconcile

/-- **Which failures are accounted for.** A pass for a machine runs, and any of its calls fail. Each
failed call is accounted for exactly if the look at the instance does not fail otherwise than the
write of the status, and no creation that another writer won is followed by another failure where
the record is read again. -/
theorem failures_accounted_iff {σ : Type} (h : Handler σ) (settings : Settings)
    (vm : VirtualMachine) (s : σ) :
    let l := (virtualMachine settings vm).run.log h s
    (∀ f ∈ l.failures, f.IsAccounted ((virtualMachine settings vm).run.run h s).value) ↔
      (∀ f ∈ l.failures, ∀ g ∈ l.failures, f.call.IsStatusWrite → g.call.IsInstanceLook →
        f.error = g.error) ∧
      ∀ f ∈ l.failures, f.error.isAlreadyExists = true →
        ∀ e, Rereads f.call f.after (.error e) → e = f.error :=
  ((virtualMachine_logs settings vm).log h s).accounted_iff

/-- A machine that runs, where neither its status can be written nor its instance be seen. -/
def unwritable : World where
  store := {
    vdcs := [World.boundVdc 1 "gold" "tenant-a" none]
    vapps := [⟨.ofNat 2, "web", .ofNat 1, .deployed, "", ⟨0, 0⟩, ⟨0, 0⟩⟩]
    vms := [World.machineRow 3 2 "tenant-a" .poweredOff] }
  cluster := { vms := .single ⟨"tenant-a", "web-0"⟩ (World.stamped "tenant-a" .running) }
  ids := ⟨fun n => .ofNat (10 + n), fun n => .ofNat (20 + n), 0, 0⟩
  faults := [⟨"update_vm_status", 0, none, .fail (.database "down")⟩,
    ⟨"get_virtual_machine_instance", 0, none, .fail (.unreachable "down")⟩]
  now := ⟨0, 0⟩

/-- The pass ends with the failure of the status, and of the other nothing is told. -/
theorem failed_look_is_lost :
    let pass := (virtualMachine {} (World.stamped "tenant-a" .running)).run
    (pass.run World.handler unwritable).value = .error (.database "down") ∧
    ∃ f ∈ (pass.log World.handler unwritable).failures,
      f.call = .cluster (.getVirtualMachineInstance "tenant-a" "web-0") ∧
      f.error = .unreachable "down" ∧
      ¬ f.IsAccounted (pass.run World.handler unwritable).value := by
  refine ⟨rfl, ⟨_, _, []⟩, .tail _ (.head _), rfl, rfl, ?_⟩
  rintro (hv | ⟨m, l, hafter, -⟩ | ⟨he, -⟩)
  · cases hv
  · cases hafter
  · cases he

end Reconcile

end TenantCloud
