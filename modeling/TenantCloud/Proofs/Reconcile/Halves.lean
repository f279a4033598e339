import TenantCloud.Proofs.Effect.Pairs
import TenantCloud.Proofs.Reconcile.Freshness

/-!
# Status and facts of a machine, apart

A pass writes the status of a machine and then its facts, and neither half depends on how the other
one ends: two runs of the pass in worlds that differ in what happens to the calls of one half leave
the same of the other half (`Reconcile.halves_do_not_interfere`). Only the outcome of the pass tells
of both: the first failure counts.
-/

set_option autoImplicit false

namespace TenantCloud

/-! ## Rows but for one half -/

namespace Vm

/-- A row without its status, and without the time when that was written. -/
def withoutStatus (r : Vm) : Vm :=
  { r with
    status := ""
    updatedAt := ⟨0, 0⟩ }

/-- A row without its facts. -/
def withoutFacts (r : Vm) : Vm :=
  { r with
    cpuCount := none
    memory := none
    guestOs := none }

end Vm

namespace Table

variable {ρ : Type} [Row ρ] {t : Table ρ} {f g : ρ → ρ}

theorem has_map (hf : ∀ r, Row.rowId (f r) = Row.rowId r) (t : Table ρ) (id : Uuid) :
    has (t.map f) id = has t id := by
  rw [has_eq_isSome_get?, get?_map hf, Option.isSome_map, has_eq_isSome_get?]

/-- A change that `f` does not see. -/
theorem map_amend_of_unseen (h : ∀ r, f (g r) = f r) (t : Table ρ) (id : Uuid) :
    (amend t id g).map f = t.map f := by
  unfold amend
  rw [List.map_map]
  refine List.map_congr_left fun r _ => ?_
  show f (if _ then g r else r) = f r
  split
  · exact h r
  · rfl

/-- A change that may be made after `f` as well. -/
theorem map_amend_of_comm (hf : ∀ r, Row.rowId (f r) = Row.rowId r) (h : ∀ r, f (g r) = g (f r))
    (t : Table ρ) (id : Uuid) : (amend t id g).map f = amend (t.map f) id g := by
  unfold amend
  rw [List.map_map, List.map_map]
  refine List.map_congr_left fun r _ => ?_
  show f (if _ then g r else r) = if _ then g (f r) else f r
  rw [hf]
  split
  · exact h r
  · rfl

end Table

namespace Store

variable {f : Vm → Vm} {s s' s'' : Store}

/-- The stores are the same but for what `f` does not show of the rows of machines. -/
def SameFor (f : Vm → Vm) (s s' : Store) : Prop := s.mapVms f = s'.mapVms f

theorem SameFor.of_eq (h : s = s') : s.SameFor f s' := congrArg (mapVms · f) h

theorem SameFor.symm (h : s.SameFor f s') : s'.SameFor f s := Eq.symm h

theorem SameFor.trans (h : s.SameFor f s') (h' : s'.SameFor f s'') : s.SameFor f s'' :=
  Eq.trans h h'

/-- What `f` shows of a row is the same. -/
theorem SameFor.map_get? {γ : Type} {g : Vm → γ} (h : s.SameFor f s')
    (hf : ∀ r : Vm, (f r).id = r.id) (hg : ∀ r, g (f r) = g r) (key : Uuid) :
    (Table.get? s.vms key).map g = (Table.get? s'.vms key).map g := by
  have hshown : ∀ t : Table Vm, (Table.get? t key).map g = (Table.get? (t.map f) key).map g := by
    intro t
    rw [Table.get?_map hf, Option.map_map]
    exact congrArg (Option.map · _) (funext fun r => (hg r).symm)
  rw [hshown s.vms, hshown s'.vms]
  exact congrArg (fun s : Store => (Table.get? s.vms key).map g) h

theorem sameFor_amend {g : Vm → Vm} (h : ∀ r, f (g r) = f r) (s : Store) (id : Uuid) :
    SameFor f { s with vms := Table.amend s.vms id g } s :=
  congrArg (fun vms => ({ s with vms } : Store)) (Table.map_amend_of_unseen h s.vms id)

theorem sameFor_updateVmStatus (s : Store) (now : Timestamp) (id : Uuid) (status : String) :
    (s.updateVmStatus now id status).2.SameFor Vm.withoutStatus s := by
  refine sameFor_amend ?_ s id
  exact fun _ => rfl

theorem sameFor_updateVmData (s : Store) (id : Uuid) (facts : VmFacts) :
    (s.updateVmData id facts).2.SameFor Vm.withoutFacts s := by
  refine sameFor_amend ?_ s id
  exact fun _ => rfl

/-- Facts are written alike whatever the statuses of the rows are. -/
theorem SameFor.updateVmData (h : s.SameFor Vm.withoutStatus s') (id : Uuid) (facts : VmFacts) :
    (s.updateVmData id facts).1 = (s'.updateVmData id facts).1 ∧
      (s.updateVmData id facts).2.SameFor Vm.withoutStatus (s'.updateVmData id facts).2 := by
  have hid : ∀ r : Vm, Row.rowId r.withoutStatus = Row.rowId r := fun _ => rfl
  have hafter : ∀ s : Store, (s.updateVmData id facts).2.mapVms Vm.withoutStatus =
      ((s.mapVms Vm.withoutStatus).updateVmData id facts).2 := fun s =>
    congrArg (fun vms => { s with vms })
      (Table.map_amend_of_comm hid (g := (·.withFacts facts)) (fun _ => rfl) s.vms id)
  constructor
  · show Table.has s.vms id = Table.has s'.vms id
    rw [← Table.has_map hid, ← Table.has_map hid s'.vms]
    exact congrArg (fun s : Store => Table.has s.vms id) h
  · show mapVms _ _ = mapVms _ _
    rw [hafter, hafter]
    exact congrArg (fun s : Store => (s.updateVmData id facts).2) h

end Store

/-! ## Calls of one half -/

namespace Entry

/-- Facts of a machine are written. -/
def writesFacts : Entry → Bool
  | call (.store (.updateVmData ..)) => true
  | _ => false

end Entry

namespace Reconcile

open Attempt World

variable (settings : Settings) (vm : VirtualMachine) (row : Vm) {w w' : World}

/-- The calls that the status of a machine depends on. -/
def statusCalls : List String := ["update_vm_status"]

/-- The calls that the facts of a machine depend on. -/
def factsCalls : List String := ["get_virtual_machine_instance", "update_vm_data"]

theorem name_not_mem_of_isFinding {c : Call} (h : c.IsFinding) :
    c.name ∉ statusCalls ∧ c.name ∉ factsCalls := by
  rcases c with c | c <;> cases c <;>
    first
      | exact h.elim
      | simp [statusCalls, factsCalls, Call.name, StoreCall.name, ClusterCall.name]

theorem not_mem_statusCalls : ∀ name ∈ factsCalls, name ∉ statusCalls := by decide

theorem not_mem_factsCalls : ∀ name ∈ statusCalls, name ∉ factsCalls := by decide

theorem name_mem_of_isOfFacts {c : Call} {key : Uuid} (h : c.IsOfFacts key) :
    c.name ∈ factsCalls := by
  rcases c with c | c <;> cases c <;>
    first
      | exact h.elim
      | simp [factsCalls, Call.name, StoreCall.name, ClusterCall.name]

/-- However the status is written, the rest of the rows is the same. -/
theorem vmStatus_apart (h : w.Paired statusCalls (Store.SameFor Vm.withoutStatus) w') :
    Paired statusCalls (Store.SameFor Vm.withoutStatus)
      (w.run (vmStatus settings vm row)).state (w'.run (vmStatus settings vm row)).state := by
  refine h.run_apart (fun _ _ => .symm) (vmStatus_makes settings vm row) ?_
  rintro _ rfl
  refine ⟨.head _, fun w w' h => ⟨?_, h.cluster, h.ids, h.now, h.faults⟩⟩
  exact (w.store.sameFor_updateVmStatus w.now row.id _).trans h.store

/-- However the instance is read and the facts are written, the rest of the rows is the same. -/
theorem vmFacts_apart (h : w.Paired factsCalls (Store.SameFor Vm.withoutFacts) w') :
    Paired factsCalls (Store.SameFor Vm.withoutFacts)
      (w.run (vmFacts vm row)).state (w'.run (vmFacts vm row)).state := by
  refine h.run_apart (fun _ _ => .symm) (vmFacts_makes vm row) fun c hc =>
    ⟨name_mem_of_isOfFacts hc, fun w w' h => ?_⟩
  rcases c with c | c
  · cases c with
    | updateVmData id change =>
      refine ⟨?_, h.cluster, h.ids, h.now, h.faults⟩
      exact (w.store.sameFor_updateVmData id change).trans h.store
    | _ => exact hc.elim
  · cases c with
    | getVirtualMachineInstance ns name => exact h
    | _ => exact hc.elim

/-- The facts are written alike whatever the statuses of the rows are. -/
theorem vmFacts_matches (h : w.Paired statusCalls (Store.SameFor Vm.withoutStatus) w') :
    (w.run (vmFacts vm row)).Matches (Paired statusCalls (Store.SameFor Vm.withoutStatus))
      (w'.run (vmFacts vm row)) := by
  refine h.run (vmFacts_makes vm row) fun c hc =>
    ⟨not_mem_statusCalls _ (name_mem_of_isOfFacts hc), fun w w' h => ?_⟩
  rcases c with c | c
  · cases c with
    | updateVmData id change =>
      obtain ⟨hthere, hstore⟩ := h.store.updateVmData id change
      exact ⟨congrArg Except.ok hthere, hstore, h.cluster, h.ids, h.now, h.faults⟩
    | _ => exact hc.elim
  · cases c with
    | getVirtualMachineInstance ns name =>
      refine ⟨?_, h⟩
      show Except.ok (w.cluster.instances.get? ⟨ns, name⟩) = Except.ok (w'.cluster.instances.get? _)
      rw [h.cluster]
    | _ => exact hc.elim

/-! ## Passes -/

/-- Runs of a pass in two worlds, where those of the two halves match. -/
theorem virtualMachine_matchesOn {names : List String} {S : Store → Store → Prop}
    {p : Entry → Bool} (h : w.Paired names Eq w') (hfind : ∀ c : Call, c.IsFinding → c.name ∉ names)
    (hS : ∀ s s', s = s' → S s s')
    (hstatus : ∀ (seen : VirtualMachine) (row : Vm) {w w' : World},
      w.Paired names Eq w' →
      (w.run (vmStatus settings seen row)).MatchesOn (Paired names S) p
        (w'.run (vmStatus settings seen row)))
    (hfacts : ∀ (seen : VirtualMachine) (row : Vm) {w w' : World},
      w.Paired names S w' →
      (w.run (vmFacts seen row)).MatchesOn (Paired names S) p (w'.run (vmFacts seen row))) :
    (w.run (virtualMachine settings vm)).MatchesOn (Paired names S) p
      (w'.run (virtualMachine settings vm)) := by
  have hall : ∀ c : Call, c.IsFinding → c.name ∉ names ∧ AnswerAlike names Eq perform c :=
    fun c hc => ⟨hfind c hc, perform_alike names c⟩
  rw [← Visit.attempt_pass]
  have hfound := h.run (found_makes settings vm) hall
  refine matchesOn_bind hfound hS ?_
  rintro ⟨seen, res⟩
  cases res with
  | notManaged reason => exact ⟨rfl, hfound.state.mono hS⟩
  | resolved row created =>
    have hstamp := hfound.state.run
      ((stampVAppId_makes seen row).mono fun _ hc => hc.isFinding) hall
    obtain ⟨htrace, hstate⟩ := hstatus seen row hstamp.state
    obtain ⟨htrace', hstate'⟩ := hfacts seen row hstate
    show (World.run _ (vmRow settings seen row)).MatchesOn _ p
      (World.run _ (vmRow settings seen row))
    rw [run_vmRow, run_vmRow]
    refine ⟨?_, hstate'⟩
    simp only [List.filter_append, hstamp.trace, htrace, htrace']

/-- What becomes of the facts, however the status is written. -/
theorem virtualMachine_facts_match (h : w.Paired statusCalls Eq w') :
    (w.run (virtualMachine settings vm)).MatchesOn
      (Paired statusCalls (Store.SameFor Vm.withoutStatus)) Entry.writesFacts
      (w'.run (virtualMachine settings vm)) := by
  have hnone : ∀ (seen : VirtualMachine) (row : Vm) (w : World),
      (w.run (vmStatus settings seen row)).trace.filter Entry.writesFacts = [] := by
    intro seen row w
    refine List.filter_eq_nil_iff.2 fun e he hfacts => ?_
    cases e with
    | signal s => cases hfacts
    | call c =>
      obtain rfl := Pass.Makes.of_mem_trace (vmStatus_makes settings seen row) he
      cases hfacts
  refine virtualMachine_matchesOn settings vm h (fun c hc => (name_not_mem_of_isFinding hc).1)
    (fun _ _ => .of_eq) (fun seen row _ _ h => ⟨?_, ?_⟩) fun seen row _ _ h => ?_
  · rw [hnone, hnone]
  · exact vmStatus_apart settings seen row (h.mono fun _ _ => .of_eq)
  · have hfacts := vmFacts_matches seen row h
    exact ⟨congrArg (List.filter _) hfacts.trace, hfacts.state⟩

/-- What becomes of the status, however the instance is read and the facts are written. -/
theorem virtualMachine_status_matches (h : w.Paired factsCalls Eq w') :
    (w.run (virtualMachine settings vm)).MatchesOn
      (Paired factsCalls (Store.SameFor Vm.withoutFacts)) Entry.writesStatus
      (w'.run (virtualMachine settings vm)) := by
  have hnone : ∀ (seen : VirtualMachine) (row : Vm) (w : World),
      (w.run (vmFacts seen row)).trace.filter Entry.writesStatus = [] := fun seen row w =>
    List.filter_eq_nil_iff.2 (List.any_eq_false.1 (vmFacts_isMute seen row w).1)
  refine virtualMachine_matchesOn settings vm h (fun c hc => (name_not_mem_of_isFinding hc).2)
    (fun _ _ => .of_eq) (fun seen row _ _ h => ?_)
    fun seen row _ _ h => ⟨?_, vmFacts_apart seen row h⟩
  · have hstatus := h.run (vmStatus_makes settings seen row) fun c hc =>
      ⟨not_mem_factsCalls _ (hc ▸ .head _), perform_alike factsCalls c⟩
    exact ⟨congrArg (List.filter _) hstatus.trace, hstatus.state.mono fun _ _ => .of_eq⟩
  · rw [hnone, hnone]

end Reconcile

/-! ## Outcomes -/

/-- No call of a pass fails that the pass cannot make. -/
theorem Pass.Logs.error?_of_makes {α : Type} {p : Pass α} {P : Call → Prop} {names : List String}
    (h : p.Makes P) (hP : ∀ c, P c → c.name ∉ names) :
    p.Logs fun l _ => l.error? names = none := by
  induction p with
  | done r => rfl
  | ask c next ih =>
    intro r
    refine (ih r (h.2 r)).mono fun l _ hl => ?_
    cases r with
    | ok v => exact hl
    | error e =>
      show Log.error? names ([.reply c (.error e)] ++ l) = none
      rw [Log.error?_append, hl, Option.or_none]
      simp [Log.error?, Log.errors, Item.error?, hP c h.1]
  | tell signal next ih => exact ih h
  | clock next ih => exact fun t => ih t (h t)

namespace Reconcile

open Attempt World

variable (settings : Settings) (vm : VirtualMachine) (row : Vm) {w : World}

theorem vmStatus_outcome : (vmStatus settings vm row).Logs
    fun l r => l.outcome statusCalls = r := by
  refine Logs.bind (Logs.clock fun now => ⟨?_, nofun⟩)
  rintro _ ⟨⟩
  split
  · exact Logs.measure _ rfl
  · refine timed_logs fun r elapsed => ?_
    rcases r with e | _ | _
    · exact rfl
    · exact Logs.measure _ rfl
    · refine Logs.bind (Logs.measure _ ⟨?_, nofun⟩)
      rintro _ -
      split
      · exact Logs.publish _ _ rfl
      · exact Logs.pure rfl

theorem vmFacts_outcome : (vmFacts vm row).Logs fun l r => l.outcome factsCalls = r := by
  refine Logs.bind_call (fun vmi => ?_) fun e => rfl
  split
  · exact Logs.pure rfl
  · refine Logs.tried fun r => ?_
    rcases r with e | _ | _
    · exact rfl
    · exact Logs.measure _ rfl
    · exact Logs.pure rfl

/-- The failure of the status counts, then that of the facts. -/
def Pronounces (l : Log) (r : Result Unit) : Prop :=
  r = do
    l.outcome statusCalls
    l.outcome factsCalls

/-- What was found before has no part in it. -/
theorem Pronounces.prepend {l l' : Log} {r : Result Unit}
    (h : l.error? statusCalls = none ∧ l.error? factsCalls = none) (h' : Pronounces l' r) :
    Pronounces (l ++ l') r := by
  unfold Pronounces
  rw [Log.outcome_append_of_left h.1, Log.outcome_append_of_left h.2]
  exact h'

theorem finding_errors {α : Type} {a : Attempt α} (h : a.Makes Call.IsFinding) :
    a.Logs fun l _ => l.error? statusCalls = none ∧ l.error? factsCalls = none :=
  Logs.and (Pass.Logs.error?_of_makes h fun _ hc => (name_not_mem_of_isFinding hc).1)
    (Pass.Logs.error?_of_makes h fun _ hc => (name_not_mem_of_isFinding hc).2)

theorem vmRow_pronounces : (vmRow settings vm row).Logs Pronounces := by
  have hstamp := finding_errors ((stampVAppId_makes vm row).mono fun _ hc => hc.isFinding)
  have hstatus : (vmStatus settings vm row).Logs fun l r =>
      l.outcome statusCalls = r ∧ l.error? factsCalls = none :=
    (vmStatus_outcome settings vm row).and
      (Pass.Logs.error?_of_makes (vmStatus_makes settings vm row) fun c hc =>
        not_mem_factsCalls _ (hc ▸ .head _))
  have hfacts : (vmFacts vm row).Logs fun l r =>
      l.outcome factsCalls = r ∧ l.error? statusCalls = none :=
    (vmFacts_outcome vm row).and
      (Pass.Logs.error?_of_makes (vmFacts_makes vm row) fun c hc =>
        not_mem_statusCalls _ (name_mem_of_isOfFacts hc))
  refine Logs.bind (((stampVAppId_logs vm row).and hstamp).mono
    fun l₁ r₁ ⟨⟨_, hr₁⟩, h₁⟩ => ⟨?_, ?_⟩)
  · rintro u rfl
    refine Logs.bind (Logs.outcome (hstatus.mono fun l₂ r₂ ⟨h₂, h₂'⟩ => ⟨?_, nofun⟩))
    rintro _ ⟨⟩
    refine Logs.bind (Logs.outcome (hfacts.mono fun l₃ r₃ ⟨h₃, h₃'⟩ => ⟨?_, nofun⟩))
    rintro _ ⟨⟩
    have hboth : Pronounces (l₂ ++ l₃) (r₂ >>= fun _ => r₃) := by
      unfold Pronounces
      rw [Log.outcome_append_of_right l₂ h₃', Log.outcome_append_of_left h₂', h₂, h₃]
    have hall := hboth.prepend h₁
    cases r₂ with
    | ok u =>
      show Pronounces (l₁ ++ (l₂ ++ (l₃ ++ []))) r₃
      rw [List.append_nil]
      exact hall
    | error e =>
      show Pronounces (l₁ ++ (l₂ ++ (l₃ ++ []))) (.error e)
      rw [List.append_nil]
      exact hall
  · rintro e rfl
    cases hr₁

/-- Once the row is found, the outcome of a pass is that of its halves. -/
theorem virtualMachine_pronounces {seen : VirtualMachine}
    (h : w.Binds (.pass settings) vm seen row) :
    Pronounces ((virtualMachine settings vm).run.log handler w)
      (w.run (virtualMachine settings vm)).value := by
  obtain ⟨created, hfound⟩ := h
  rw [← Visit.attempt_pass]
  refine Yields.bind (Q := fun l r _ => Pronounces l r) ⟨fun v hv => ?_, fun e he => ?_⟩
  · obtain rfl := Except.ok.inj (hfound.symm.trans hv)
    have hnone := (finding_errors (found_makes settings vm)).log handler w
    exact .prepend hnone ((vmRow_pronounces settings seen row).log handler _)
  · cases hfound.symm.trans he

end Reconcile

namespace World

/-- The facts that a row has. -/
def factsOf? (w : World) (key : Uuid) : Option VmFacts :=
  (Table.get? w.store.vms key).map Vm.facts

end World

namespace Reconcile

open World

/-- **The halves of a pass do not interfere.** A pass is made for a machine that is resolved to a
row. However the write of the status ends, the facts of the rows and what is written of them are the
same. However the look at the instance and the write of the facts end, the statuses are the same.
The pass returns the failure of the status, or else that of the facts, or else a success. -/
theorem halves_do_not_interfere (settings : Settings) {vm seen : VirtualMachine} {row : Vm}
    {w : World} (h : w.Binds (.pass settings) vm seen row) :
    let pass := virtualMachine settings vm
    let ran := fun faults => World.run { w with faults } pass
    let l := pass.run.log handler w
    (∀ faults, Fault.AgreeBut statusCalls w.faults faults →
      (ran w.faults).trace.filter Entry.writesFacts =
          (ran faults).trace.filter Entry.writesFacts ∧
        ∀ key, (ran w.faults).state.factsOf? key = (ran faults).state.factsOf? key) ∧
    (∀ faults, Fault.AgreeBut factsCalls w.faults faults →
      (ran w.faults).trace.filter Entry.writesStatus =
          (ran faults).trace.filter Entry.writesStatus ∧
        ∀ key, (ran w.faults).state.statusOf? key = (ran faults).state.statusOf? key) ∧
    (ran w.faults).value = (do l.outcome statusCalls; l.outcome factsCalls) := by
  refine ⟨fun faults hfaults => ?_, fun faults hfaults => ?_,
    virtualMachine_pronounces settings vm row h⟩
  · have hmatch := virtualMachine_facts_match settings vm (Paired.of_faults hfaults)
    exact ⟨hmatch.trace, hmatch.state.store.map_get? (fun _ => rfl) fun _ => rfl⟩
  · have hmatch := virtualMachine_status_matches settings vm (Paired.of_faults hfaults)
    exact ⟨hmatch.trace, hmatch.state.store.map_get? (fun _ => rfl) fun _ => rfl⟩

/-- A machine that runs, with a memory and a status that its row does not tell. -/
def resized : World := Episode.showing
  { phase := none
    cpuTopology := none
    memory := some ⟨some "2Gi", none⟩
    guestOs := none } Occasion.started.world

/-- The facts are written though the status is not, and the other way round. -/
theorem resized_halves_do_not_interfere :
    let pass := virtualMachine {} (World.stamped "tenant-a" .running)
    let noStatus : List Fault := [⟨"update_vm_status", 0, none, .miss⟩]
    let noFacts : List Fault := [⟨"update_vm_data", 0, none, .fail (.database "down")⟩]
    let after := fun faults => (World.run { resized with faults } pass).state
    (after noStatus).factsOf? (.ofNat 3) = some ⟨none, some 2048, some "Unknown"⟩ ∧
      (after noFacts).statusOf? (.ofNat 3) = some ("POWERED_ON", ⟨0, 0⟩) ∧
      (resized.run pass).value = .ok () := by
  intro pass noStatus noFacts after
  have hbinds : resized.Binds (.pass {}) (World.stamped "tenant-a" .running)
      (World.stamped "tenant-a" .running) (World.machineRow 3 2 "tenant-a" .poweredOff) :=
    ⟨false, by decide⟩
  obtain ⟨hfacts, hstatus, hvalue⟩ := halves_do_not_interfere {} hbinds
  refine ⟨?_, ?_, hvalue.trans (by decide)⟩
  · have hagree : Fault.AgreeBut statusCalls resized.faults noStatus :=
      .of_names (by decide) (by decide)
    exact ((hfacts noStatus hagree).2 (.ofNat 3)).symm.trans (by decide)
  · have hagree : Fault.AgreeBut factsCalls resized.faults noFacts :=
      .of_names (by decide) (by decide)
    exact ((hstatus noFacts hagree).2 (.ofNat 3)).symm.trans (by decide)

end Reconcile

end TenantCloud
