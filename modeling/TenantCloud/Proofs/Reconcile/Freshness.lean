import TenantCloud.Proofs.Reconcile.Honesty
import TenantCloud.Proofs.Reconcile.Retention

/-!
# How often a status is written

Passes for a machine whose status stays the same write it to the row only where the last write is as
long ago as the staleness window, whatever else happens to the row. Which of them write is told by
their times alone (`Timestamp.throttle`), and no two writes are closer than a window
(`Timestamp.count_throttle_le`). So the writes are few, and after a pass the row is never as old as
the window (`Occasion.status_writes_are_limited`).
-/

set_option autoImplicit false

namespace TenantCloud

/-! ## A limit in time -/

namespace Timestamp

/-- At which of some times something is done that is to wait for `window` nanoseconds after it was
done the last time. -/
def throttle (window : Nat) : Option Timestamp → List Timestamp → List Bool
  | _, [] => []
  | last, t :: ts =>
    if last.any fun s => t.nanosSince s < window then false :: throttle window last ts
    else true :: throttle window (some t) ts

variable {window : Nat} {s e : Timestamp} {ts : List Timestamp}

@[simp] theorem nanosSince_self (t : Timestamp) : t.nanosSince t = 0 := by
  rw [nanosSince, Int.sub_self]
  rfl

theorem throttle_of_early {t : Timestamp} (h : t.nanosSince s < window) :
    throttle window (some s) (t :: ts) = false :: throttle window (some s) ts :=
  if_pos (decide_eq_true h)

theorem throttle_of_due {last : Option Timestamp} {t : Timestamp}
    (h : ∀ s, last = some s → window ≤ t.nanosSince s) :
    throttle window last (t :: ts) = true :: throttle window (some t) ts := by
  refine if_neg ?_
  cases last with
  | none => exact Bool.false_ne_true
  | some s => simpa using h s rfl

/-- Between one time and another there is room for as many windows as things are done. -/
theorem count_throttle_mul_le (hwindow : 0 < window) (hend : ∀ t ∈ ts, t.toNanos ≤ e.toNanos) :
    (throttle window (some s) ts).count true * window ≤ e.nanosSince s := by
  induction ts generalizing s with
  | nil => simp [throttle]
  | cons t ts ih =>
    obtain ⟨ht, hrest⟩ := List.forall_mem_cons.1 hend
    unfold throttle
    split
    · rw [List.count_cons_of_ne (by decide)]
      exact ih hrest
    · rename_i hdue
      -- What is left of the time begins with `t`, a window after `s` at the earliest.
      have hafter := ih (s := t) hrest
      have hdue' : window ≤ t.nanosSince s := by simpa using hdue
      rw [List.count_cons_self, Nat.succ_mul]
      unfold nanosSince at hafter hdue' ⊢
      omega

theorem count_throttle_le (hwindow : 0 < window) (last : Option Timestamp)
    (hstart : ∀ t ∈ ts, s.toNanos ≤ t.toNanos) (hend : ∀ t ∈ ts, t.toNanos ≤ e.toNanos) :
    (throttle window last ts).count true ≤ 1 + e.nanosSince s / window := by
  induction ts with
  | nil => simp [throttle]
  | cons t ts ih =>
    obtain ⟨hs, hstart⟩ := List.forall_mem_cons.1 hstart
    obtain ⟨-, hend⟩ := List.forall_mem_cons.1 hend
    unfold throttle
    split
    · rw [List.count_cons_of_ne (by decide)]
      exact ih hstart hend
    · have hafter := count_throttle_mul_le (s := t) hwindow hend
      have hlater : e.nanosSince t ≤ e.nanosSince s := by
        unfold nanosSince
        omega
      rw [List.count_cons_self, Nat.add_comm]
      exact Nat.add_le_add_left ((Nat.le_div_iff_mul_le hwindow).2 (hafter.trans hlater)) 1

end Timestamp

/-! ## What a pass says of statuses -/

namespace Entry

/-- The status of a machine is written. -/
def writesStatus : Entry → Bool
  | call (.store (.updateVmStatus ..)) => true
  | _ => false

/-- Readers are told that the status of a machine has changed. -/
def tellsChange : Entry → Bool
  | signal (.event _ e) => e.reason == "StatusChanged"
  | _ => false

end Entry

/-- The call writes a status. -/
def Call.WritesStatus : Call → Prop
  | .store (.updateVmStatus ..) | .store (.updateVAppStatus ..) => True
  | _ => False

/-- No status of a machine is written, and none is told to have changed. -/
def Trace.IsMute (t : Trace) : Prop :=
  t.any Entry.writesStatus = false ∧ t.any Entry.tellsChange = false

theorem Trace.IsMute.append {t t' : Trace} (h : Trace.IsMute t) (h' : Trace.IsMute t') :
    Trace.IsMute (t ++ t') := by
  refine ⟨?_, ?_⟩
  · rw [List.any_append, h.1, h'.1]
    rfl
  · rw [List.any_append, h.2, h'.2]
    rfl

/-- An honest attempt that writes no status tells of none. -/
theorem Attempt.Honest.isMute {α : Type} {a : Attempt α} (h : a.Honest)
    (hmakes : a.Makes fun c => ¬ c.WritesStatus) (w : World) : Trace.IsMute (w.run a).trace := by
  have hcall : ∀ c, Entry.call c ∈ (w.run a).trace → ¬ c.WritesStatus := fun c hc =>
    Pass.Makes.of_mem_trace hmakes hc
  refine ⟨List.any_eq_false.2 fun e he hwrites => ?_, List.any_eq_false.2 fun e he htells => ?_⟩
  · cases e with
    | signal s => cases hwrites
    | call c =>
      refine hcall c he ?_
      cases c with
      | cluster c => cases hwrites
      | store c => cases c <;> trivial
  · have htrace : (w.run a).trace = (a.run.log World.handler w).map Item.entry :=
      (Pass.map_entry_log _ _ _).symm
    rw [htrace] at he hcall
    obtain ⟨i, hi, rfl⟩ := List.mem_map.1 he
    have htold : i.TellsSuccess := by
      cases i with
      | reply c r => cases htells
      | signal s =>
        cases s with
        | metric m => cases htells
        | event object event => exact .inl (beq_iff_eq.1 htells)
    obtain ⟨before, after, hlog⟩ := List.append_of_mem hi
    have hhonest : (a.run.log World.handler w).IsHonest := Pass.Logs.log h _ _
    obtain ⟨u, hu, hupdated⟩ := hhonest before i after hlog htold
    have hmem : u ∈ a.run.log World.handler w := hlog ▸ List.mem_append_left _ hu
    cases u with
    | signal s => cases hupdated
    | reply c r =>
      refine hcall c (List.mem_map_of_mem hmem) ?_
      cases c with
      | cluster c => cases hupdated
      | store c => cases c <;> trivial

/-! ## The row of a machine -/

/-- Since the world `w` no row of a machine was made or changed. -/
structure World.Unmade (w w' : World) : Prop where
  faults : w'.faults = []
  now : w'.now = w.now
  vms : w'.store.vms = w.store.vms
  nextVm : w'.ids.nextVm = w.ids.nextVm

/-- The row was there, or it was made for a machine with a status. -/
inductive World.Obtains (w : World) (status : VmStatus) (row : Vm) (w' : World) : Prop
  | there : row ∈ w.store.vms → w'.store.vms = w.store.vms → Obtains w status row w'
  | made : (∀ r ∈ w.store.vms, r.id ≠ row.id) → row.status = status.word →
      row.updatedAt = w.now → w'.store.vms = w.store.vms ++ [row] → Obtains w status row w'

namespace World.Unmade

variable {w w' : World}

theorem refl (hw : w.faults = []) : w.Unmade w := ⟨hw, rfl, rfl, rfl⟩

theorem drawsNewVm (h : w.Unmade w') (hnew : w.DrawsNewVm) : w'.DrawsNewVm := by
  unfold DrawsNewVm
  rw [h.vms, h.nextVm]
  exact hnew

theorem labelling {c : Call} (hc : c.IsLabelling) (h : w.Unmade w') :
    w.Unmade (answer c w').2 := by
  obtain ⟨cl, hcl⟩ := answer_cluster h.faults hc.isCluster
  rw [hcl]
  exact ⟨h.faults, h.now, h.vms, h.nextVm⟩

theorem ofVApp {c : Call} (hc : c.IsOfVApp) (h : w.Unmade w') : w.Unmade (answer c w').2 := by
  rw [answer_of_calm h.faults]
  cases c with
  | cluster c => exact hc.elim
  | store c =>
    cases c with
    | getVAppByName vdcId name => exact h
    | createVApp new =>
      show w.Unmade (w'.performStore (.createVApp new)).2
      simp only [performStore, Store.createVApp]
      split
      · rename_i hmade
        split at hmade <;> cases hmade
        exact ⟨h.faults, h.now, h.vms, h.nextVm⟩
      · exact h
    | _ => exact hc.elim

end World.Unmade

namespace Reconcile

open Attempt World

variable {w w' : World} {vm : VirtualMachine}

theorem rereadVm_grants (h : w.Unmade w') (a : VApp) :
    w'.Grants (fun found w'' => w''.store.vms = w.store.vms ∧
      ∀ row, found = some row → row ∈ w.store.vms) (rereadVm vm a) := by
  refine .bind (.call (c := .store (.getVmByNamespaceAndName vm.ns vm.name)) h.faults ?_)
  rintro _ ⟨⟩
  cases hat : w'.store.vmAt? vm.ns vm.name with
  | some row =>
    refine .pure ⟨h.vms, ?_⟩
    rintro _ ⟨⟩
    exact h.vms ▸ (Store.vmAt?_eq_some hat).1
  | none =>
    refine .call (c := .store (.getVmByVAppAndName a.id vm.name)) h.faults
      fun found hfound => ⟨h.vms, fun row hrow => ?_⟩
    rw [hrow] at hfound
    exact h.vms ▸ (Store.vmIn?_eq_some (Except.ok.inj hfound)).1

theorem createVm_grants (h : w.Unmade w') (hnew : w.DrawsNewVm) (a : VApp) :
    w'.Grants (fun row w'' => w.Obtains vm.desiredStatus row w'') (createVm vm a) := by
  refine .bind (.tried (c := .store (.createVm (vm.newVm a.id))) h.faults ?_)
  obtain ⟨hsame, e, he⟩ | hmade := perform_createVm_cases (h.drawsNewVm hnew) (vm.newVm a.id)
  · rw [he, hsame]
    dsimp only
    split
    · refine .bind ((rereadVm_grants h a).mono fun found w'' ⟨hvms, hmem⟩ => ?_)
      cases found with
      | some row => exact .pure (.there (hmem row rfl) hvms)
      | none => exact .throw e
    · exact .bind (.measure _ (.throw e))
  · rw [hmade]
    refine .bind (.measure _ (.bind (.publish _ _ (.pure (.made ?_ rfl h.now ?_)))))
    · rw [← h.vms]
      exact h.drawsNewVm hnew
    · rw [← h.vms]
      rfl

theorem resolve_grants (h : w.Unmade w') (hnew : w.DrawsNewVm) :
    w'.Grants (fun res w'' => ∀ row created, res = .resolved row created →
      w.Obtains vm.desiredStatus row w'') (resolve vm) := by
  obtain ⟨t, hfind⟩ := findVm_does h.faults vm
  refine .bind (.of_does hfind ?_)
  cases hknown : w'.store.knownRow? vm with
  | some r =>
    refine .pure ?_
    rintro row created ⟨⟩
    have hrow : w'.store.rowOf? vm = some r := by rw [Store.rowOf?, hknown, Option.some_or]
    exact .there (h.vms ▸ (Store.rowOf?_cases hrow).1) h.vms
  | none =>
    show w'.Grants _ (discover vm)
    unfold discover
    split
    · refine .pure ?_
      rintro _ _ ⟨⟩
    · refine .bind (.call (c := .store (.getVdcByNamespace vm.ns)) h.faults ?_)
      rintro _ ⟨⟩
      split
      · refine .pure ?_
        rintro _ _ ⟨⟩
      · refine .bind (.mono (.of_makes (ensureVApp_makes vm _ _)
          (fun c _ hc hI => World.Unmade.ofVApp hc hI) h) fun a w₁ h₁ => ?_)
        refine .bind ((createVm_grants h₁ hnew a).mono fun row w₂ hrow => .pure ?_)
        rintro _ _ ⟨⟩
        exact hrow

/-- What a pass finds on the way to the row. -/
theorem found_grants (hw : w.faults = []) (hnew : w.DrawsNewVm) (settings : Settings)
    (vm : VirtualMachine) :
    w.Grants (fun found w' => found.1.desiredStatus = vm.desiredStatus ∧
      ∀ row created, found.2 = .resolved row created → w.Obtains vm.desiredStatus row w')
      ((Visit.pass settings).found vm) := by
  have hstatus : ∀ name, (withVAppName vm name).desiredStatus = vm.desiredStatus := by
    rintro (_ | name) <;> rfl
  refine .bind (.bind (.mono (.of_makes (deriveVAppName_makes vm)
    (fun c _ hc hI => World.Unmade.labelling hc hI) (.refl hw)) fun name w₁ h₁ => .pure ?_))
  refine .bind ((resolve_grants h₁ hnew).mono fun res w₂ hres => .pure ⟨hstatus name, ?_⟩)
  rw [← hstatus name]
  exact hres

end Reconcile

/-! ## Status and facts of a row -/

namespace World

variable {w : World} {row : Vm} {key : Uuid}

/-- The status that a row has, and when it was written. -/
def statusOf? (w : World) (key : Uuid) : Option (String × Timestamp) :=
  (Table.get? w.store.vms key).map fun r => (r.status, r.updatedAt)

theorem statusOf?_of_get? (h : Table.get? w.store.vms key = some row) :
    w.statusOf? key = some (row.status, row.updatedAt) := by
  rw [statusOf?, h]
  rfl

/-- Facts are written without a change of the status, or of its time. -/
theorem statusOf?_run_vmFacts (hw : w.faults = []) (vm : VirtualMachine) (row : Vm) (key : Uuid) :
    (w.run (Reconcile.vmFacts vm row)).state.statusOf? key = w.statusOf? key := by
  let I : World → Prop := fun w' => w'.faults = [] ∧ w'.statusOf? key = w.statusOf? key
  refine (Pass.Makes.keeps (I := I) (Reconcile.vmFacts_makes vm row) ?_ ⟨hw, rfl⟩).2
  rintro c w' hc ⟨hw', hsame⟩
  show (answer c w').2.faults = [] ∧ (answer c w').2.statusOf? key = w.statusOf? key
  rw [answer_of_calm hw', ← hsame, faults_perform]
  refine ⟨hw', ?_⟩
  cases c with
  | cluster c =>
    cases c with
    | getVirtualMachineInstance ns name => rfl
    | _ => exact hc.elim
  | store c =>
    cases c with
    | updateVmData id change =>
      show (Table.get? (Table.amend w'.store.vms id (·.withFacts change)) key).map _ = _
      rw [Table.get?_amend (f := fun r : Vm => r.withFacts change) fun _ => rfl, Option.map_map,
        statusOf?]
      refine congrArg (Option.map · _) (funext fun r => ?_)
      show (Vm.status (if _ then _ else _), Vm.updatedAt (if _ then _ else _)) = _
      split <;> rfl
    | _ => exact hc.elim

end World

namespace Reconcile

open Attempt World

variable {w : World}

theorem found_makes (settings : Settings) (vm : VirtualMachine) :
    ((Visit.pass settings).found vm).Makes Call.IsFinding :=
  .bind (.bind ((deriveVAppName_makes vm).mono fun _ hc => hc.isFinding) fun _ => .pure _)
    fun _ => .bind (resolve_makes _) fun _ => .pure _

theorem found_isMute (settings : Settings) (vm : VirtualMachine) (w : World) :
    Trace.IsMute (w.run ((Visit.pass settings).found vm)).trace := by
  have hhonest : ((Visit.pass settings).found vm).Honest :=
    .bind (.bind (deriveVAppName_honest vm) fun _ => .pure _) fun _ =>
      .bind (resolve_honest _) fun _ => .pure _
  refine hhonest.isMute ((found_makes settings vm).mono ?_) w
  rintro (c | c) hc
  · cases c <;> first | exact hc.elim | exact id
  · exact id

theorem stampVAppId_isMute (vm : VirtualMachine) (row : Vm) (w : World) :
    Trace.IsMute (w.run (stampVAppId vm row)).trace := by
  refine (stampVAppId_honest vm row).isMute ((stampVAppId_makes vm row).mono ?_) w
  rintro (c | c) hc
  · exact hc.elim
  · exact id

theorem vmFacts_isMute (vm : VirtualMachine) (row : Vm) (w : World) :
    Trace.IsMute (w.run (vmFacts vm row)).trace := by
  refine (vmFacts_honest vm row).isMute ((vmFacts_makes vm row).mono ?_) w
  rintro (c | c) hc
  · cases c <;> first | exact hc.elim | exact id
  · exact id

/-- The status is written where the row does not have it, or has had it for too long. -/
theorem vmStatus_does (settings : Settings) (vm : VirtualMachine) {row : Vm} (hw : w.faults = [])
    (hrow : Table.get? w.store.vms row.id = some row) :
    ∃ w' t, w.Does (vmStatus settings vm row) () w' t ∧
      if row.status = vm.desiredStatus.word ∧ row.isFresh w.now settings.staleness = true then
        w' = w ∧ Trace.IsMute t
      else
        w'.store = (w.store.updateVmStatus w.now row.id vm.desiredStatus.word).2 ∧
          t.any Entry.writesStatus = true ∧
          (t.any Entry.tellsChange = true → row.status ≠ vm.desiredStatus.word) := by
  have hclock : w.Does Attempt.clock w.now w [] := rfl
  by_cases hfresh : row.status = vm.desiredStatus.word ∧
      row.isFresh w.now settings.staleness = true
  · refine ⟨w, _, hclock.bind (.ite_pos hfresh (.measure w _)), ?_⟩
    rw [if_pos hfresh]
    exact ⟨rfl, rfl, rfl⟩
  · have hthere : Table.has w.store.vms row.id = true := by
      rw [Table.has_eq_isSome_get?, hrow]
      rfl
    let w' := w.setStore (w.store.updateVmStatus w.now row.id vm.desiredStatus.word).2
    have hwrite : w.Does (outcome (store (.updateVmStatus row.id vm.desiredStatus.word)))
        (.ok true) w' [.call (.store (.updateVmStatus row.id vm.desiredStatus.word))] :=
      .tried hw (congrArg (fun b => (Except.ok b, w')) hthere)
    have hclock' : w'.Does Attempt.clock w'.now w' [] := rfl
    have htimed : w.Does (timed (store (.updateVmStatus row.id vm.desiredStatus.word)))
        (.ok true, w'.now.nanosSince w.now) w' _ :=
      hclock.bind (hwrite.bind (hclock'.bind (.pure w' _)))
    by_cases hsame : row.status = vm.desiredStatus.word
    · refine ⟨w', _, hclock.bind (.ite_neg hfresh (htimed.bind ((Does.measure w' _).bind
        (.ite_neg (not_not.2 hsame) (.pure w' ()))))), ?_⟩
      rw [if_neg hfresh]
      exact ⟨rfl, rfl, nofun⟩
    · refine ⟨w', _, hclock.bind (.ite_neg hfresh (htimed.bind ((Does.measure w' _).bind
        (.ite_pos hsame (.publish w' _ _))))), ?_⟩
      rw [if_neg hfresh]
      exact ⟨rfl, rfl, fun _ => hsame⟩

/-- What is written and told of the status of a row, and what the row holds of it afterwards. -/
theorem vmRow_writes (settings : Settings) (vm : VirtualMachine) {row : Vm} (hw : w.faults = [])
    (hrow : Table.get? w.store.vms row.id = some row) :
    let ran := w.run (vmRow settings vm row)
    if row.status = vm.desiredStatus.word ∧ row.isFresh w.now settings.staleness = true then
      ran.state.statusOf? row.id = some (row.status, row.updatedAt) ∧ Trace.IsMute ran.trace
    else
      ran.state.statusOf? row.id = some (vm.desiredStatus.word, w.now) ∧
        ran.trace.any Entry.writesStatus = true ∧
        (ran.trace.any Entry.tellsChange = true → row.status ≠ vm.desiredStatus.word) := by
  obtain ⟨cl, hstamp⟩ := run_of_isCluster hw
    ((stampVAppId_makes vm row).mono fun _ hc => hc.isCluster)
  obtain ⟨w', t, hdoes, hstatus⟩ := vmStatus_does (w := w.setCluster cl) settings vm hw hrow
  have hcalm : w'.faults = [] := by
    have hcalm := (run_calm (w := w.setCluster cl) hw (vmStatus settings vm row)).1
    rw [hdoes] at hcalm
    exact hcalm
  have hstamped := stampVAppId_isMute vm row w
  have hfacts := vmFacts_isMute vm row w'
  rw [run_vmRow]
  dsimp only
  rw [hstamp, hdoes]
  dsimp only
  rw [statusOf?_run_vmFacts hcalm]
  change if row.status = vm.desiredStatus.word ∧ row.isFresh w.now settings.staleness = true
    then _ else _ at hstatus
  split at hstatus
  · rename_i hfresh
    obtain ⟨rfl, hmute⟩ := hstatus
    rw [if_pos hfresh]
    exact ⟨statusOf?_of_get? hrow, hstamped.append (hmute.append hfacts)⟩
  · rename_i hdue
    obtain ⟨hstore, hwrites, htells⟩ := hstatus
    rw [if_neg hdue]
    refine ⟨?_, ?_, fun htold => htells ?_⟩
    · let renewed : Vm → Vm := fun r =>
        { r with
          status := vm.desiredStatus.word
          updatedAt := w.now }
      have hrenewed : Table.get? w'.store.vms row.id = some (renewed row) := by
        rw [hstore]
        show Table.get? (Table.amend w.store.vms row.id renewed) row.id = _
        rw [Table.get?_amend (f := renewed) fun _ => rfl, hrow]
        exact congrArg some (if_pos (beq_iff_eq.2 rfl))
      exact statusOf?_of_get? hrenewed
    · simp [hwrites]
    · simpa [hstamped.2, hfacts.2] using htold

end Reconcile

namespace World

variable {w w' : World} {status : VmStatus} {row : Vm} {key : Uuid}

/-- When a row got a status, if it has it. One that is not there yet will get it when it is made. -/
def lastWritten? (w : World) (key : Uuid) (status : VmStatus) : Option Timestamp :=
  match w.statusOf? key with
  | none => some w.now
  | some (held, t) => if held = status.word then some t else none

/-- The row that was obtained is in the table. -/
theorem Obtains.get? (h : w.Obtains status row w') (hid : w.store.vms.Distinct Vm.id) :
    Table.get? w'.store.vms row.id = some row := by
  cases h with
  | there hmem hvms =>
    rw [hvms]
    exact hid.find? hmem fun a => beq_iff_eq
  | made hnew _ _ hvms =>
    have hnone : Table.get? w.store.vms row.id = none :=
      List.find?_eq_none.2 fun r hr he => hnew r hr (beq_iff_eq.1 he)
    rw [hvms, Table.get?_concat, hnone, Option.none_or]
    exact if_pos rfl

theorem Obtains.lastWritten? (h : w.Obtains status row w') (hid : w.store.vms.Distinct Vm.id) :
    w.lastWritten? row.id status =
      if row.status = status.word then some row.updatedAt else none := by
  cases h with
  | there hmem hvms =>
    have hget : Table.get? w.store.vms row.id = some row := hid.find? hmem fun a => beq_iff_eq
    rw [World.lastWritten?, statusOf?_of_get? hget]
  | made hnew hstatus hnow hvms =>
    have hnone : Table.get? w.store.vms row.id = none :=
      List.find?_eq_none.2 fun r hr he => hnew r hr (beq_iff_eq.1 he)
    rw [World.lastWritten?, statusOf?, hnone, if_pos hstatus, hnow]
    rfl

end World

/-! ## Passes one after the other -/

/-- A machine, and the world in which a pass for it starts. -/
structure Occasion where
  world : World
  vm : VirtualMachine

namespace Occasion

variable {settings : Settings} {key : Uuid} {status : VmStatus} {p q : Occasion}
  {ps : List Occasion}

/-- When the pass is made. -/
def time (p : Occasion) : Timestamp := p.world.now

/-- The pass. -/
def ran (settings : Settings) (p : Occasion) : Ran World (Result Unit) :=
  p.world.run (Reconcile.virtualMachine settings p.vm)

/-- The pass writes the status of the machine. -/
def writes (settings : Settings) (p : Occasion) : Bool :=
  (p.ran settings).trace.any Entry.writesStatus

/-- The pass tells readers that the status has changed. -/
def tells (settings : Settings) (p : Occasion) : Bool :=
  (p.ran settings).trace.any Entry.tellsChange

/-- No call of the pass fails, the machine has a status, and it is resolved to the row with an
identity. Identities are distinct, and the one that a row would get next is new. -/
structure IsSteady (settings : Settings) (key : Uuid) (status : VmStatus) (p : Occasion) :
    Prop where
  faults : p.world.faults = []
  ids : p.world.store.vms.Distinct Vm.id
  drawsNew : p.world.DrawsNewVm
  desired : p.vm.desiredStatus = status
  binds : ∃ seen row, p.world.Binds (.pass settings) p.vm seen row ∧ row.id = key

/-- The second pass is not made before the first, and nobody has written the status of the row
since. All else may be another in the meantime. -/
structure Follows (settings : Settings) (key : Uuid) (p q : Occasion) : Prop where
  time : p.time.toNanos ≤ q.time.toNanos
  held : q.world.statusOf? key = (p.ran settings).state.statusOf? key

/-- A staleness window, in nanoseconds. -/
def window (settings : Settings) : Nat := settings.staleness * Timestamp.billion

theorem window_pos (h : 0 < settings.staleness) : 0 < window settings :=
  Nat.mul_pos h (by decide)

/-- What a pass writes and tells of the status, by the row that it comes upon. -/
theorem IsSteady.exists_row (h : p.IsSteady settings key status) : ∃ row : Vm,
    (p.world.lastWritten? key status =
      if row.status = status.word then some row.updatedAt else none) ∧
    if row.status = status.word ∧ row.isFresh p.time settings.staleness = true then
      (p.ran settings).state.statusOf? key = some (row.status, row.updatedAt) ∧
        p.writes settings = false ∧ p.tells settings = false
    else
      (p.ran settings).state.statusOf? key = some (status.word, p.time) ∧
        p.writes settings = true ∧ (p.tells settings = true → row.status ≠ status.word) := by
  obtain ⟨seen, row, ⟨created, hfound⟩, rfl⟩ := h.binds
  obtain ⟨hseen, hobtains⟩ := Reconcile.found_grants h.faults h.drawsNew settings p.vm _ hfound
  replace hobtains := hobtains row created rfl
  rw [h.desired] at hseen hobtains
  have hmute := Reconcile.found_isMute settings p.vm p.world
  obtain ⟨hcalm, hnow⟩ := World.run_calm h.faults ((Visit.pass settings).found p.vm)
  have hrow := Reconcile.vmRow_writes settings seen hcalm (hobtains.get? h.ids)
  rw [hseen, hnow] at hrow
  have hran : p.ran settings =
      let found := p.world.run ((Visit.pass settings).found p.vm)
      let r := found.state.run (Reconcile.vmRow settings seen row)
      ⟨r.value, r.state, found.trace ++ r.trace⟩ :=
    (congrArg p.world.run (Visit.attempt_pass settings p.vm)).symm.trans
      (World.run_bind_of_ok hfound _)
  refine ⟨row, hobtains.lastWritten? h.ids, ?_⟩
  unfold writes tells
  rw [hran]
  simp only [List.any_append, hmute.1, hmute.2, Bool.false_or]
  exact hrow

/-- One pass: whether it writes depends on the time of the last write, and the row has the status
afterwards, since that write or this one. -/
theorem IsSteady.pass (h : p.IsSteady settings key status) :
    ∃ t, (p.ran settings).state.statusOf? key = some (status.word, t) ∧
      (∀ ts, Timestamp.throttle (window settings) (p.world.lastWritten? key status) (p.time :: ts) =
        p.writes settings :: Timestamp.throttle (window settings) (some t) ts) ∧
      (p.tells settings = true → p.world.lastWritten? key status = none) ∧
      (0 < settings.staleness → p.time.nanosSince t < window settings) := by
  obtain ⟨row, hlast, hrow⟩ := h.exists_row
  rw [hlast]
  split at hrow
  · rename_i hquiet
    obtain ⟨hsame, hfresh⟩ := hquiet
    obtain ⟨hheld, hwrites, htells⟩ := hrow
    rw [Vm.isFresh, decide_eq_true_iff] at hfresh
    change p.time.nanosSince row.updatedAt < window settings at hfresh
    refine ⟨row.updatedAt, hsame ▸ hheld, fun ts => ?_, fun htold => ?_, fun _ => hfresh⟩
    · rw [hwrites, if_pos hsame]
      exact Timestamp.throttle_of_early hfresh
    · exact absurd (htells.symm.trans htold) Bool.false_ne_true
  · rename_i hdue
    obtain ⟨hheld, hwrites, htells⟩ := hrow
    refine ⟨p.time, hheld, fun ts => ?_, fun htold => if_neg (htells htold), fun hpos => ?_⟩
    · rw [hwrites]
      refine Timestamp.throttle_of_due fun s hs => ?_
      split at hs
      · cases hs
        exact Nat.not_lt.1 fun hnear => hdue ⟨‹_›, decide_eq_true hnear⟩
      · cases hs
    · rw [Timestamp.nanosSince_self]
      exact window_pos hpos

/-- After a pass the row has the status, and its age is less than the window. -/
theorem IsSteady.row_fresh (h : p.IsSteady settings key status) (hpos : 0 < settings.staleness) :
    ∃ r, Table.get? (p.ran settings).state.store.vms key = some r ∧
      r.status = status.word ∧ r.isFresh p.time settings.staleness = true := by
  obtain ⟨t, hheld, -, -, hnear⟩ := h.pass
  obtain ⟨r, hr, hrt⟩ := Option.map_eq_some_iff.1 hheld
  obtain ⟨hstatus, rfl⟩ := Prod.mk.inj hrt
  exact ⟨r, hr, hstatus, decide_eq_true (hnear hpos)⟩

theorem Follows.lastWritten? {t : Timestamp} (h : Follows settings key p q)
    (hheld : (p.ran settings).state.statusOf? key = some (status.word, t)) :
    q.world.lastWritten? key status = some t := by
  rw [World.lastWritten?, h.held, hheld]
  exact if_pos rfl

/-- A pass writes the status when it is due, whatever the passes in between do to the row. -/
theorem map_writes (hsteady : ∀ q ∈ p :: ps, q.IsSteady settings key status)
    (hchain : (p :: ps).IsChain (Follows settings key)) :
    (p :: ps).map (writes settings) = Timestamp.throttle (window settings)
      (p.world.lastWritten? key status) ((p :: ps).map time) := by
  induction ps generalizing p with
  | nil =>
    obtain ⟨t, -, hthrottle, -⟩ := (hsteady p List.mem_cons_self).pass
    exact (hthrottle []).symm
  | cons q ps ih =>
    obtain ⟨hp, hrest⟩ := List.forall_mem_cons.1 hsteady
    obtain ⟨hpq, hchain⟩ := List.isChain_cons_cons.1 hchain
    obtain ⟨t, hheld, hthrottle, -⟩ := hp.pass
    rw [List.map_cons, ih hrest hchain, hpq.lastWritten? hheld]
    exact (hthrottle _).symm

/-- Once the row has the status, no pass tells that it has changed. -/
theorem tells_of_follows (hsteady : ∀ q ∈ p :: ps, q.IsSteady settings key status)
    (hchain : (p :: ps).IsChain (Follows settings key)) : ∀ q ∈ ps, q.tells settings = false := by
  induction ps generalizing p with
  | nil => exact fun q hq => absurd hq List.not_mem_nil
  | cons q ps ih =>
    obtain ⟨hp, hrest⟩ := List.forall_mem_cons.1 hsteady
    obtain ⟨hpq, hchain⟩ := List.isChain_cons_cons.1 hchain
    refine List.forall_mem_cons.2 ⟨?_, ih hrest hchain⟩
    obtain ⟨t, hheld, -⟩ := hp.pass
    obtain ⟨-, -, -, htells, -⟩ := (hrest q List.mem_cons_self).pass
    rw [hpq.lastWritten? hheld] at htells
    exact Bool.eq_false_iff.2 fun htold => nomatch htells htold

theorem Follows.sorted (hchain : (p :: ps).IsChain (Follows settings key)) :
    (p :: ps).Pairwise fun a b => a.time.toNanos ≤ b.time.toNanos :=
  List.pairwise_map.1 (List.isChain_iff_pairwise.1
    (List.isChain_map_of_isChain (·.time.toNanos) (fun _ _ h => h.time) hchain))

/-- Passes whose machine has one status and one row, of which nobody else writes the status: few of
them write it, one a window; one at most tells that it has changed; which ones write depends on
their times alone; and after each of them the row has the status and is younger than the window. -/
theorem status_writes_are_limited (hpos : 0 < settings.staleness)
    (hsteady : ∀ q ∈ p :: ps, q.IsSteady settings key status)
    (hchain : (p :: ps).IsChain (Follows settings key)) :
    (p :: ps).countP (writes settings) ≤
        1 + ((p :: ps).getLast (List.cons_ne_nil p ps)).time.nanosSince p.time / window settings ∧
      (p :: ps).countP (tells settings) ≤ 1 ∧
      (p :: ps).map (writes settings) = Timestamp.throttle (window settings)
        (p.world.lastWritten? key status) ((p :: ps).map time) ∧
      ∀ q ∈ p :: ps, ∃ r, Table.get? (q.ran settings).state.store.vms key = some r ∧
        r.status = status.word ∧ r.isFresh q.time settings.staleness = true := by
  have hsorted := Follows.sorted hchain
  have hwrites := map_writes hsteady hchain
  refine ⟨?_, ?_, hwrites, fun q hq => (hsteady q hq).row_fresh hpos⟩
  · have hcount : (p :: ps).countP (writes settings) =
        ((p :: ps).map (writes settings)).count true := by
      rw [List.count, List.countP_map]
      exact List.countP_congr fun q _ => by simp
    rw [hcount, hwrites]
    refine Timestamp.count_throttle_le (window_pos hpos) _ ?_ ?_
    · refine List.forall_mem_map.2 fun q hq => ?_
      exact hsorted.rel_head_of_rel_head_head hq (Int.le_refl _)
    · refine List.forall_mem_map.2 fun q hq => ?_
      exact hsorted.rel_getLast_of_rel_getLast_getLast hq (Int.le_refl _)
  · have hnone : ps.countP (tells settings) = 0 :=
      List.countP_eq_zero.2 fun q hq => by simp [tells_of_follows hsteady hchain q hq]
    rw [List.countP_cons, hnone]
    split <;> decide

/-- A row that is not up to date. -/
def started : Occasion where
  world := { Reconcile.unwritable with faults := [] }
  vm := World.stamped "tenant-a" .running

/-- A pass some time after another one, when the instance of the machine reports something else. -/
def later (p : Occasion) (now : Timestamp) (memory : String) : Occasion where
  world := Episode.showing
    { phase := none
      cpuTopology := none
      memory := some ⟨some memory, none⟩
      guestOs := none } { (p.ran {}).state with now }
  vm := p.vm

theorem faults_later (h : p.world.faults = []) (now : Timestamp) (memory : String) :
    (p.later now memory).world.faults = [] :=
  (World.run_calm h (Reconcile.virtualMachine {} p.vm)).1

theorem follows_later {now : Timestamp} (h : p.time.toNanos ≤ now.toNanos) (memory : String) :
    Follows {} key p (p.later now memory) := ⟨h, rfl⟩

/-- The status is written at once; not again when the memory of the instance changes; and again
when the window is over. -/
theorem started_status_writes_are_limited :
    let second := started.later ⟨10, 0⟩ "2Gi"
    let third := second.later ⟨700, 0⟩ "4Gi"
    [started, second, third].map (writes {}) = [true, false, true] ∧
      [started, second, third].countP (writes {}) ≤
        1 + third.time.nanosSince started.time / window {} := by
  intro second third
  have hfirst : started.IsSteady {} (.ofNat 3) .poweredOn :=
    ⟨rfl, by decide, by decide, rfl, World.stamped "tenant-a" .running,
      World.machineRow 3 2 "tenant-a" .poweredOff, ⟨false, by decide⟩, rfl⟩
  have hsecond : second.IsSteady {} (.ofNat 3) .poweredOn :=
    ⟨faults_later hfirst.faults _ _, by decide, by decide, rfl,
      World.stamped "tenant-a" .running, World.machineRow 3 2 "tenant-a" .poweredOn,
      ⟨false, by decide⟩, rfl⟩
  have hthird : third.IsSteady {} (.ofNat 3) .poweredOn :=
    ⟨faults_later hsecond.faults _ _, by decide, by decide, rfl,
      World.stamped "tenant-a" .running, { World.machineRow 3 2 "tenant-a" .poweredOn with
        memory := some 2048
        guestOs := some "Unknown" }, ⟨false, by decide⟩, rfl⟩
  have hsteady : ∀ q ∈ [started, second, third], q.IsSteady {} (.ofNat 3) .poweredOn :=
    List.forall_mem_cons.2 ⟨hfirst, List.forall_mem_cons.2
      ⟨hsecond, List.forall_mem_singleton.2 hthird⟩⟩
  have hlimited := status_writes_are_limited (by decide) hsteady
    (.cons_cons (follows_later (by decide) _) (.cons_cons (follows_later (by decide) _)
      (.singleton _)))
  exact ⟨hlimited.2.2.1.trans (by decide), hlimited.1⟩

end Occasion

end TenantCloud
