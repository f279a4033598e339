import TenantCloud.Proofs.Reconcile.Histories
import TenantCloud.Proofs.Reconcile.Reporting

/-!
# Successes that are told

A metric or an event tells that a status was written (`Item.TellsSuccess`). A log is honest if an
update reported a row before anything tells of a success (`Log.IsHonest`). The pass for a machine
looks at what its update reports and is always honest (`Reconcile.virtualMachine_honest`). The other
passes that write a status do not look, so they are honest just where each update finds its row
(`StatusPass.isHonest_iff`), and a row that vanished in between is told to be written
(`StatusPass.vanished_row_is_told`).
-/

set_option autoImplicit false

namespace TenantCloud

namespace Item

/-- It tells that a status was written. -/
def TellsSuccess : Item → Prop
  | signal (.metric (.statusUpdate _ .success _)) => True
  | signal (.event _ e) => e.reason = "StatusChanged" ∨ e.reason = "VAppStatusChanged"
  | _ => False

/-- What an update of a status reported: whether there was a row. -/
def updated? : Item → Option Bool
  | reply (.store (.updateVmStatus ..)) (.ok found) => some found
  | reply (.store (.updateVAppStatus ..)) (.ok found) => some found
  | _ => none

theorem not_tellsSuccess_of_updated {i : Item} {found : Bool} (h : i.updated? = some found) :
    ¬ i.TellsSuccess := by
  cases i with
  | reply c r => exact id
  | signal s => cases h

end Item

namespace Log

/-- An update reported a row before anything tells of a success. -/
def IsHonest (l : Log) : Prop :=
  ∀ before i after, l = before ++ i :: after → i.TellsSuccess →
    ∃ u ∈ before, u.updated? = some true

/-- Each update of a status found its row. -/
def FindsRows (l : Log) : Prop := ∀ i ∈ l, i.updated? ≠ some false

theorem isHonest_nil : IsHonest [] := by
  intro before i after h
  simp at h

theorem isHonest_cons {i : Item} {l : Log} :
    IsHonest (i :: l) ↔ ¬ i.TellsSuccess ∧ (i.updated? = some true ∨ IsHonest l) := by
  constructor
  · intro h
    refine ⟨fun hi => ?_, ?_⟩
    · obtain ⟨u, hu, -⟩ := h [] i l rfl hi
      cases hu
    · refine or_iff_not_imp_left.2 fun hi before j after hl hj => ?_
      obtain ⟨u, hu, hfound⟩ := h (i :: before) j after (congrArg (i :: ·) hl) hj
      rcases List.mem_cons.1 hu with rfl | hu
      · exact absurd hfound hi
      · exact ⟨u, hu, hfound⟩
  · rintro ⟨hi, h⟩ before j after hl hj
    cases before with
    | nil =>
      cases hl
      exact absurd hj hi
    | cons x before =>
      cases hl
      rcases h with h | h
      · exact ⟨i, List.mem_cons_self, h⟩
      · obtain ⟨u, hu, hfound⟩ := h before j after rfl hj
        exact ⟨u, List.mem_cons_of_mem i hu, hfound⟩

theorem IsHonest.append {l l' : Log} (h : IsHonest l) (h' : IsHonest l') : IsHonest (l ++ l') := by
  induction l with
  | nil => exact h'
  | cons i l ih =>
    obtain ⟨hi, h⟩ := isHonest_cons.1 h
    exact isHonest_cons.2 ⟨hi, h.imp_right ih⟩

/-- The log is honest just where each update of a status found its row. -/
def IsCandid (l : Log) : Prop := IsHonest l ↔ FindsRows l

/-- Where nothing is told. -/
theorem isCandid_of_silent {l : Log} (h : ∀ i ∈ l, ¬ i.TellsSuccess ∧ i.updated? ≠ some false) :
    IsCandid l := by
  refine iff_of_true (fun before i after hl hi => ?_) fun i hi => (h i hi).2
  have hmem : i ∈ l := hl ▸ List.mem_append_right _ List.mem_cons_self
  exact absurd hi (h i hmem).1

/-- What is neither told nor updated makes no difference. -/
theorem IsCandid.cons {i : Item} {l : Log} (h : IsCandid l) (hi : ¬ i.TellsSuccess)
    (hu : i.updated? = none) : IsCandid (i :: l) := by
  unfold IsCandid FindsRows at *
  rw [isHonest_cons, List.forall_mem_cons, hu]
  simpa [hi] using h

/-- One update is made. Where it is answered a success is told, whatever the update reported. -/
inductive Writes : Log → Result Unit → Prop
  | told {i j : Item} {found : Bool} : i.updated? = some found → j.TellsSuccess →
      j.updated? = none → Writes [i, j] (.ok ())
  | failed {i j : Item} (e : Error) : i.updated? = none → ¬ i.TellsSuccess →
      j.updated? = none → ¬ j.TellsSuccess → Writes [i, j] (.error e)

theorem Writes.isCandid_append {l l' : Log} (h : Writes l (.ok ()))
    (hl' : ∀ u ∈ l', u.updated? = none) : IsCandid (l ++ l') := by
  obtain @⟨i, j, found, hi, hj, hj'⟩ := h
  have hrows : FindsRows (j :: l') := by
    intro u hu
    have hnone : u.updated? = none := (List.mem_cons.1 hu).elim (fun he => he ▸ hj') (hl' u)
    simp [hnone]
  have hdishonest : ¬ IsHonest (j :: l') := fun h => (isHonest_cons.1 h).1 hj
  show IsCandid (i :: j :: l')
  unfold IsCandid FindsRows
  rw [isHonest_cons, List.forall_mem_cons, hi]
  cases found with
  | true => exact iff_of_true ⟨Item.not_tellsSuccess_of_updated hi, .inl rfl⟩ ⟨nofun, hrows⟩
  | false => exact iff_of_false (fun h => h.2.elim nofun hdishonest) fun h => h.1 rfl

theorem Writes.isCandid {l : Log} {r : Result Unit} (h : Writes l r) : IsCandid l := by
  cases h with
  | told hi hj hj' => exact (told hi hj hj').isCandid_append fun u hu => absurd hu List.not_mem_nil
  | failed e hi hi' hj hj' =>
    refine isCandid_of_silent fun u hu => ?_
    rcases List.mem_pair.1 hu with rfl | rfl
    · exact ⟨hi', by simp [hi]⟩
    · exact ⟨hj', by simp [hj]⟩

end Log

namespace Attempt

variable {α β : Type}

/-- However calls are answered, the log is honest. -/
def Honest (a : Attempt α) : Prop := a.Logs fun l _ => l.IsHonest

/-- However calls are answered, the log is honest just where each update found its row. -/
def Candid (a : Attempt α) : Prop := a.Logs fun l _ => l.IsCandid

namespace Honest

theorem pure (v : α) : (Pure.pure v : Attempt α).Honest := Log.isHonest_nil

theorem throw (e : Error) : (throw e : Attempt α).Honest := Log.isHonest_nil

theorem measure {m : Measurement} (h : ¬ (Item.signal (.metric m)).TellsSuccess) :
    (Attempt.measure m).Honest :=
  Log.isHonest_cons.2 ⟨h, .inr Log.isHonest_nil⟩

theorem publish (object : ObjectReference) {event : Event}
    (h : event.reason ≠ "StatusChanged" ∧ event.reason ≠ "VAppStatusChanged") :
    (Attempt.publish object event).Honest :=
  Log.isHonest_cons.2 ⟨fun h' => h'.elim h.1 h.2, .inr Log.isHonest_nil⟩

theorem call (c : Call) : (Attempt.call c).Honest := fun _ =>
  Log.isHonest_cons.2 ⟨id, .inr Log.isHonest_nil⟩

theorem ofResult (r : Result α) : (Attempt.ofResult r).Honest := Log.isHonest_nil

theorem bind {a : Attempt α} {f : α → Attempt β} (h : a.Honest) (hf : ∀ v, (f v).Honest) :
    (a >>= f).Honest :=
  Logs.bind (Logs.mono h fun _ _ hl =>
    ⟨fun v _ => Logs.mono (hf v) fun _ _ hl' => hl.append hl', fun _ _ => hl⟩)

theorem outcome {a : Attempt α} (h : a.Honest) : (outcome a).Honest := Logs.outcome h

end Honest

namespace Candid

theorem measure {m : Measurement} (h : ¬ (Item.signal (.metric m)).TellsSuccess) :
    (Attempt.measure m).Candid :=
  Log.isCandid_of_silent fun i hi => by
    obtain rfl := List.mem_singleton.1 hi
    exact ⟨h, nofun⟩

/-- A call that is no update of a status. -/
theorem bind_call {c : Call} {f : c.Answer → Attempt β}
    (hc : ∀ r, (Item.reply c r).updated? = none) (hf : ∀ v, (f v).Candid) :
    (Attempt.call c >>= f).Candid := by
  refine Logs.bind_call (fun v => ?_) fun e => ?_
  · exact Logs.mono (hf v) fun l _ hl => hl.cons id (hc _)
  · refine Log.isCandid_of_silent fun i hi => ?_
    obtain rfl := List.mem_singleton.1 hi
    exact ⟨id, by simp [hc]⟩

end Candid

end Attempt

namespace Reconcile

open Attempt

/-! ## The pass for a machine -/

theorem deriveVAppName_honest (vm : VirtualMachine) : (deriveVAppName vm).Honest := by
  unfold deriveVAppName
  split
  · refine .bind (.call _) fun found => ?_
    cases found with
    | none => exact .pure _
    | some ti =>
      exact .bind (.call _) fun _ => .bind (.publish _ (by simp)) fun _ => .pure _
  · exact .pure _

theorem ensureVApp_honest (vm : VirtualMachine) (v : Vdc) (name : String) :
    (ensureVApp vm v name).Honest := by
  refine .bind (.call _) fun found => ?_
  cases found with
  | some a => exact .pure _
  | none =>
    refine .bind (.outcome (.call _)) fun made => ?_
    cases made with
    | ok a => exact .bind (.measure id) fun _ => .bind (.publish _ (by simp)) fun _ => .pure _
    | error e =>
      dsimp only
      split
      · refine .bind (.call _) fun found => ?_
        cases found with
        | some a => exact .pure _
        | none => exact .throw _
      · exact .bind (.measure id) fun _ => .throw _

theorem createVm_honest (vm : VirtualMachine) (a : VApp) : (createVm vm a).Honest := by
  have hagain : (rereadVm vm a).Honest := by
    refine .bind (.call _) fun found => ?_
    cases found with
    | some row => exact .pure _
    | none => exact .call _
  refine .bind (.outcome (.call _)) fun made => ?_
  cases made with
  | ok row => exact .bind (.measure id) fun _ => .bind (.publish _ (by simp)) fun _ => .pure _
  | error e =>
    dsimp only
    split
    · refine .bind hagain fun found => ?_
      cases found with
      | some row => exact .pure _
      | none => exact .throw _
    · exact .bind (.measure id) fun _ => .throw _

theorem resolve_honest (vm : VirtualMachine) : (resolve vm).Honest := by
  have hlabel : (findByLabel vm).Honest := by
    unfold findByLabel
    split
    · exact .call _
    · exact .pure _
  have hfind : (findVm vm).Honest := by
    refine .bind hlabel fun found => ?_
    cases found with
    | some row => exact .pure _
    | none => exact .call _
  refine .bind hfind fun found => ?_
  cases found with
  | some row => exact .pure _
  | none =>
    show (discover vm).Honest
    unfold discover
    split
    · exact .pure _
    · refine .bind (.call _) fun v => ?_
      cases v with
      | none => exact .pure _
      | some v =>
        exact .bind (ensureVApp_honest vm v _) fun a =>
          .bind (createVm_honest vm a) fun row => .pure _

theorem stampVAppId_honest (vm : VirtualMachine) (row : Vm) : (stampVAppId vm row).Honest := by
  unfold stampVAppId
  dsimp only
  split
  · exact .pure _
  · refine .bind (.outcome (.call _)) fun r => ?_
    cases r with
    | ok u => exact .pure _
    | error e => exact .measure id

/-- A success is told only where the update reported the row. -/
theorem vmStatus_honest (settings : Settings) (vm : VirtualMachine) (row : Vm) :
    (vmStatus settings vm row).Honest := by
  refine Logs.bind (Logs.clock fun now => ⟨?_, nofun⟩)
  rintro _ ⟨⟩
  split
  · exact Honest.measure id
  · refine timed_logs fun r elapsed => ?_
    rcases r with e | _ | _
    · refine Logs.mono (Honest.bind (.measure id) fun _ => .bind (.publish _ (by simp)) fun _ =>
        .throw e) fun l _ hl => ?_
      exact Log.isHonest_cons.2 ⟨id, .inr hl⟩
    · exact Logs.mono (Honest.measure id) fun l _ hl => Log.isHonest_cons.2 ⟨id, .inr hl⟩
    · refine Logs.bind (Logs.measure _ ⟨?_, nofun⟩)
      rintro _ -
      split
      · exact Logs.publish _ _ (Log.isHonest_cons.2 ⟨id, .inl rfl⟩)
      · exact Logs.pure (Log.isHonest_cons.2 ⟨id, .inl rfl⟩)

theorem vmFacts_honest (vm : VirtualMachine) (row : Vm) : (vmFacts vm row).Honest := by
  refine .bind (.call _) fun vmi => ?_
  split
  · exact .pure _
  · refine .bind (.outcome (.call _)) fun r => ?_
    rcases r with e | _ | _
    · exact .bind (.measure id) fun _ => .bind (.publish _ (by simp)) fun _ => .throw _
    · exact .measure id
    · exact .pure _

/-- The pass for a machine is honest, however its calls are answered. -/
theorem virtualMachine_honest (settings : Settings) (vm : VirtualMachine) :
    (virtualMachine settings vm).Honest := by
  refine .bind (deriveVAppName_honest vm) fun name => .bind (resolve_honest _) fun res => ?_
  cases res with
  | notManaged reason => exact .measure id
  | resolved row created =>
    exact .bind (stampVAppId_honest _ row) fun _ =>
      .bind (.outcome (vmStatus_honest settings _ row)) fun status =>
        .bind (.outcome (vmFacts_honest _ row)) fun facts =>
          .bind (.ofResult status) fun _ => .ofResult facts

/-! ## The other passes -/

theorem markVmDeleted_writes (row : Vm) : (markVmDeleted row).Logs Log.Writes := by
  refine timed_logs fun r elapsed => ?_
  cases r with
  | ok found => exact .told rfl trivial rfl
  | error e => exact .failed e rfl id rfl id

theorem vmDeleted_candid (ns name : String) : (vmDeleted ns name).Candid := by
  refine .bind_call (fun _ => rfl) fun found => ?_
  cases found with
  | none => exact .measure id
  | some row =>
    dsimp only
    split
    · exact .measure id
    · exact Logs.mono (markVmDeleted_writes row) fun _ _ hl => hl.isCandid

theorem persistVAppStatus_writes (a : VApp) (status : VAppStatus) :
    (persistVAppStatus a status).Logs Log.Writes := by
  refine timed_logs fun r elapsed => ?_
  cases r with
  | ok found => exact .told rfl trivial rfl
  | error e => exact .failed e rfl id rfl id

/-- The event is published on the heels of the metric. -/
theorem moveVApp_candid (ti : TemplateInstance) (a : VApp) (desired : VAppStatus) :
    (moveVApp ti a desired).Candid := by
  unfold moveVApp
  split
  · exact .measure id
  · split
    · exact .measure id
    · refine Logs.bind (Logs.mono (persistVAppStatus_writes a desired) fun l r hl => ?_)
      refine ⟨?_, fun _ _ => hl.isCandid⟩
      rintro _ rfl
      exact Logs.publish _ _ (hl.isCandid_append (by simp [Item.updated?]))

theorem findVApp_bind_candid {f : Option VApp → Attempt Unit} (ns name : String)
    (hf : ∀ found, (f found).Candid) : (findVApp ns name >>= f).Candid := by
  unfold findVApp
  rw [bind_assoc]
  refine .bind_call (fun _ => rfl) fun v => ?_
  cases v with
  | none => exact hf none
  | some v => exact .bind_call (fun _ => rfl) hf

theorem vapp_candid (ti : TemplateInstance) : (vapp ti).Candid := by
  refine findVApp_bind_candid _ _ fun found => ?_
  cases found with
  | none => exact .measure id
  | some a => exact .bind_call (fun _ => rfl) fun vms => moveVApp_candid ti a _

theorem templateInstanceDeleted_candid (ns name : String) :
    (templateInstanceDeleted ns name).Candid := by
  refine findVApp_bind_candid _ _ fun found => ?_
  cases found with
  | none => exact .measure id
  | some a =>
    dsimp only
    split
    · exact .measure id
    · exact Logs.mono (persistVAppStatus_writes a .deleted) fun _ _ hl => hl.isCandid

end Reconcile

/-- A pass that writes the status of one row, by whether it looks at what the update reports. -/
inductive StatusPass : Bool → Type
  | machine (settings : Settings) (vm : VirtualMachine) : StatusPass true
  | machineDeleted (ns name : String) : StatusPass false
  | vapp (ti : TemplateInstance) : StatusPass false
  | templateInstanceDeleted (ns name : String) : StatusPass false

namespace StatusPass

variable {looks : Bool}

/-- What the pass does. -/
def attempt : StatusPass looks → Attempt Unit
  | machine settings vm => Reconcile.virtualMachine settings vm
  | machineDeleted ns name => Reconcile.vmDeleted ns name
  | vapp ti => Reconcile.vapp ti
  | templateInstanceDeleted ns name => Reconcile.templateInstanceDeleted ns name

/-- A pass that does not look is honest just where each update finds its row. -/
theorem candid (p : StatusPass false) : p.attempt.Candid := by
  cases p with
  | machineDeleted ns name => exact Reconcile.vmDeleted_candid ns name
  | vapp ti => exact Reconcile.vapp_candid ti
  | templateInstanceDeleted ns name => exact Reconcile.templateInstanceDeleted_candid ns name

/-- A pass that looks is always honest. -/
theorem honest (p : StatusPass true) : p.attempt.Honest := by
  cases p with
  | machine settings vm => exact Reconcile.virtualMachine_honest settings vm

/-- **Success is told of rows that changed**, by a pass that looks whatever the store and the
cluster answer, by the others just where each update finds its row. -/
theorem isHonest_iff {σ : Type} (h : Handler σ) (p : StatusPass looks) (s : σ) :
    let l := p.attempt.run.log h s
    l.IsHonest ↔ looks ∨ l.FindsRows := by
  intro l
  cases looks with
  | true => exact iff_of_true (Pass.Logs.log p.honest h s) (.inl rfl)
  | false =>
    have hcandid : l.IsCandid := Pass.Logs.log p.candid h s
    exact hcandid.trans (or_iff_right nofun).symm

/-- A vApp is being instantiated, and its row vanishes after it was read. -/
def vanishing : World :=
  { Episode.launched with faults := [⟨"update_vapp_status", 0, none, .miss⟩] }

/-- The write finds no row, and a metric and an event tell of its success. -/
theorem vanished_row_is_told :
    let pass := (vapp Episode.readyWeb).attempt.run
    let l := pass.log World.handler vanishing
    (pass.run World.handler vanishing).value = .ok () ∧
    .reply (.store (.updateVAppStatus (.ofNat 10) .deployed)) (.ok false) ∈ l ∧
    .signal (.metric (.statusUpdate "vapp_status" .success 0)) ∈ l ∧
    (∃ object event, .signal (.event object event) ∈ l ∧ event.reason = "VAppStatusChanged") ∧
    ¬ l.IsHonest := by
  intro pass l
  have hmiss : .reply (.store (.updateVAppStatus (.ofNat 10) .deployed)) (.ok false) ∈ l :=
    .tail _ (.tail _ (.tail _ (.head _)))
  have hcandid : l.IsCandid := Pass.Logs.log (vapp Episode.readyWeb).candid _ _
  exact ⟨rfl, hmiss, .tail _ (.tail _ (.tail _ (.tail _ (.head _)))),
    ⟨_, _, .tail _ (.tail _ (.tail _ (.tail _ (.tail _ (.head _))))), rfl⟩,
    fun hl => hcandid.1 hl _ hmiss rfl⟩

end StatusPass

end TenantCloud
