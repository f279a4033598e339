import TenantCloud.Proofs.Reconcile.Disappearance
import TenantCloud.Proofs.Reconcile.OwnerCalls
import TenantCloud.Proofs.Store.Unique

/-!
# What passes do to vApps

An `Errand` is a pass of any controller. Most of them leave the vApps alone that are there, and
make new ones that are being instantiated (`Call.SparesVApps`). The two that are about a template
instance write a status, and only where the lifecycle leads from the one that the vApp has to it
(`Errand.attempt_admits`).
-/

set_option autoImplicit false

namespace TenantCloud

/-- A pass of a controller. -/
inductive Errand
  | machine (settings : Settings) (vm : VirtualMachine)
  | machineDeleted (ns name : String)
  | sweep
  | vapp (ti : TemplateInstance)
  | templateInstanceDeleted (ns name : String)
  | owner (p : OwnerPass)

namespace Errand

/-- What the pass does. -/
def attempt : Errand → Attempt Unit
  | machine settings vm => Reconcile.virtualMachine settings vm
  | machineDeleted ns name => Reconcile.vmDeleted ns name
  | sweep => do let _ ← Reconcile.sweep
  | vapp ti => Reconcile.vapp ti
  | templateInstanceDeleted ns name => Reconcile.templateInstanceDeleted ns name
  | owner p => p.attempt

/-- The pass is about the vApp of a template instance. -/
def IsAboutVApp : Errand → Prop
  | vapp _ | templateInstanceDeleted .. => True
  | _ => False

/-- The pass is about the vApp of a template instance that is gone. -/
def IsAboutEnd : Errand → Prop
  | templateInstanceDeleted .. => True
  | _ => False

/-- The pass writes neither the status of a vApp nor facts of a machine. -/
def IsQuiet : Errand → Prop
  | machineDeleted .. | sweep | owner _ => True
  | _ => False

/-- A call that the pass may make in a world. -/
def Admits (e : Errand) : Call → World → Prop
  | .store (.createVApp new), _ => new.status = .instantiating
  | .store (.updateVAppStatus id status), w => e.IsAboutVApp ∧ (status = .deleted → e.IsAboutEnd) ∧
      ∀ a ∈ w.store.vapps, a.id = id → a.status.mayBecome status = true
  | _, _ => True

end Errand

/-- The call changes no vApp that is there, and one that it makes is being instantiated. -/
def Call.SparesVApps : Call → Prop
  | .store (.createVApp new) => new.status = .instantiating
  | .store (.updateVAppStatus ..) => False
  | _ => True

/-- The call changes no vApp that is there and no facts of a machine, and a vApp that it makes is
being instantiated. -/
def Call.IsModest : Call → Prop
  | .store (.createVApp new) => new.status = .instantiating
  | .store (.updateVAppStatus ..) | .store (.updateVmData ..) => False
  | _ => True

/-- The call is made on the way to the row of a machine: it looks at something else than the
instance, labels an object, or makes a record. -/
def Call.IsFinding : Call → Prop
  | .store (.createVApp new) => new.status = .instantiating
  | .store (.updateVAppStatus ..) | .store (.updateVmStatus ..) | .store (.updateVmData ..) => False
  | .cluster (.getVirtualMachineInstance ..) => False
  | _ => True

/-- The call looks for a vApp, or makes one. -/
def Call.IsOfVApp : Call → Prop
  | .store (.getVAppByName ..) => True
  | .store (.createVApp new) => new.status = .instantiating
  | _ => False

theorem Call.IsOfVApp.isFinding {c : Call} (h : c.IsOfVApp) : c.IsFinding := by
  cases c with
  | cluster c => exact h.elim
  | store c => cases c <;> first | exact h | exact h.elim

theorem Call.IsFinding.isModest {c : Call} (h : c.IsFinding) : c.IsModest := by
  cases c with
  | cluster c => trivial
  | store c => cases c <;> trivial

theorem Call.IsLabelling.isFinding {c : Call} (h : c.IsLabelling) : c.IsFinding := by
  cases c with
  | store c => exact h.elim
  | cluster c => cases c <;> trivial

theorem Call.IsModest.sparesVApps {c : Call} (h : c.IsModest) : c.SparesVApps := by
  cases c with
  | cluster c => trivial
  | store c => cases c <;> trivial

theorem Call.IsCluster.isModest {c : Call} (h : c.IsCluster) : c.IsModest := by
  cases c with
  | store c => exact h.elim
  | cluster c => trivial

namespace World

/-- The identity that a vApp would get next is new. -/
def DrawsNew (w : World) : Prop := ∀ a ∈ w.store.vapps, a.id ≠ w.ids.nextVApp

instance (w : World) : Decidable w.DrawsNew :=
  inferInstanceAs (Decidable (∀ a ∈ w.store.vapps, a.id ≠ w.ids.nextVApp))

/-- A call is carried out at some time, where an identity that it would take is new, or it fails and
changes nothing. -/
inductive Handles : Responses World
  | carried (c : Call) (w : World) (ids : IdSource) (now : Timestamp) :
      DrawsNew { w with ids, now } →
      Handles c w (perform c { w with ids, now }).1 (perform c { w with ids, now }).2
  | failed (c : Call) (w : World) (e : Error) : Handles c w (.error e) w

end World

theorem Call.SparesVApps.admits {c : Call} (h : c.SparesVApps) (e : Errand) (w : World) :
    e.Admits c w := by
  cases c with
  | cluster c => trivial
  | store c => cases c <;> first | exact h | exact h.elim

/-- What is admitted depends on the rows alone. -/
theorem Errand.Admits.congr {e : Errand} {c : Call} {w w' : World} (h : e.Admits c w)
    (hw : w'.store = w.store) : e.Admits c w' := by
  cases c with
  | cluster c => trivial
  | store c =>
    cases c with
    | createVApp new => exact h
    | updateVAppStatus id status => exact ⟨h.1, h.2.1, hw ▸ h.2.2⟩
    | _ => trivial

namespace Reconcile

open Attempt

/-! ## Passes that leave vApps alone -/

theorem ensureVApp_makes (vm : VirtualMachine) (v : Vdc) (name : String) :
    (ensureVApp vm v name).Makes Call.IsOfVApp := by
  refine .bind (.call trivial) fun found => ?_
  cases found with
  | some a => exact .pure _
  | none =>
    refine .bind (.outcome (.call rfl)) fun r => ?_
    cases r with
    | ok a => exact .bind (.measure _) fun _ => .bind (.publish _ _) fun _ => .pure _
    | error e =>
      dsimp only
      split
      · refine .bind (.call trivial) fun again => ?_
        cases again with
        | some a => exact .pure _
        | none => exact .throw _
      · exact .bind (.measure _) fun _ => .throw _

theorem createVm_makes (vm : VirtualMachine) (a : VApp) :
    (createVm vm a).Makes Call.IsFinding := by
  refine .bind (.outcome (.call trivial)) fun r => ?_
  cases r with
  | ok row => exact .bind (.measure _) fun _ => .bind (.publish _ _) fun _ => .pure _
  | error e =>
    dsimp only
    split
    · refine .bind (.bind (.call trivial) fun found => ?_) fun again => ?_
      · cases found with
        | some row => exact .pure _
        | none => exact .call trivial
      · cases again with
        | some row => exact .pure _
        | none => exact .throw _
    · exact .bind (.measure _) fun _ => .throw _

theorem findVm_makes (vm : VirtualMachine) : (findVm vm).Makes Call.IsFinding := by
  have hlabel : (findByLabel vm).Makes Call.IsFinding := by
    unfold findByLabel
    split
    · exact .call trivial
    · exact .pure _
  refine .bind hlabel fun found => ?_
  cases found with
  | some row => exact .pure _
  | none => exact .call trivial

theorem resolve_makes (vm : VirtualMachine) : (resolve vm).Makes Call.IsFinding := by
  refine .bind (findVm_makes vm) fun found => ?_
  cases found with
  | some row => exact .pure _
  | none =>
    show (discover vm).Makes _
    unfold discover
    split
    · exact .pure _
    · refine .bind (.call trivial) fun v => ?_
      cases v with
      | none => exact .pure _
      | some v =>
        exact .bind ((ensureVApp_makes vm v _).mono fun _ hc => hc.isFinding) fun a =>
          .bind (createVm_makes vm a) fun _ => .pure _

theorem virtualMachine_makes (settings : Settings) (vm : VirtualMachine) :
    (virtualMachine settings vm).Makes Call.SparesVApps := by
  have hrow : ∀ (row : Vm) (c : Call), c.Spares row.id → c.SparesVApps := by
    rintro row (c | c) h
    · cases c <;> trivial
    · trivial
  have hname := (deriveVAppName_makes vm).mono fun c hc => hc.isCluster.isModest.sparesVApps
  refine .bind hname fun name => ?_
  refine .bind ((resolve_makes _).mono fun c hc => hc.isModest.sparesVApps) fun res => ?_
  cases res with
  | resolved row created => exact (vmRow_makes settings _ row).mono (hrow row)
  | notManaged reason => exact .measure _

theorem vmDeleted_makes (n name : String) : (vmDeleted n name).Makes Call.IsModest := by
  refine .bind (.call trivial) fun found => ?_
  cases found with
  | none => exact .measure _
  | some row =>
    dsimp only
    split
    · exact .measure _
    · refine .bind (timed_makes (.call trivial)) fun ⟨r, elapsed⟩ => ?_
      cases r with
      | ok b => exact .measure _
      | error e => exact .bind (.measure _) fun _ => .throw _

theorem sweepEach_makes (rows : List Vm) : (sweepEach rows).Makes Call.IsModest := by
  induction rows with
  | nil => exact .pure _
  | cons row rows ih =>
    unfold sweepEach
    split
    · exact ih
    · refine .bind (.call trivial) fun found => ?_
      cases found with
      | some vm => exact ih
      | none => exact .bind (vmDeleted_makes _ _) fun _ => .bind ih fun _ => .pure _

theorem convergeVdc_makes (v : Vdc) (n : String) :
    (convergeVdc v n).Makes Call.IsModest := by
  refine .bind (.call trivial) fun found => ?_
  cases found with
  | none =>
    refine (createIsolated_makes n v.namespaceMeta v.hardLimits).mono ?_
    rintro _ (rfl | rfl | rfl | rfl) <;> trivial
  | some ns =>
    refine .bind ((convergeMetadata_makes ns _).mono ?_) fun _ => ?_
    · rintro _ rfl
      trivial
    · refine .bind ((convergeQuota_makes n _).mono ?_) fun _ => ?_
      · rintro _ (rfl | rfl | rfl) <;> trivial
      · split
        · refine (completeIsolation_makes n).mono ?_
          rintro _ (rfl | rfl) <;> trivial
        · exact .pure _

theorem ensureAbsent_isModest (n : String) : (ensureAbsent n).Makes Call.IsModest := by
  refine (ensureAbsent_makes n).mono ?_
  rintro _ (rfl | rfl) <;> trivial

theorem markDisabled_isModest (n : String) : (markDisabled n).Makes Call.IsModest := by
  refine (markDisabled_makes n).mono ?_
  rintro _ (rfl | rfl) <;> trivial

theorem vdc_makes (id : Uuid) : (vdc id).Makes Call.IsModest := by
  refine .bind (.call trivial) fun found => ?_
  cases found with
  | none => exact .measure _
  | some v =>
    dsimp only
    split
    · split
      · exact .bind (ensureAbsent_isModest _) fun _ => .pure _
      · exact .pure _
    · split
      · split
        · exact .bind (markDisabled_isModest _) fun _ => .pure _
        · exact .pure _
      · split
        · exact convergeVdc_makes v _
        · exact .throw _

theorem organization_makes (id : Uuid) : (organization id).Makes Call.IsModest := by
  refine .bind (.call trivial) fun found => ?_
  cases found with
  | none => exact .measure _
  | some o =>
    dsimp only
    split
    · exact .measure _
    · split
      · exact .bind (ensureAbsent_isModest _) fun _ => .pure _
      · split
        · exact .bind (markDisabled_isModest _) fun _ => .pure _
        · refine .bind (.call trivial) fun ns => ?_
          cases ns with
          | none => exact .call trivial
          | some ns =>
            refine .bind ((convergeMetadata_makes ns _).mono ?_) fun _ => .pure _
            rintro _ rfl
            trivial

theorem flagOrphans_makes : flagOrphans.Makes Call.IsModest := by
  refine .bind (.call trivial) fun vdcs => .bind (.call trivial) fun namespaces => ?_
  refine (flagEach_makes _).mono ?_
  rintro _ ⟨ns, -, t, rfl⟩
  trivial

theorem owner_makes (p : OwnerPass) : p.attempt.Makes Call.IsModest := by
  cases p with
  | vdc id => exact vdc_makes id
  | organization id => exact organization_makes id
  | orphans => exact .bind flagOrphans_makes fun _ => .pure _

end Reconcile

open Reconcile in
theorem Errand.IsQuiet.makes {e : Errand} (h : e.IsQuiet) : e.attempt.Makes Call.IsModest := by
  cases e with
  | machineDeleted n name => exact vmDeleted_makes n name
  | sweep => exact .bind (.bind (.call trivial) sweepEach_makes) fun _ => .pure _
  | owner p => exact owner_makes p
  | _ => exact h.elim

namespace Reconcile

open Attempt

/-! ## Passes for template instances -/

variable {w : World} {P : Call → World → Prop}

/-- A look-up finds what is there, whenever it is made. -/
theorem look_always {c : Call} {a : c.Answer} {Q : c.Answer → World → Prop} (hp : P c w)
    (hc : ∀ ids now, World.perform c { w with ids, now } = (.ok a, { w with ids, now }))
    (h : ∀ w', w'.store = w.store → Q a w') :
    (Attempt.call c).Always World.Handles P Q (fun _ => True) w := by
  refine .call hp fun r w' hr => ?_
  cases hr with
  | carried _ _ ids now hnew =>
    rw [hc]
    exact h _ rfl
  | failed => trivial

/-- A row is found as it is. -/
theorem findVApp_always (hP : ∀ c w, c.SparesVApps → P c w) (n name : String) :
    (findVApp n name).Always World.Handles P
      (fun found w' => w'.store = w.store ∧ ∀ a, found = some a → a ∈ w.store.vapps)
      (fun _ => True) w := by
  refine .bind (look_always (a := w.store.vdcAt? n) (hP _ _ trivial) (fun _ _ => rfl)
    fun w' hw' => ?_)
  cases w.store.vdcAt? n with
  | none => exact ⟨hw', fun a ha => by cases ha⟩
  | some v =>
    refine look_always (a := w'.store.vappNamed? v.id name) (hP _ _ trivial) (fun _ _ => rfl)
      fun w'' hw'' => ?_
    refine ⟨hw''.trans hw', fun a ha => ?_⟩
    rw [hw'] at ha
    exact List.mem_of_find?_eq_some ha

theorem persistVAppStatus_always {σ : Type} {R : Responses σ} {P : Call → σ → Prop} {s : σ}
    {a : VApp} {status : VAppStatus} (hp : P (.store (.updateVAppStatus a.id status)) s) :
    (persistVAppStatus a status).Always R P (fun _ _ => True) (fun _ => True) s := by
  refine fun started => ⟨hp, fun r w' _ ended => ?_⟩
  cases r with
  | ok b => trivial
  | error e => trivial

end Reconcile

namespace Errand

open Attempt Reconcile

/-- What a pass may do to vApps, whatever its calls are answered. -/
theorem attempt_admits {w : World} (hw : Table.Distinct w.store.vapps VApp.id) (e : Errand) :
    e.attempt.Always World.Handles e.Admits (fun _ _ => True) (fun _ => True) w := by
  have hspares : ∀ (c : Call) (w : World), c.SparesVApps → e.Admits c w := fun c w h => h.admits e w
  have hquiet : e.IsQuiet →
      e.attempt.Always World.Handles e.Admits (fun _ _ => True) (fun _ => True) w :=
    fun h => h.makes.admits (fun c w hc => hspares c w hc.sparesVApps) w
  cases e with
  | machine settings vm => exact (virtualMachine_makes settings vm).admits hspares w
  | machineDeleted | sweep | owner => exact hquiet trivial
  | vapp ti =>
    refine .bind ((findVApp_always hspares ti.ns ti.name).mono fun found w₁ hfound => ?_)
    obtain ⟨hw₁, hmem⟩ := hfound
    cases found with
    | none => trivial
    | some a =>
      refine .bind (look_always (a := w₁.store.vmsIn a.id) (hspares _ _ trivial)
        (fun _ _ => rfl) fun w₂ hw₂ => ?_)
      unfold moveVApp
      split
      · trivial
      · split
        · trivial
        · rename_i hallowed
          refine .bind ((persistVAppStatus_always ?_).mono fun _ _ _ => trivial)
          refine ⟨trivial, fun hdel => ?_, fun b hb hid => ?_⟩
          · exact absurd hdel (VAppSignals.status_ne_deleted _)
          · -- The row that was found is the only one with its identity.
            rw [hw₂, hw₁] at hb
            rw [hw b hb a (hmem a rfl) hid]
            simpa using hallowed
  | templateInstanceDeleted n name =>
    refine .bind ((findVApp_always hspares n name).mono fun found w' hfound => ?_)
    cases found with
    | none => trivial
    | some a =>
      dsimp only
      split
      · trivial
      · refine persistVAppStatus_always ⟨trivial, fun _ => trivial, fun b hb hid => ?_⟩
        cases b.status <;> rfl

end Errand

end TenantCloud
