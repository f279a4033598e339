import TenantCloud.Proofs.Effect.Always
import TenantCloud.Reconcile.VirtualMachine

/-!
# Calls of a machine's pass

For the steps of a pass for a machine, the calls that they can make (`Attempt.Makes`), whatever they
are answered. Naming the vApp and stamping its identity ask the cluster only, status and facts have
calls of their own, and what is written to the store for a row is written to that row
(`Reconcile.vmRow_makes`).
-/

set_option autoImplicit false

namespace TenantCloud

/-- A request to the cluster. -/
def Call.IsCluster : Call → Prop
  | .store _ => False
  | .cluster _ => True

/-- The call asks for the template instance of a machine, or labels the machine. -/
def Call.IsLabelling : Call → Prop
  | .cluster (.findTemplateInstanceByUid _) | .cluster (.setVirtualMachineLabel ..) => True
  | _ => False

theorem Call.IsLabelling.isCluster {c : Call} (h : c.IsLabelling) : c.IsCluster := by
  cases c with
  | store c => exact h.elim
  | cluster c => trivial

/-- The call looks at the instance of a machine, or writes facts to the row with an identity. -/
def Call.IsOfFacts (key : Uuid) : Call → Prop
  | .cluster (.getVirtualMachineInstance ..) => True
  | .store (.updateVmData id _) => id = key
  | _ => False

/-- A call that changes no row but the one of a machine with an identity. -/
def Call.Spares (key : Uuid) : Call → Prop
  | .store (.updateVmStatus id _) | .store (.updateVmData id _) => id = key
  | .store _ => False
  | .cluster _ => True

namespace Reconcile

open Attempt

theorem deriveVAppName_makes (vm : VirtualMachine) :
    (deriveVAppName vm).Makes Call.IsLabelling := by
  unfold deriveVAppName
  split
  · refine .bind (.call trivial) fun found => ?_
    cases found with
    | none => exact .pure _
    | some ti => exact .bind (.call trivial) fun _ => .bind (.publish _ _) fun _ => .pure _
  · exact .pure _

theorem timed_makes {α : Type} {P : Call → Prop} {a : Attempt α} (h : a.Makes P) :
    (timed a).Makes P :=
  .bind .clock fun _ => .bind (.outcome h) fun _ => .bind .clock fun _ => .pure _

variable (settings : Settings) (vm : VirtualMachine) (row : Vm)

theorem vmStatus_makes : (vmStatus settings vm row).Makes
    (· = .store (.updateVmStatus row.id vm.desiredStatus.word)) := by
  refine .bind .clock fun now => ?_
  split
  · exact .measure _
  · refine .bind (timed_makes (.call rfl)) fun r => ?_
    obtain ⟨b | b, elapsed⟩ := r
    · exact .bind (.measure _) fun _ => .bind (.publish _ _) fun _ => .throw _
    · cases b with
      | false => exact .measure _
      | true =>
        refine .bind (.measure _) fun _ => ?_
        split
        · exact .publish _ _
        · exact .pure _

theorem vmFacts_makes : (vmFacts vm row).Makes (Call.IsOfFacts row.id) := by
  refine .bind (.call trivial) fun vmi => ?_
  split
  · exact .pure _
  · refine .bind (.outcome (.call rfl)) fun r => ?_
    obtain e | there := r
    · exact .bind (.measure _) fun _ => .bind (.publish _ _) fun _ => .throw _
    · cases there with
      | false => exact .measure _
      | true => exact .pure _

theorem stampVAppId_makes : (stampVAppId vm row).Makes Call.IsLabelling := by
  unfold stampVAppId
  dsimp only
  split
  · exact .pure _
  · refine .bind (.outcome (.call trivial)) fun r => ?_
    cases r with
    | ok _ => exact .pure _
    | error e => exact .measure _

theorem vmRow_makes : (vmRow settings vm row).Makes (Call.Spares row.id) := by
  refine .bind ((stampVAppId_makes vm row).mono ?_) fun _ =>
    .bind (.outcome ((vmStatus_makes settings vm row).mono ?_)) fun _ =>
      .bind (.outcome ((vmFacts_makes vm row).mono ?_)) fun _ =>
        .bind (.ofResult _) fun _ => .ofResult _
  · rintro (c | c) h
    · exact h.elim
    · trivial
  · rintro _ rfl
    rfl
  · rintro (c | c) h
    · cases c <;> first | exact h | exact h.elim
    · trivial

end Reconcile

end TenantCloud
