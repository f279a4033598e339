import TenantCloud.Proofs.Reconcile.Errands

/-!
# Where the row of a machine comes from

What a machine resolves to is what the last call of the store brought: a row of its name in a vApp,
one in its namespace, or one that was made for it. What is known of such a row when the call is
answered is known when resolving ends (`Reconcile.Supplies.resolve`), whatever came between the
calls. Where the store answers them, the row is one of the table and has the name of the machine
(`Reconcile.supplies_of_performed`).
-/

set_option autoImplicit false

namespace TenantCloud

/-- A row that is put into a table is there. -/
theorem Table.mem_put {ρ : Type} [Row ρ] (t : Table ρ) (row : ρ) : row ∈ Table.put t row := by
  unfold put
  split
  · rename_i hhas
    obtain ⟨r, hr, hid⟩ := List.any_eq_true.1 hhas
    exact List.mem_map.2 ⟨r, hr, if_pos hid⟩
  · exact List.mem_append_right _ List.mem_cons_self

/-- A row that was made is there, with the name that it was made for. -/
theorem World.mem_of_createVm {new : NewVm} {row : Vm} {w w' : World}
    (h : perform (.store (.createVm new)) w = (.ok row, w')) :
    row ∈ w'.store.vms ∧ row.vmName = new.vmName := by
  have hmade : performStore w (.createVm new) = (.ok row, w') := h
  simp only [performStore, Store.createVm] at hmade
  split at hmade
  · rename_i hcreated
    split at hcreated
    · cases hcreated
    · cases hcreated
      cases hmade
      exact ⟨Table.mem_put _ _, rfl⟩
  · cases hmade

/-- The row that was found or made. -/
def Resolution.row? : Resolution → Option Vm
  | resolved row _ => some row
  | notManaged _ => none

namespace Reconcile

open Attempt

/-- The invariant holds, and the row that is known, if any, satisfies `Q`. -/
def Supplied (I : World → Prop) (Q : Vm → World → Prop) (row? : Option Vm) (w : World) : Prop :=
  I w ∧ ∀ row, row? = some row → Q row w

/-- On the way to the row of a machine calls are admitted and keep an invariant, and a row that one
of them brings satisfies `Q`. -/
structure Supplies (R : Responses World) (P : Call → World → Prop) (I : World → Prop)
    (Q : Vm → World → Prop) (vm : VirtualMachine) : Prop where
  admits : ∀ {c w}, c.IsFinding → I w → P c w
  keeps : ∀ {c w r w'}, c.IsFinding → I w → R c w r w' → I w'
  inVApp : ∀ {id w row w'}, I w →
    R (.store (.getVmByVAppAndName id vm.name)) w (.ok (some row)) w' → Q row w'
  inNamespace : ∀ {w row w'}, I w →
    R (.store (.getVmByNamespaceAndName vm.ns vm.name)) w (.ok (some row)) w' → Q row w'
  made : ∀ {id w row w'}, I w → R (.store (.createVm (vm.newVm id))) w (.ok row) w' → Q row w'

variable {R : Responses World} {P : Call → World → Prop} {I : World → Prop} {Q : Vm → World → Prop}
  {vm : VirtualMachine} {w : World}

theorem Supplied.none (hw : I w) : Supplied I Q none w := ⟨hw, fun _ he => nomatch he⟩

theorem Supplied.some {row : Vm} (hw : I w) (hrow : Q row w) : Supplied I Q (some row) w := by
  refine ⟨hw, ?_⟩
  rintro _ ⟨⟩
  exact hrow

namespace Supplies

/-- Calls of which none brings a row. -/
theorem quiet {α : Type} (h : Supplies R P I Q vm) {a : Attempt α} (ha : a.Makes Call.IsFinding)
    (hw : I w) : a.Always R P (fun _ => I) I w :=
  ha.guards (fun _ _ _ _ hc hs hr => h.keeps hc hs hr) (fun _ _ hc hs => h.admits hc hs) hw

/-- A call that may bring one. -/
theorem call (h : Supplies R P I Q vm) {c : Call} (hc : c.IsFinding) (hw : I w)
    (found : c.Answer → Option Vm)
    (hbrought : ∀ v w' row, R c w (.ok v) w' → found v = some row → Q row w') :
    (Attempt.call c).Always R P (fun v => Supplied I Q (found v)) I w := by
  refine Always.call (h.admits hc hw) fun r w' hr => ?_
  cases r with
  | ok v => exact ⟨h.keeps hc hw hr, fun row => hbrought v w' row hr⟩
  | error e => exact h.keeps hc hw hr

variable (h : Supplies R P I Q vm) (hw : I w)

include h hw

theorem vmIn (id : Uuid) :
    (store (.getVmByVAppAndName id vm.name)).Always R P (Supplied I Q) I w := by
  refine h.call (c := .store (.getVmByVAppAndName id vm.name)) trivial hw (fun row? => row?) ?_
  rintro _ w' row hr rfl
  exact h.inVApp hw hr

theorem vmAt : (store (.getVmByNamespaceAndName vm.ns vm.name)).Always R P (Supplied I Q) I w := by
  refine h.call (c := .store (.getVmByNamespaceAndName vm.ns vm.name)) trivial hw
    (fun row? => row?) ?_
  rintro _ w' row hr rfl
  exact h.inNamespace hw hr

theorem findByLabel : (findByLabel vm).Always R P (Supplied I Q) I w := by
  unfold Reconcile.findByLabel
  split
  · exact h.vmIn hw _
  · exact Supplied.none hw

theorem findVm : (findVm vm).Always R P (Supplied I Q) I w := by
  refine .bind ((h.findByLabel hw).mono fun row? w' hrow => ?_)
  cases row? with
  | some row => exact hrow
  | none => exact h.vmAt hrow.1

theorem rereadVm (a : VApp) : (rereadVm vm a).Always R P (Supplied I Q) I w := by
  refine .bind ((h.vmAt hw).mono fun row? w' hrow => ?_)
  cases row? with
  | some row => exact hrow
  | none => exact h.vmIn hrow.1 a.id

/-- A row that is made, or one that another writer made first. -/
theorem createVm (a : VApp) :
    (createVm vm a).Always R P (fun row => Supplied I Q (some row)) I w := by
  have hcall : Call.IsFinding (.store (.createVm (vm.newVm a.id))) := trivial
  refine .bind ⟨h.admits hcall hw, fun r w' hr => ?_⟩
  have hw' : I w' := h.keeps hcall hw hr
  cases r with
  | ok row => exact Supplied.some hw' (h.made hw hr)
  | error e =>
    show Attempt.Always R P _ I (if e.isAlreadyExists then _ else _) w'
    split
    · refine .bind ((h.rereadVm hw' a).mono fun row? w'' hrow => ?_)
      cases row? with
      | some row => exact hrow
      | none => exact hrow.1
    · exact hw'

/-- What is known of the rows that calls bring is known of the row that a machine resolves to. -/
theorem resolve : (resolve vm).Always R P (fun res => Supplied I Q res.row?) I w := by
  refine .bind ((h.findVm hw).mono fun row? w₁ hrow => ?_)
  cases row? with
  | some row => exact hrow
  | none =>
    show Attempt.Always R P _ I (discover vm) w₁
    unfold discover
    split
    · exact Supplied.none hrow.1
    · rename_i name _
      have hlook : (store (.getVdcByNamespace vm.ns)).Always R P (fun _ => I) I w₁ :=
        h.quiet (.call trivial) hrow.1
      refine .bind (hlook.mono fun v? w₂ hw₂ => ?_)
      cases v? with
      | none => exact Supplied.none hw₂
      | some v =>
        have hfinding := (ensureVApp_makes vm v name).mono fun _ hc => hc.isFinding
        refine .bind ((h.quiet hfinding hw₂).mono fun a w₃ hw₃ => ?_)
        exact .bind (h.createVm hw₃ a)

end Supplies

/-- Where the store answers calls, they bring rows of the table that have the name of the
machine. -/
theorem supplies_of_performed (vm : VirtualMachine)
    (hadmits : ∀ {c w}, c.IsFinding → I w → P c w)
    (hkeeps : ∀ {c w r w'}, c.IsFinding → I w → R c w r w' → I w')
    (hperformed : ∀ {c w v w'}, R c w (.ok v) w' → ∃ w₁, World.perform c w₁ = (.ok v, w')) :
    Supplies R P I (fun row w => row ∈ w.store.vms ∧ row.vmName = vm.name) vm where
  admits := hadmits
  keeps := hkeeps
  inVApp {id _ row w'} _ hr := by
    obtain ⟨w₁, hlook⟩ := hperformed hr
    have hfound : w₁.store.vmIn? id vm.name = some row := Except.ok.inj (congrArg Prod.fst hlook)
    obtain rfl : w₁ = w' := congrArg Prod.snd hlook
    obtain ⟨hmem, -, hname⟩ := Store.vmIn?_eq_some hfound
    exact ⟨hmem, hname⟩
  inNamespace {_ row w'} _ hr := by
    obtain ⟨w₁, hlook⟩ := hperformed hr
    have hfound : w₁.store.vmAt? vm.ns vm.name = some row :=
      Except.ok.inj (congrArg Prod.fst hlook)
    obtain rfl : w₁ = w' := congrArg Prod.snd hlook
    obtain ⟨hmem, -, hname⟩ := Store.vmAt?_eq_some hfound
    exact ⟨hmem, hname⟩
  made _ hr := by
    obtain ⟨w₁, hmade⟩ := hperformed hr
    exact World.mem_of_createVm hmade

end Reconcile

end TenantCloud
