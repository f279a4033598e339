import TenantCloud.Proofs.Effect.Calm
import TenantCloud.Proofs.Store.Operations
import TenantCloud.Proofs.VirtualMachine.Facts

/-!
# What an observation writes

`Store.inform` writes what was seen of a machine to its row: the change is planned against the row,
and only where there is one is it stored. A field takes what was seen of it where that is usable
(`Takes`), and the plan has the fields that take another value and no others (`Notes`). Both hold
of every filter that lets through what is usable and not stored yet (`takes_filter`,
`notes_filter`), so that numbers and texts need only say what is usable.
-/

set_option autoImplicit false

namespace TenantCloud

/-! ## One field -/

section

variable {α : Type} {usable : α → Prop} {stored seen : Option α} {p : α → Bool}

/-- What a field holds once something was seen of it: that where it is usable, else what it held. -/
structure Takes (usable : α → Prop) (stored seen after : Option α) : Prop where
  taken : ∀ a, seen = some a → usable a → after = some a
  kept : (∀ a, seen = some a → ¬usable a) → after = stored

/-- A change has the field exactly if its value becomes another one, and then it has that value. -/
structure Notes (stored after change : Option α) : Prop where
  isSome_iff : change.isSome = true ↔ after ≠ stored
  value : change.isSome = true → change = after

theorem Notes.eq_none {after change : Option α} (h : Notes stored after change)
    (hsame : after = stored) : change = none := by
  have hnot : ¬change.isSome = true := mt h.isSome_iff.1 (not_not_intro hsame)
  simpa using hnot

theorem takes_filter (hp : ∀ a, p a = true ↔ usable a ∧ stored ≠ some a) :
    Takes usable stored seen (seen.filter p <|> stored) := by
  constructor
  · rintro a rfl husable
    by_cases hstored : stored = some a
    · -- What is stored already is not let through, and stays.
      have hpa : p a = false := by
        apply Bool.eq_false_iff.2
        intro ht
        exact ((hp a).1 ht).2 hstored
      simp [Option.filter, hpa, hstored]
    · simp [Option.filter, (hp a).2 ⟨husable, hstored⟩]
  · intro hnone
    cases seen with
    | none => rfl
    | some a =>
      have hpa : p a = false := by
        apply Bool.eq_false_iff.2
        intro ht
        exact hnone a rfl ((hp a).1 ht).1
      simp [Option.filter, hpa]

theorem notes_filter (hp : ∀ a, p a = true ↔ usable a ∧ stored ≠ some a) :
    Notes stored (seen.filter p <|> stored) (seen.filter p) := by
  cases hfilter : seen.filter p with
  | none => constructor <;> simp
  | some a =>
    obtain ⟨-, hpa⟩ := Option.filter_eq_some_iff.1 hfilter
    have hne : some a ≠ stored := ((hp a).1 hpa).2.symm
    constructor
    · simpa using hne
    · simp

end

namespace VmFacts

/-- A text that may describe a guest's system: not empty, and the word for an unknown one only where
there is no other. -/
def IsUsableGuestOs (stored : Option String) (os : String) : Prop :=
  os ≠ "" ∧ (os ≠ unknownGuestOs ∨ stored = none)

/-- What each fact makes of the stored one. -/
def changes (stored seen : VmFacts) : VmFacts where
  cpuCount := numberChange? stored.cpuCount seen.cpuCount
  memory := numberChange? stored.memory seen.memory
  guestOs := guestOsChange? stored.guestOs seen.guestOs

theorem change?_eq_none_iff (stored seen : VmFacts) :
    stored.change? seen = none ↔ stored.changes seen = {} := by
  show (if (stored.changes seen).isEmpty then none else some (stored.changes seen)) = none ↔ _
  obtain ⟨cpuCount, memory, guestOs⟩ := stored.changes seen
  cases cpuCount <;> cases memory <;> cases guestOs <;> simp [isEmpty]

theorem numberChange?_iff (stored : Option Int) (n : Int) :
    decide (0 < n ∧ stored ≠ some n) = true ↔ 0 < n ∧ stored ≠ some n :=
  decide_eq_true_iff

theorem guestOsChange?_iff (stored : Option String) (os : String) :
    decide (os ≠ "" ∧ stored ≠ some os ∧ ¬(os = unknownGuestOs ∧ stored.isSome)) = true ↔
      IsUsableGuestOs stored os ∧ stored ≠ some os := by
  rw [decide_eq_true_iff, IsUsableGuestOs]
  cases stored with
  | none => simp
  | some known =>
    simp only [ne_eq, Option.isSome_some, and_true, reduceCtorEq, or_false]
    exact and_assoc.symm.trans and_right_comm

end VmFacts

namespace Vm

/-- The row after an observation: each fact takes what was seen of it, the rest of the row stays. -/
structure Learns (row : Vm) (seen : VmFacts) (row' : Vm) : Prop where
  cpuCount : Takes (0 < ·) row.cpuCount seen.cpuCount row'.cpuCount
  memory : Takes (0 < ·) row.memory seen.memory row'.memory
  guestOs : Takes (VmFacts.IsUsableGuestOs row.guestOs) row.guestOs seen.guestOs row'.guestOs
  rest : row' = { row with
    cpuCount := row'.cpuCount, memory := row'.memory, guestOs := row'.guestOs }

/-- A plan for turning one row into another has exactly the facts that differ, and there is none
exactly if none differs. -/
structure IsPlan (row row' : Vm) (plan : Option VmFacts) : Prop where
  none_iff : plan = none ↔ row'.facts = row.facts
  cpuCount : ∀ change, plan = some change → Notes row.cpuCount row'.cpuCount change.cpuCount
  memory : ∀ change, plan = some change → Notes row.memory row'.memory change.memory
  guestOs : ∀ change, plan = some change → Notes row.guestOs row'.guestOs change.guestOs

variable (row : Vm) (seen : VmFacts)

theorem informed_eq : row.informed seen = row.withFacts (row.facts.changes seen) := by
  cases hplan : row.facts.change? seen with
  | none =>
    rw [informed_of_change? hplan, (VmFacts.change?_eq_none_iff _ _).1 hplan]
    rfl
  | some change =>
    rw [informed, hplan, VmFacts.change?_eq_some hplan]
    rfl

theorem learns_informed : row.Learns seen (row.informed seen) := by
  rw [informed_eq]
  constructor
  · exact takes_filter (VmFacts.numberChange?_iff row.cpuCount)
  · exact takes_filter (VmFacts.numberChange?_iff row.memory)
  · exact takes_filter (VmFacts.guestOsChange?_iff row.guestOs)
  · rfl

theorem isPlan_informed : row.IsPlan (row.informed seen) (row.facts.change? seen) := by
  let changes := row.facts.changes seen
  have hcpu : Notes row.cpuCount (changes.cpuCount <|> row.cpuCount) changes.cpuCount :=
    notes_filter (VmFacts.numberChange?_iff row.cpuCount)
  have hmemory : Notes row.memory (changes.memory <|> row.memory) changes.memory :=
    notes_filter (VmFacts.numberChange?_iff row.memory)
  have hguest : Notes row.guestOs (changes.guestOs <|> row.guestOs) changes.guestOs :=
    notes_filter (VmFacts.guestOsChange?_iff row.guestOs)
  rw [informed_eq]
  constructor
  · rw [VmFacts.change?_eq_none_iff]
    constructor
    · intro hnone
      rw [hnone]
      rfl
    · -- A fact that stays as it was is not in the plan.
      intro hsame
      have hcpu' : changes.cpuCount = none := hcpu.eq_none (congrArg VmFacts.cpuCount hsame)
      have hmemory' : changes.memory = none := hmemory.eq_none (congrArg VmFacts.memory hsame)
      have hguest' : changes.guestOs = none := hguest.eq_none (congrArg VmFacts.guestOs hsame)
      show VmFacts.mk changes.cpuCount changes.memory changes.guestOs = {}
      rw [hcpu', hmemory', hguest']
  all_goals
    intro change hplan
    rw [VmFacts.change?_eq_some hplan]
  · exact hcpu
  · exact hmemory
  · exact hguest

end Vm

namespace Store

/-- The store after what was seen of a machine is written to its row, where it changes anything. -/
def inform (s : Store) (row : Vm) (seen : VmFacts) : Store :=
  match row.facts.change? seen with
  | some change => (s.updateVmData row.id change).2
  | none => s

variable {s : Store} {row : Vm}

theorem get?_inform (hrow : Table.get? s.vms row.id = some row) (seen : VmFacts) :
    Table.get? (s.inform row seen).vms row.id = some (row.informed seen) ∧
      ∀ id, id ≠ row.id → Table.get? (s.inform row seen).vms id = Table.get? s.vms id := by
  cases hplan : row.facts.change? seen with
  | none =>
    rw [Vm.informed_of_change? hplan, inform, hplan]
    exact ⟨hrow, fun _ _ => rfl⟩
  | some change =>
    have hamended : Table.Amended s.vms (Table.amend s.vms row.id (·.withFacts change)) row.id
        (·.withFacts change) := Table.amended_amend fun _ => rfl
    rw [Vm.informed, inform, hplan]
    constructor
    · exact hamended.row.trans (congrArg (Option.map (·.withFacts change)) hrow)
    · exact hamended.others

/-- **What is planned is what changes.** Whatever a stored row holds and whatever was seen of its
machine, after the plan is stored each number is the one that was seen where that is positive, and
the guest operating system is the text that was seen where that is not empty and not the word for an
unknown one in another's place; else they are what they were, and so is the rest of the row with its
status and the time of its last update, and so is every other row. The plan has exactly the facts
that come to differ, there is none exactly if none does, and the same observation plans nothing
against the row that it was written to. -/
theorem learns_inform (hrow : Table.get? s.vms row.id = some row) (seen : VmFacts) :
    ∃ row', Table.get? (s.inform row seen).vms row.id = some row' ∧
      row.Learns seen row' ∧ row'.status = row.status ∧ row'.updatedAt = row.updatedAt ∧
      row.IsPlan row' (row.facts.change? seen) ∧ row'.facts.change? seen = none ∧
      ∀ id, id ≠ row.id → Table.get? (s.inform row seen).vms id = Table.get? s.vms id := by
  obtain ⟨hget, hothers⟩ := get?_inform hrow seen
  have hlearns := row.learns_informed seen
  refine ⟨row.informed seen, hget, hlearns, ?_, ?_, row.isPlan_informed seen,
    row.change?_informed seen, hothers⟩
  · rw [hlearns.rest]
  · rw [hlearns.rest]

/-- A machine with two processors. -/
def paired : Vm :=
  { vmRow (.ofNat 20) ⟨0, 0⟩ ⟨"Web", "web-0", "tenant-a", .ofNat 10, VmStatus.poweredOn.word⟩ with
    cpuCount := some 2 }

/-- Seen without processors, with four gibibytes and an unknown system, it keeps its two. -/
theorem learns_inform_paired :
    let s : Store := { vms := [paired] }
    let seen : VmFacts := ⟨some 0, some 4096, some VmFacts.unknownGuestOs⟩
    Table.get? s.vms paired.id = some paired ∧
    Table.get? (s.inform paired seen).vms paired.id = some { paired with
      memory := some 4096, guestOs := some VmFacts.unknownGuestOs } := by
  intro s seen
  have hrow : Table.get? s.vms paired.id = some paired := by decide
  obtain ⟨row', hget, hlearns, -⟩ := learns_inform hrow seen
  have hcpu : row'.cpuCount = some 2 := by
    apply hlearns.cpuCount.kept
    rintro _ ⟨⟩
    decide
  have hmemory : row'.memory = some 4096 := hlearns.memory.taken _ rfl (by decide)
  have hguest : row'.guestOs = some VmFacts.unknownGuestOs :=
    hlearns.guestOs.taken _ rfl ⟨by decide, .inr rfl⟩
  refine ⟨hrow, hget.trans (congrArg some ?_)⟩
  rw [hlearns.rest, hcpu, hmemory, hguest]
  rfl

end Store

/-- A pass for the facts of a machine that meets no failure leaves its row informed of what the
cluster shows, and no other row changed. -/
theorem Reconcile.vmFacts_does {w : World} {row : Vm} (hw : w.faults = [])
    (hrow : Table.get? w.store.vms row.id = some row) (vm : VirtualMachine) :
    let seen := VmFacts.observed vm (w.cluster.instances.get? ⟨vm.ns, vm.name⟩)
    ∃ t, w.Does (Reconcile.vmFacts vm row) () (w.setStore (w.store.inform row seen)) t := by
  intro seen
  have hlook : w.Does (Attempt.cluster (.getVirtualMachineInstance vm.ns vm.name))
      (w.cluster.instances.get? ⟨vm.ns, vm.name⟩) w _ := .look hw rfl rfl
  cases hplan : row.facts.change? seen with
  | none =>
    rw [Store.inform, hplan]
    apply Exists.intro
    apply hlook.bind
    rw [hplan]
    exact .pure w ()
  | some change =>
    have hthere : Table.has w.store.vms row.id = true := by
      rw [Table.has_eq_isSome_get?, hrow]
      rfl
    have hwrite : w.Does (Attempt.outcome (Attempt.store (.updateVmData row.id change)))
        (.ok true) (w.setStore (w.store.updateVmData row.id change).2)
        [.call (.store (.updateVmData row.id change))] := by
      apply World.Does.tried hw
      rw [← hthere]
      rfl
    rw [Store.inform, hplan]
    apply Exists.intro
    apply hlook.bind
    rw [hplan]
    exact hwrite.bind (.pure _ ())

end TenantCloud
