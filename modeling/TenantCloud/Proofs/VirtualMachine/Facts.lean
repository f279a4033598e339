import Mathlib.Data.Option.Basic
import TenantCloud.VirtualMachine.Facts

/-!
# Rows that are written again

What was seen of a machine changes nothing about a row that it was written to
(`Vm.change?_informed`). `Vm.IsVersion` is a row to which the status or the facts may have been
written; where nothing is left to write it is `Vm.settled`.

Whatever the cluster shows, a change of facts is fit to be stored: its numbers are positive and its
text is not blank (`VmFacts.isSound_of_change?`). So a row retains what it holds
(`Vm.retains_withFacts`).
-/

set_option autoImplicit false

namespace TenantCloud

namespace VmFacts

/-- What was let through once is stored, and not let through again. -/
theorem filter_stored {α : Type} {p : Option α → α → Bool} (hp : ∀ a, p (some a) a = false)
    (stored seen : Option α) : seen.filter (p ((seen.filter (p stored)).or stored)) = none := by
  cases seen with
  | none => rfl
  | some a => cases h : p stored a <;> simp [Option.filter, h, hp]

theorem numberChange?_merged (stored seen : Option Int) :
    numberChange? ((numberChange? stored seen).or stored) seen = none :=
  filter_stored (p := fun stored (n : Int) => decide (0 < n ∧ stored ≠ some n))
    (by simp) stored seen

theorem guestOsChange?_merged (stored seen : Option String) :
    guestOsChange? ((guestOsChange? stored seen).or stored) seen = none :=
  filter_stored (p := fun stored (os : String) =>
    decide (os ≠ "" ∧ stored ≠ some os ∧ ¬(os = unknownGuestOs ∧ stored.isSome)))
    (by simp) stored seen

end VmFacts

/-! ## Facts that are fit to be stored -/

theorem Text.isBlankText_append (s t : String) :
    Text.isBlankText (s ++ t) = (Text.isBlankText s && Text.isBlankText t) := by
  simp [Text.isBlankText]

theorem nonBlank?_eq_some {s : Option String} {t : String} (h : nonBlank? s = some t) :
    Text.isBlankText t = false := by
  obtain ⟨-, ht⟩ := Option.filter_eq_some_iff.1 h
  simpa using ht

theorem GuestOsInfo.isBlankText_describe {i : GuestOsInfo} {os : String}
    (h : i.describe = some os) : Text.isBlankText os = false := by
  rcases (Option.orElse_eq_some _ _ _).1 h with hpretty | ⟨-, h⟩
  · exact nonBlank?_eq_some hpretty
  rcases (Option.orElse_eq_some _ _ _).1 h with hnamed | ⟨-, hid⟩
  · obtain ⟨name, hname, rfl⟩ := Option.map_eq_some_iff.1 hnamed
    have hblank := nonBlank?_eq_some hname
    split
    · rw [Text.isBlankText_append, Text.isBlankText_append, hblank, Bool.false_and, Bool.false_and]
    · exact hblank
  · exact nonBlank?_eq_some hid

namespace VmFacts

/-- The numbers are positive and the text is not blank. -/
structure IsSound (f : VmFacts) : Prop where
  cpuCount : ∀ n, f.cpuCount = some n → 0 < n
  memory : ∀ n, f.memory = some n → 0 < n
  guestOs : ∀ os, f.guestOs = some os → Text.isBlankText os = false

theorem isBlankText_observedGuestOs {vm : VirtualMachine} {vmi : Option VirtualMachineInstance}
    {os : String} (h : observedGuestOs vm vmi = some os) : Text.isBlankText os = false := by
  rcases (Option.orElse_eq_some _ _ _).1 h with hlive | ⟨-, h⟩
  · obtain ⟨i, -, hdescribe⟩ := Option.bind_eq_some_iff.1 hlive
    exact i.isBlankText_describe hdescribe
  rcases (Option.orElse_eq_some _ _ _).1 h with hdeclared | ⟨-, hunknown⟩
  · exact nonBlank?_eq_some hdeclared
  · obtain ⟨i, -, rfl⟩ := Option.map_eq_some_iff.1 hunknown
    decide

theorem pos_of_numberChange? {stored seen : Option Int} {n : Int}
    (h : numberChange? stored seen = some n) : 0 < n := by
  obtain ⟨-, hn⟩ := Option.filter_eq_some_iff.1 h
  exact (of_decide_eq_true hn).1

/-- A change is what each fact makes of the stored one. -/
theorem change?_eq_some {stored seen change : VmFacts} (h : stored.change? seen = some change) :
    change = {
      cpuCount := numberChange? stored.cpuCount seen.cpuCount
      memory := numberChange? stored.memory seen.memory
      guestOs := guestOsChange? stored.guestOs seen.guestOs } := by
  unfold change? at h
  dsimp only at h
  split at h
  · cases h
  · exact (Option.some.inj h).symm

/-- Whatever the cluster shows, a change is fit to be stored, and the word for an unknown system
takes no other's place. -/
theorem isSound_of_change? {stored change : VmFacts} {vm : VirtualMachine}
    {vmi : Option VirtualMachineInstance} (h : stored.change? (observed vm vmi) = some change) :
    change.IsSound ∧ (stored.guestOs.isSome = true → change.guestOs ≠ some unknownGuestOs) := by
  rw [change?_eq_some h]
  refine ⟨⟨fun n hn => pos_of_numberChange? hn, fun n hn => pos_of_numberChange? hn,
    fun os hos => ?_⟩, fun hsome hunknown => ?_⟩
  · exact isBlankText_observedGuestOs (Option.filter_eq_some_iff.1 hos).1
  · obtain ⟨-, hos⟩ := Option.filter_eq_some_iff.1 hunknown
    exact (of_decide_eq_true hos).2.2 ⟨rfl, hsome⟩

end VmFacts

namespace Vm

/-- The row with what was seen of the machine. -/
def informed (row : Vm) (seen : VmFacts) : Vm :=
  match row.facts.change? seen with
  | some change => row.withFacts change
  | none => row

theorem informed_of_change? {row : Vm} {seen : VmFacts} (h : row.facts.change? seen = none) :
    row.informed seen = row := by
  rw [informed, h]

/-- What was seen changes nothing once it is stored. -/
theorem change?_informed (row : Vm) (seen : VmFacts) :
    (row.informed seen).facts.change? seen = none := by
  cases h : row.facts.change? seen with
  | none => rw [informed_of_change? h, h]
  | some change =>
    have hchange := VmFacts.change?_eq_some h
    have hfacts : (row.informed seen).facts = (row.withFacts change).facts := by
      rw [informed, h]
    rw [hfacts, hchange]
    simp [VmFacts.change?, withFacts, facts, VmFacts.numberChange?_merged,
      VmFacts.guestOsChange?_merged, VmFacts.isEmpty]

/-! ## Rows that retain what they hold -/

/-- A fact that stays or becomes another one does not go. -/
theorem isSome_of_kept {α : Type} {P : α → Prop} {x y : Option α}
    (h : y = x ∨ ∃ a, y = some a ∧ P a) (hx : x.isSome = true) : y.isSome = true := by
  rcases h with he | ⟨a, he, -⟩ <;> rw [he]
  · exact hx
  · rfl

/-- A change that is present takes the place of what was there. -/
theorem kept_orElse {α : Type} {P : α → Prop} {change x : Option α}
    (h : ∀ a, change = some a → P a) :
    (change <|> x) = x ∨ ∃ a, (change <|> x) = some a ∧ P a := by
  cases change with
  | none => exact .inl rfl
  | some a => exact .inr ⟨a, rfl, h a rfl⟩

/-- What no pass changes of a row, and how its facts may change: a number to a positive one, the
guest operating system to a text that is not blank, and to the word for an unknown one only where
there was nothing. -/
structure Retains (r r' : Vm) : Prop where
  id : r'.id = r.id
  name : r'.name = r.name
  vmName : r'.vmName = r.vmName
  ns : r'.ns = r.ns
  vappId : r'.vappId = r.vappId
  createdAt : r'.createdAt = r.createdAt
  cpuCount : r'.cpuCount = r.cpuCount ∨ ∃ n, r'.cpuCount = some n ∧ 0 < n
  memory : r'.memory = r.memory ∨ ∃ n, r'.memory = some n ∧ 0 < n
  guestOs : r'.guestOs = r.guestOs ∨ ∃ os, r'.guestOs = some os ∧ Text.isBlankText os = false ∧
    (r.guestOs.isSome = true → os ≠ VmFacts.unknownGuestOs)

theorem Retains.refl (r : Vm) : r.Retains r :=
  ⟨rfl, rfl, rfl, rfl, rfl, rfl, .inl rfl, .inl rfl, .inl rfl⟩

theorem Retains.trans {r r' r'' : Vm} (h : r.Retains r') (h' : r'.Retains r'') :
    r.Retains r'' where
  id := h'.id.trans h.id
  name := h'.name.trans h.name
  vmName := h'.vmName.trans h.vmName
  ns := h'.ns.trans h.ns
  vappId := h'.vappId.trans h.vappId
  createdAt := h'.createdAt.trans h.createdAt
  cpuCount := h'.cpuCount.elim (fun he => he ▸ h.cpuCount) .inr
  memory := h'.memory.elim (fun he => he ▸ h.memory) .inr
  guestOs := h'.guestOs.elim (fun he => he ▸ h.guestOs) fun ⟨os, hos, hblank, hknown⟩ =>
    .inr ⟨os, hos, hblank, fun hsome => hknown (isSome_of_kept h.guestOs hsome)⟩

/-- What was there of the facts stays there. -/
theorem Retains.isSome {r r' : Vm} (h : r.Retains r') :
    (r.cpuCount.isSome = true → r'.cpuCount.isSome = true) ∧
    (r.memory.isSome = true → r'.memory.isSome = true) ∧
    (r.guestOs.isSome = true → r'.guestOs.isSome = true) :=
  ⟨isSome_of_kept h.cpuCount, isSome_of_kept h.memory, isSome_of_kept h.guestOs⟩

theorem retains_withFacts {r : Vm} {change : VmFacts} (h : change.IsSound)
    (hknown : r.guestOs.isSome = true → change.guestOs ≠ some VmFacts.unknownGuestOs) :
    r.Retains (r.withFacts change) where
  id := rfl
  name := rfl
  vmName := rfl
  ns := rfl
  vappId := rfl
  createdAt := rfl
  cpuCount := kept_orElse h.cpuCount
  memory := kept_orElse h.memory
  guestOs := kept_orElse fun os hos =>
    ⟨h.guestOs os hos, fun hsome he => hknown hsome (by rw [hos, he])⟩

/-! ## Versions -/

/-- The row after its status may have been written, and its facts. -/
def IsVersion (desired : String) (seen : VmFacts) (x y : Vm) : Prop :=
  ∃ z status updatedAt, (z = x ∨ z = x.informed seen) ∧ (status = x.status ∨ status = desired) ∧
    y = { z with status, updatedAt }

/-- The row after both have been written. -/
def settled (x : Vm) (desired : String) (seen : VmFacts) (updatedAt : Timestamp) : Vm :=
  { x.informed seen with status := desired, updatedAt }

namespace IsVersion

variable {desired : String} {seen : VmFacts} {x y : Vm}

theorem refl (x : Vm) : IsVersion desired seen x x :=
  ⟨x, x.status, x.updatedAt, .inl rfl, .inl rfl, rfl⟩

theorem withStatus (h : IsVersion desired seen x y) (now : Timestamp) :
    IsVersion desired seen x { y with status := desired, updatedAt := now } := by
  obtain ⟨z, status, t, hz, -, rfl⟩ := h
  exact ⟨z, desired, now, hz, .inr rfl, rfl⟩

theorem withFacts (h : IsVersion desired seen x y) {change : VmFacts}
    (hchange : y.facts.change? seen = some change) :
    IsVersion desired seen x (y.withFacts change) ∧
      (y.withFacts change).facts.change? seen = none := by
  obtain ⟨z, status, t, hz, hstatus, rfl⟩ := h
  have hchange : z.facts.change? seen = some change := hchange
  have hinformed : z.withFacts change = z.informed seen := by
    rw [informed, hchange]
  have hz : z = x := by
    refine hz.resolve_right fun hz => ?_
    rw [hz, change?_informed] at hchange
    cases hchange
  subst hz
  have hrow : Vm.withFacts { z with status, updatedAt := t } change =
      { z.informed seen with status, updatedAt := t } := by
    rw [← hinformed]
    rfl
  rw [hrow]
  exact ⟨⟨_, status, t, .inr rfl, hstatus, rfl⟩, z.change?_informed seen⟩

/-- Nothing is left to be written. -/
theorem settled (h : IsVersion desired seen x y) (hstatus : y.status = desired)
    (hfacts : y.facts.change? seen = none) : ∃ t, y = x.settled desired seen t := by
  obtain ⟨z, status, t, hz, -, rfl⟩ := h
  obtain rfl : status = desired := hstatus
  have hfacts : z.facts.change? seen = none := hfacts
  refine ⟨t, ?_⟩
  rcases hz with rfl | rfl
  · rw [Vm.settled, informed_of_change? hfacts]
  · rfl

end IsVersion

end Vm

end TenantCloud
