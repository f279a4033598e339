import Mathlib.Logic.Function.Basic
import TenantCloud.Cluster.ObjectKey
import TenantCloud.Proofs.Store.Unique
import TenantCloud.Proofs.VirtualMachine.Facts

/-!
# Ledgers

The `Ledger` of a store is what it tells of vApps and machines apart from identities and times: the
status of each vApp by virtual datacenter and name, and the `VmProfile` of each machine by place.
Two stores with one ledger have the same rows but for these (`Store.mem_vappProfiles_iff`,
`Store.mem_vmProfiles_iff`). What a pass for a machine enters there is a function of the ledger and
of the `Sighting` of the machine, and sightings of different machines may be entered in any order
(`Ledger.enter_comm`).
-/

set_option autoImplicit false

namespace TenantCloud

/-- The facts that a row holds once what was seen is written to it. -/
def VmFacts.informed (held seen : VmFacts) : VmFacts :=
  match held.change? seen with
  | some change => ⟨change.cpuCount <|> held.cpuCount, change.memory <|> held.memory,
      change.guestOs <|> held.guestOs⟩
  | none => held

theorem Vm.facts_informed (x : Vm) (seen : VmFacts) :
    (x.informed seen).facts = x.facts.informed seen := by
  unfold informed VmFacts.informed
  cases x.facts.change? seen <;> rfl

/-- What the row of a machine tells apart from identities and times. -/
structure VmProfile where
  ns : String
  vmName : String
  name : String
  /-- The virtual datacenter and the name of its vApp, where the vApp is there. -/
  vapp : Option (Uuid × String)
  status : String
  facts : VmFacts
  deriving DecidableEq

/-- The profile with a status, and with what was seen of the machine. -/
def VmProfile.settled (p : VmProfile) (status : String) (seen : VmFacts) : VmProfile :=
  { p with status, facts := p.facts.informed seen }

namespace Store

def profile (s : Store) (r : Vm) : VmProfile where
  ns := r.ns
  vmName := r.vmName
  name := r.name
  vapp := (Table.get? s.vapps r.vappId).map fun a => (a.vdcId, a.name)
  status := r.status
  facts := r.facts

/-- The vApps, by virtual datacenter and name, with their status. -/
def vappProfiles (s : Store) : List (Uuid × String × VAppStatus) :=
  s.vapps.map fun a => (a.vdcId, a.name, a.status)

def vmProfiles (s : Store) : List VmProfile := s.vms.map s.profile

theorem profile_settled (s : Store) (x : Vm) (status : String) (seen : VmFacts) (t : Timestamp) :
    s.profile (x.settled status seen t) = (s.profile x).settled status seen := by
  have hns : (x.informed seen).ns = x.ns ∧ (x.informed seen).vmName = x.vmName ∧
      (x.informed seen).name = x.name ∧ (x.informed seen).vappId = x.vappId := by
    unfold Vm.informed
    split <;> exact ⟨rfl, rfl, rfl, rfl⟩
  obtain ⟨hns, hvmName, hname, hvapp⟩ := hns
  unfold Vm.settled profile VmProfile.settled
  dsimp only
  rw [hns, hvmName, hname, hvapp, ← Vm.facts_informed]
  rfl

end Store

/-! ## Ledgers -/

/-- The status of each vApp by virtual datacenter and name, and what is told of each machine. -/
@[ext]
structure Ledger where
  vapps : Uuid × String → Option VAppStatus
  machines : ObjectKey → Option VmProfile

/-- What a pass for a machine goes by. -/
structure Sighting where
  key : ObjectKey
  /-- The virtual datacenter and the name of the vApp that the machine would be put into. -/
  place? : Option (Uuid × String)
  displayName : String
  status : String
  facts : VmFacts

/-- The row that the machine would get. -/
def Sighting.fresh (m : Sighting) (place : Uuid × String) : VmProfile where
  ns := m.key.ns
  vmName := m.key.name
  name := m.displayName
  vapp := some place
  status := m.status
  facts := {}

namespace Ledger

/-- What is told of a machine once it is resolved. -/
def resolved (L : Ledger) (m : Sighting) : Option VmProfile :=
  L.machines m.key <|> m.place?.map m.fresh

/-- The machine needs this vApp for a row. -/
def Needs (L : Ledger) (m : Sighting) (place : Uuid × String) : Prop :=
  L.machines m.key = none ∧ m.place? = some place

instance (L : Ledger) (m : Sighting) (place : Uuid × String) : Decidable (L.Needs m place) :=
  inferInstanceAs (Decidable (_ ∧ _))

/-- The ledger after a pass for a machine. -/
def enter (L : Ledger) (m : Sighting) : Ledger where
  vapps k := L.vapps k <|> if L.Needs m k then some .instantiating else none
  machines := Function.update L.machines m.key ((L.resolved m).map (·.settled m.status m.facts))

section

variable {L : Ledger} {m m' : Sighting}

theorem machines_enter_self :
    (L.enter m).machines m.key = (L.resolved m).map (·.settled m.status m.facts) :=
  Function.update_self ..

theorem machines_enter_of_ne {k : ObjectKey} (hk : k ≠ m.key) :
    (L.enter m).machines k = L.machines k :=
  Function.update_of_ne hk ..

/-- A machine without a row and without a place for one is not entered. -/
theorem enter_of_unplaced (hnone : L.machines m.key = none) (hplace : m.place? = none) :
    L.enter m = L := by
  refine Ledger.ext (funext fun k => ?_) ?_
  · have hneeds : ¬ L.Needs m k := by
      rintro ⟨-, h⟩
      rw [hplace] at h
      cases h
    show (L.vapps k <|> if L.Needs m k then _ else none) = _
    rw [if_neg hneeds]
    cases L.vapps k <;> rfl
  · have hresolved : L.resolved m = none := by
      rw [resolved, hnone, hplace]
      rfl
    show Function.update L.machines m.key ((L.resolved m).map _) = _
    rw [hresolved, Function.update_eq_self_iff, hnone]
    rfl

variable (h : m.key ≠ m'.key)

include h

theorem needs_enter (k : Uuid × String) : (L.enter m).Needs m' k ↔ L.Needs m' k := by
  unfold Needs
  rw [machines_enter_of_ne h.symm]

theorem resolved_enter : (L.enter m).resolved m' = L.resolved m' := by
  unfold resolved
  rw [machines_enter_of_ne h.symm]

/-- Machines at different places may be entered in either order. -/
theorem enter_comm : (L.enter m).enter m' = (L.enter m').enter m := by
  refine Ledger.ext (funext fun k => ?_) ?_
  · show ((L.vapps k <|> if L.Needs m k then _ else none) <|>
        if (L.enter m).Needs m' k then _ else none) =
      ((L.vapps k <|> if L.Needs m' k then _ else none) <|>
        if (L.enter m').Needs m k then _ else none)
    simp only [needs_enter h, needs_enter h.symm]
    cases L.vapps k with
    | some status => rfl
    | none => split <;> split <;> rfl
  · show Function.update (L.enter m).machines m'.key (((L.enter m).resolved m').map _) =
      Function.update (L.enter m').machines m.key (((L.enter m').resolved m).map _)
    rw [resolved_enter h, resolved_enter h.symm]
    exact Function.update_comm h _ _ _

end

end Ledger

namespace Store

/-- What the store tells of vApps and machines. -/
def ledger (s : Store) : Ledger where
  vapps k := (s.vappNamed? k.1 k.2).map (·.status)
  machines k := (s.vmAt? k.ns k.name).map s.profile

variable {s : Store}

theorem mem_vappProfiles_iff (hs : s.Unique) {id : Uuid} {name : String} {status : VAppStatus} :
    (id, name, status) ∈ s.vappProfiles ↔ s.ledger.vapps (id, name) = some status := by
  constructor
  · intro h
    obtain ⟨a, ha, he⟩ := List.mem_map.1 h
    cases he
    have hfind : s.vappNamed? a.vdcId a.name = some a :=
      hs.vappName.find? ha fun b => by simp
    exact congrArg (Option.map _) hfind
  · intro h
    obtain ⟨a, ha, rfl⟩ := Option.map_eq_some_iff.1 h
    obtain ⟨hmem, rfl, rfl⟩ := vappNamed?_eq_some ha
    exact List.mem_map_of_mem hmem

theorem mem_vmProfiles_iff (hs : s.Unique) {p : VmProfile} :
    p ∈ s.vmProfiles ↔ s.ledger.machines ⟨p.ns, p.vmName⟩ = some p := by
  constructor
  · intro h
    obtain ⟨r, hr, rfl⟩ := List.mem_map.1 h
    have hfind : s.vmAt? r.ns r.vmName = some r := hs.vmAt.find? hr fun q => by simp [Vm.isAt]
    exact congrArg (Option.map s.profile) hfind
  · intro h
    obtain ⟨r, hr, he⟩ := Option.map_eq_some_iff.1 h
    exact List.mem_map.2 ⟨r, (vmAt?_eq_some hr).1, he⟩

end Store

end TenantCloud
