import TenantCloud.Store.Basic

/-!
# Uniqueness of rows

`Store.Unique` collects the keys that no two rows share: identities, the namespace of a virtual
datacenter that is not deleted, the name of a vApp in its virtual datacenter, and the two keys of a
machine. `Store.Keyed` are those of vApps and machines among them, and `Vm.Keyed` those of a table
of machines. A look-up by a key finds the row with that key (`Table.Distinct.find?`), and both a
creation that the store permits and a change that keeps the keys keep them apart.
-/

set_option autoImplicit false

namespace TenantCloud

namespace Table

variable {ρ κ : Type} {t : Table ρ} {key : ρ → κ}

/-- No two rows share a key. -/
def Distinct (t : Table ρ) (key : ρ → κ) : Prop := ∀ a ∈ t, ∀ b ∈ t, key a = key b → a = b

instance [DecidableEq ρ] [DecidableEq κ] : Decidable (t.Distinct key) :=
  inferInstanceAs (Decidable (∀ a ∈ t, ∀ b ∈ t, key a = key b → a = b))

/-- A row is found by what tells its key. -/
theorem Distinct.find? (h : t.Distinct key) {p : ρ → Bool} {r : ρ} (hr : r ∈ t)
    (hp : ∀ a, p a = true ↔ key a = key r) : t.find? p = some r := by
  cases hfind : t.find? p with
  | none => exact absurd ((hp r).2 rfl) (List.find?_eq_none.1 hfind r hr)
  | some a =>
    have ha := (hp a).1 (List.find?_some hfind)
    rw [h a (List.mem_of_find?_eq_some hfind) r hr ha]

theorem Distinct.map (h : t.Distinct key) {f : ρ → ρ} (hf : ∀ r, key (f r) = key r) :
    Distinct (t.map f) key := by
  intro a ha b hb hab
  obtain ⟨x, hx, rfl⟩ := List.mem_map.1 ha
  obtain ⟨y, hy, rfl⟩ := List.mem_map.1 hb
  rw [hf, hf] at hab
  rw [h x hx y hy hab]

/-- A change of one row that leaves its key to it. -/
theorem Distinct.amend [Row ρ] (h : t.Distinct key) {id : Uuid} {f : ρ → ρ}
    (hf : ∀ r, key (f r) = key r) : Distinct (t.amend id f) key := by
  refine h.map fun r => ?_
  split
  · exact hf r
  · rfl

theorem Distinct.concat (h : t.Distinct key) {row : ρ} (hrow : ∀ r ∈ t, key r ≠ key row) :
    Distinct (t ++ [row]) key := by
  intro a ha b hb hab
  rw [List.mem_append, List.mem_singleton] at ha hb
  rcases ha with ha | rfl
  · rcases hb with hb | rfl
    · exact h a ha b hb hab
    · exact absurd hab (hrow a ha)
  · rcases hb with hb | rfl
    · exact absurd hab.symm (hrow b hb)
    · rfl

end Table

/-- No two machines share a key. -/
structure Vm.Keyed (t : Table Vm) : Prop where
  vmId : t.Distinct Vm.id
  vmAt : t.Distinct fun r => (r.ns, r.vmName)
  vmIn : t.Distinct fun r => (r.vappId, r.vmName)

instance (t : Table Vm) : Decidable (Vm.Keyed t) :=
  decidable_of_iff (t.Distinct Vm.id ∧ t.Distinct (fun r => (r.ns, r.vmName)) ∧
      t.Distinct fun r => (r.vappId, r.vmName))
    ⟨fun ⟨hid, hat, hin⟩ => ⟨hid, hat, hin⟩, fun h => ⟨h.vmId, h.vmAt, h.vmIn⟩⟩

namespace Store

/-! ## Rows that are found -/

section

variable {s : Store} {r : Vm}

theorem vmIn?_eq_some {id : Uuid} {name : String} (h : s.vmIn? id name = some r) :
    r ∈ s.vms ∧ r.vappId = id ∧ r.vmName = name := by
  have hin := List.find?_some h
  simp only [Vm.isIn, Bool.and_eq_true, beq_iff_eq] at hin
  exact ⟨List.mem_of_find?_eq_some h, hin⟩

theorem vmAt?_eq_some {ns name : String} (h : s.vmAt? ns name = some r) :
    r ∈ s.vms ∧ r.ns = ns ∧ r.vmName = name := by
  have hat := List.find?_some h
  simp only [Vm.isAt, Bool.and_eq_true, beq_iff_eq] at hat
  exact ⟨List.mem_of_find?_eq_some h, hat⟩

theorem vdcAt?_eq_some {ns : String} {v : Vdc} (h : s.vdcAt? ns = some v) :
    v ∈ s.vdcs ∧ v.isDeleted = false ∧ v.bound? = some ns := by
  have hlive := List.find?_some h
  simp only [Vdc.liveAt, Bool.and_eq_true, Bool.not_eq_true', beq_iff_eq] at hlive
  exact ⟨List.mem_of_find?_eq_some h, hlive⟩

theorem vappNamed?_eq_some {id : Uuid} {name : String} {a : VApp}
    (h : s.vappNamed? id name = some a) : a ∈ s.vapps ∧ a.vdcId = id ∧ a.name = name := by
  have hnamed := List.find?_some h
  simp only [Bool.and_eq_true, beq_iff_eq] at hnamed
  exact ⟨List.mem_of_find?_eq_some h, hnamed⟩

/-- The vApp with a name in the virtual datacenter of a namespace. -/
def vappAt? (s : Store) (n name : String) : Option VApp :=
  (s.vdcAt? n).bind fun v => s.vappNamed? v.id name

theorem vappAt?_eq_some {n name : String} {a : VApp} (h : s.vappAt? n name = some a) :
    ∃ v, s.vdcAt? n = some v ∧ a ∈ s.vapps ∧ a.vdcId = v.id := by
  obtain ⟨v, hv, h⟩ := Option.bind_eq_some_iff.1 h
  obtain ⟨ha, hid, -⟩ := vappNamed?_eq_some h
  exact ⟨v, hv, ha, hid⟩

end

/-! ## Uniqueness -/

/-- No two vApps and no two machines share a key. -/
structure Keyed (s : Store) : Prop extends toVms : Vm.Keyed s.vms where
  vappId : s.vapps.Distinct VApp.id
  vappName : s.vapps.Distinct fun a => (a.vdcId, a.name)

/-- The rows of a store obey its uniqueness rules. -/
structure Unique (s : Store) : Prop extends Keyed s where
  vdcId : s.vdcs.Distinct Vdc.id
  vdcBound : ∀ v ∈ s.vdcs, ∀ u ∈ s.vdcs, v.isDeleted = false → u.isDeleted = false →
    v.bound?.isSome = true → v.bound? = u.bound? → v = u

variable {s : Store}

instance : Decidable s.Keyed :=
  decidable_of_iff (Vm.Keyed s.vms ∧ s.vapps.Distinct VApp.id ∧
      s.vapps.Distinct fun a => (a.vdcId, a.name))
    ⟨fun ⟨hvms, hid, hname⟩ => ⟨hvms, hid, hname⟩, fun h => ⟨h.toVms, h.vappId, h.vappName⟩⟩

instance : Decidable s.Unique :=
  decidable_of_iff (s.Keyed ∧ s.vdcs.Distinct Vdc.id ∧ _)
    ⟨fun ⟨hkeyed, hid, hbound⟩ => ⟨hkeyed, hid, hbound⟩, fun h => ⟨h.toKeyed, h.vdcId, h.vdcBound⟩⟩

theorem Keyed.updateVAppStatus (h : s.Keyed) (now : Timestamp) (id : Uuid) (status : VAppStatus) :
    (s.updateVAppStatus now id status).2.Keyed :=
  { h with
    vappId := h.vappId.amend fun _ => rfl
    vappName := h.vappName.amend fun _ => rfl }

theorem Unique.updateVAppStatus (h : s.Unique) (now : Timestamp) (id : Uuid) (st : VAppStatus) :
    (s.updateVAppStatus now id st).2.Unique :=
  { h with toKeyed := h.toKeyed.updateVAppStatus now id st }

end Store

end TenantCloud
