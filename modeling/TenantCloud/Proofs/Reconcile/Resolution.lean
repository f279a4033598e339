import TenantCloud.Proofs.Effect.Calm
import TenantCloud.Proofs.Store.Unique
import TenantCloud.Reconcile.Binding

/-!
# What a machine resolves to

`Store.rowOf?` is the row that a machine has already: the one that the vApp identity on its label
leads to, else the one in its namespace, else the one of its name in the vApp that it would be put
into. In an orderly world without faults a machine resolves to that row and nothing is written;
where there is none, it gets a row of its own, or it is not managed (`Reconcile.resolve_settles`).
-/

set_option autoImplicit false

namespace TenantCloud

/-! ## Rows that are there -/

namespace Store

variable {s : Store} {vm : VirtualMachine} {r : Vm}

/-- The vApp that a machine is put into, where it is there. -/
def vappFor? (s : Store) (vm : VirtualMachine) : Option VApp :=
  vm.labelledVAppName?.bind (s.vappAt? vm.ns)

/-- The row that the vApp identity on the label leads to. -/
def labelledRow? (s : Store) (vm : VirtualMachine) : Option Vm :=
  vm.labelledVAppId?.bind fun id => s.vmIn? id vm.name

/-- The row that the label leads to, else the one in the namespace. -/
def knownRow? (s : Store) (vm : VirtualMachine) : Option Vm :=
  (s.labelledRow? vm).or (s.vmAt? vm.ns vm.name)

/-- The row that a machine has already. -/
def rowOf? (s : Store) (vm : VirtualMachine) : Option Vm :=
  (s.knownRow? vm).or ((s.vappFor? vm).bind fun a => s.vmIn? a.id vm.name)

theorem vappFor?_eq_some {a : VApp} (h : s.vappFor? vm = some a) :
    ∃ v, s.vdcAt? vm.ns = some v ∧ a ∈ s.vapps ∧ a.vdcId = v.id := by
  obtain ⟨name, -, h⟩ := Option.bind_eq_some_iff.1 h
  exact vappAt?_eq_some h

theorem labelledRow?_eq_some (h : s.labelledRow? vm = some r) :
    r ∈ s.vms ∧ r.vmName = vm.name ∧ vm.labelledVAppId? = some r.vappId := by
  obtain ⟨id, hid, h⟩ := Option.bind_eq_some_iff.1 h
  obtain ⟨hmem, rfl, hname⟩ := vmIn?_eq_some h
  exact ⟨hmem, hname, hid⟩

/-- The three ways to a row. -/
theorem rowOf?_cases (h : s.rowOf? vm = some r) : r ∈ s.vms ∧ r.vmName = vm.name ∧
    (vm.labelledVAppId? = some r.vappId ∨ r.ns = vm.ns ∨
      ∃ a, s.vappFor? vm = some a ∧ r.vappId = a.id) := by
  rcases Option.or_eq_some_iff.1 h with h | ⟨-, h⟩
  · rcases Option.or_eq_some_iff.1 h with h | ⟨-, h⟩
    · obtain ⟨hmem, hname, hlabel⟩ := labelledRow?_eq_some h
      exact ⟨hmem, hname, .inl hlabel⟩
    · obtain ⟨hmem, hns, hname⟩ := vmAt?_eq_some h
      exact ⟨hmem, hname, .inr (.inl hns)⟩
  · obtain ⟨a, ha, h⟩ := Option.bind_eq_some_iff.1 h
    obtain ⟨hmem, hid, hname⟩ := vmIn?_eq_some h
    exact ⟨hmem, hname, .inr (.inr ⟨a, ha, hid⟩)⟩

/-- The store got a row for a machine, in a vApp of the virtual datacenter of its namespace. -/
structure Gains (s : Store) (vm : VirtualMachine) (row : Vm) (s' : Store) : Prop where
  fresh : ∀ r ∈ s.vms, r.id ≠ row.id
  ns : row.ns = vm.ns
  vmName : row.vmName = vm.name
  vdcs : s'.vdcs = s.vdcs
  vms : s'.vms = s.vms ++ [row]
  vapp : ∃ v, s.vdcAt? vm.ns = some v ∧ ∃ a ∈ s'.vapps, a.vdcId = v.id ∧ row.vappId = a.id

/-- How a machine is resolved: to the row that it has already, or, where it has none, to one that
the store gained, if it is managed at all. -/
inductive Resolves (s : Store) (vm : VirtualMachine) : Resolution → Store → Prop
  | found {r : Vm} {created : Bool} (h : s.rowOf? vm = some r) :
      Resolves s vm (.resolved r created) s
  | made {r : Vm} {s' : Store} (h : s.rowOf? vm = none) (gains : s.Gains vm r s') :
      Resolves s vm (.resolved r true) s'
  | notManaged {reason : String} : Resolves s vm (.notManaged reason) s

end Store

/-! ## Identities to come -/

namespace World

/-- The next identities of vApps are distinct, and no row has or names one. -/
structure FreshVApps (k : Nat) (w : World) : Prop where
  vapps : ∀ i < k, ∀ a ∈ w.store.vapps, a.id ≠ w.ids.vappId (w.ids.vapps + i)
  vms : ∀ i < k, ∀ r ∈ w.store.vms, r.vappId ≠ w.ids.vappId (w.ids.vapps + i)
  distinct : ∀ i < k, ∀ j < k,
    w.ids.vappId (w.ids.vapps + i) = w.ids.vappId (w.ids.vapps + j) → i = j

/-- The next identities of machines are distinct, and no row has one. -/
structure FreshVms (k : Nat) (w : World) : Prop where
  vms : ∀ i < k, ∀ r ∈ w.store.vms, r.id ≠ w.ids.vmId (w.ids.vms + i)
  distinct : ∀ i < k, ∀ j < k, w.ids.vmId (w.ids.vms + i) = w.ids.vmId (w.ids.vms + j) → i = j

/-- The rows obey the uniqueness rules, and the next identities are new. -/
structure Orderly (j k : Nat) (w : World) : Prop where
  unique : w.store.Unique
  vapps : w.FreshVApps j
  vms : w.FreshVms k

variable {j k : Nat} {w : World}

theorem Orderly.mono {j' k' : Nat} (h : w.Orderly j k) (hj : j' ≤ j) (hk : k' ≤ k) :
    w.Orderly j' k' where
  unique := h.unique
  vapps := ⟨fun i hi => h.vapps.vapps i (by omega), fun i hi => h.vapps.vms i (by omega),
    fun i hi i' hi' => h.vapps.distinct i (by omega) i' (by omega)⟩
  vms := ⟨fun i hi => h.vms.vms i (by omega),
    fun i hi i' hi' => h.vms.distinct i (by omega) i' (by omega)⟩

/-- The cluster and the time do not count. -/
theorem Orderly.congr {w' : World} (h : w.Orderly j k) (hs : w'.store = w.store)
    (hids : w'.ids = w.ids) : w'.Orderly j k := by
  obtain ⟨hunique, ⟨hvapps, hvms, hdistinct⟩, ⟨hvms', hdistinct'⟩⟩ := h
  rw [← hs] at hunique hvapps hvms hvms'
  rw [← hids] at hvapps hvms hdistinct hvms' hdistinct'
  exact ⟨hunique, ⟨hvapps, hvms, hdistinct⟩, ⟨hvms', hdistinct'⟩⟩

/-! ## New rows -/

/-- The world with a row for a vApp, which took an identity. -/
def addVApp (w : World) (row : VApp) : World :=
  { w with
    store := { w.store with vapps := w.store.vapps ++ [row] }
    ids := { w.ids with vapps := w.ids.vapps + 1 } }

/-- The world with a row for a machine, which took an identity. -/
def addVm (w : World) (row : Vm) : World :=
  { w with
    store := { w.store with vms := w.store.vms ++ [row] }
    ids := { w.ids with vms := w.ids.vms + 1 } }

theorem Orderly.addVApp (h : w.Orderly (j + 1) k) (new : NewVApp)
    (hnone : w.store.vappNamed? new.vdcId new.name = none) :
    (w.addVApp (Store.vappRow w.ids.nextVApp w.now new)).Orderly j k := by
  have hid : ∀ a ∈ w.store.vapps, a.id ≠ w.ids.nextVApp := fun a ha =>
    h.vapps.vapps 0 (by omega) a ha
  have hnamed : ∀ a ∈ w.store.vapps, (a.vdcId, a.name) ≠ (new.vdcId, new.name) := by
    intro a ha he
    have hno := List.find?_eq_none.1 hnone a ha
    simp only [Prod.mk.injEq] at he
    simp [he] at hno
  have hshift : ∀ i, w.ids.vapps + 1 + i = w.ids.vapps + (i + 1) := fun i => by omega
  refine ⟨{ h.unique with
    vappId := h.unique.vappId.concat hid
    vappName := h.unique.vappName.concat hnamed }, ⟨fun i hi a ha => ?_, fun i hi => ?_, ?_⟩,
    ⟨h.vms.vms, h.vms.distinct⟩⟩
  · show a.id ≠ w.ids.vappId (w.ids.vapps + 1 + i)
    rw [hshift]
    rcases List.mem_append.1 ha with ha | ha
    · exact h.vapps.vapps (i + 1) (by omega) a ha
    · obtain rfl := List.mem_singleton.1 ha
      intro he
      exact absurd (h.vapps.distinct 0 (by omega) (i + 1) (by omega) he) (by omega)
  · show ∀ r ∈ w.store.vms, r.vappId ≠ w.ids.vappId (w.ids.vapps + 1 + i)
    rw [hshift]
    exact h.vapps.vms (i + 1) (by omega)
  · intro i hi i' hi' he
    have he' : w.ids.vappId (w.ids.vapps + 1 + i) = w.ids.vappId (w.ids.vapps + 1 + i') := he
    rw [hshift, hshift] at he'
    have hsucc := h.vapps.distinct (i + 1) (by omega) (i' + 1) (by omega) he'
    omega

theorem Orderly.addVm (h : w.Orderly j (k + 1)) {new : NewVm}
    (hat : w.store.vmAt? new.ns new.vmName = none)
    (hin : w.store.vmIn? new.vappId new.vmName = none)
    (hvapp : ∃ a ∈ w.store.vapps, a.id = new.vappId) :
    (w.addVm (Store.vmRow w.ids.nextVm w.now new)).Orderly j k := by
  have hid : ∀ r ∈ w.store.vms, r.id ≠ w.ids.nextVm := fun r hr => h.vms.vms 0 (by omega) r hr
  have hplace : ∀ r ∈ w.store.vms, (r.ns, r.vmName) ≠ (new.ns, new.vmName) := by
    intro r hr he
    have hno := List.find?_eq_none.1 hat r hr
    simp only [Prod.mk.injEq] at he
    simp [Vm.isAt, he] at hno
  have hmember : ∀ r ∈ w.store.vms, (r.vappId, r.vmName) ≠ (new.vappId, new.vmName) := by
    intro r hr he
    have hno := List.find?_eq_none.1 hin r hr
    simp only [Prod.mk.injEq] at he
    simp [Vm.isIn, he] at hno
  have hshift : ∀ i, w.ids.vms + 1 + i = w.ids.vms + (i + 1) := fun i => by omega
  refine ⟨{ h.unique with
    vmId := h.unique.vmId.concat hid
    vmAt := h.unique.vmAt.concat hplace
    vmIn := h.unique.vmIn.concat hmember },
    ⟨h.vapps.vapps, fun i hi r hr => ?_, h.vapps.distinct⟩, ⟨fun i hi r hr => ?_, ?_⟩⟩
  · rcases List.mem_append.1 hr with hr | hr
    · exact h.vapps.vms i hi r hr
    · obtain rfl := List.mem_singleton.1 hr
      obtain ⟨a, ha, hid⟩ := hvapp
      intro he
      exact h.vapps.vapps i hi a ha (hid.trans he)
  · show r.id ≠ w.ids.vmId (w.ids.vms + 1 + i)
    rw [hshift]
    rcases List.mem_append.1 hr with hr | hr
    · exact h.vms.vms (i + 1) (by omega) r hr
    · obtain rfl := List.mem_singleton.1 hr
      intro he
      exact absurd (h.vms.distinct 0 (by omega) (i + 1) (by omega) he) (by omega)
  · intro i hi i' hi' he
    have he' : w.ids.vmId (w.ids.vms + 1 + i) = w.ids.vmId (w.ids.vms + 1 + i') := he
    rw [hshift, hshift] at he'
    have hsucc := h.vms.distinct (i + 1) (by omega) (i' + 1) (by omega) he'
    omega

/-- A creation that clashes with no row takes the next identity. -/
theorem perform_createVApp_of_free {new : NewVApp}
    (hnew : ∀ a ∈ w.store.vapps, a.id ≠ w.ids.nextVApp)
    (hclash : w.store.vapps.any (Store.clashesVApp new) = false) :
    perform (.store (.createVApp new)) w = (.ok (Store.vappRow w.ids.nextVApp w.now new),
      w.addVApp (Store.vappRow w.ids.nextVApp w.now new)) := by
  have hfresh : Table.has w.store.vapps w.ids.nextVApp = false :=
    List.any_eq_false.2 fun a ha hid => hnew a ha (beq_iff_eq.1 hid)
  have hput : Table.put w.store.vapps (Store.vappRow w.ids.nextVApp w.now new) =
      w.store.vapps ++ [Store.vappRow w.ids.nextVApp w.now new] := Table.put_of_fresh hfresh
  have hcreate : w.store.createVApp w.ids.nextVApp w.now new =
      .ok (Store.vappRow w.ids.nextVApp w.now new,
        (w.addVApp (Store.vappRow w.ids.nextVApp w.now new)).store) := by
    rw [Store.createVApp, hclash]
    simp only [hput]
    rfl
  show performStore w (.createVApp new) = _
  simp only [performStore, hcreate]
  rfl

theorem perform_createVApp (h : w.Orderly (j + 1) k) (new : NewVApp)
    (hnone : w.store.vappNamed? new.vdcId new.name = none) :
    perform (.store (.createVApp new)) w = (.ok (Store.vappRow w.ids.nextVApp w.now new),
      w.addVApp (Store.vappRow w.ids.nextVApp w.now new)) :=
  perform_createVApp_of_free (h.vapps.vapps 0 (by omega))
    (List.any_eq_false.2 (List.find?_eq_none.1 hnone))

/-- A creation that clashes with no row takes the next identity. -/
theorem perform_createVm_of_free {new : NewVm} (hnew : ∀ r ∈ w.store.vms, r.id ≠ w.ids.nextVm)
    (hclash : w.store.vms.any (Store.clashesVm new) = false) :
    perform (.store (.createVm new)) w = (.ok (Store.vmRow w.ids.nextVm w.now new),
      w.addVm (Store.vmRow w.ids.nextVm w.now new)) := by
  have hfresh : Table.has w.store.vms w.ids.nextVm = false :=
    List.any_eq_false.2 fun r hr hid => hnew r hr (beq_iff_eq.1 hid)
  have hput : Table.put w.store.vms (Store.vmRow w.ids.nextVm w.now new) =
      w.store.vms ++ [Store.vmRow w.ids.nextVm w.now new] := Table.put_of_fresh hfresh
  have hcreate : w.store.createVm w.ids.nextVm w.now new =
      .ok (Store.vmRow w.ids.nextVm w.now new,
        (w.addVm (Store.vmRow w.ids.nextVm w.now new)).store) := by
    rw [Store.createVm, hclash]
    simp only [hput]
    rfl
  show performStore w (.createVm new) = _
  simp only [performStore, hcreate]
  rfl

theorem perform_createVm (h : w.Orderly j (k + 1)) (new : NewVm)
    (hat : w.store.vmAt? new.ns new.vmName = none)
    (hin : w.store.vmIn? new.vappId new.vmName = none) :
    perform (.store (.createVm new)) w = (.ok (Store.vmRow w.ids.nextVm w.now new),
      w.addVm (Store.vmRow w.ids.nextVm w.now new)) := by
  refine perform_createVm_of_free (h.vms.vms 0 (by omega)) (List.any_eq_false.2 fun r hr => ?_)
  have hno := List.find?_eq_none.1 hat r hr
  have hno' := List.find?_eq_none.1 hin r hr
  simp only [Vm.isAt, Bool.and_eq_true, beq_iff_eq] at hno
  simp only [Vm.isIn, Bool.and_eq_true, beq_iff_eq] at hno'
  simp only [Store.clashesVm, Bool.and_eq_true, Bool.or_eq_true, beq_iff_eq]
  rintro ⟨hname, hns | hvapp⟩
  · exact hno ⟨hns, hname⟩
  · exact hno' ⟨hvapp, hname⟩

theorem perform_createVm_of_clash {new : NewVm}
    (h : w.store.vms.any (Store.clashesVm new) = true) :
    perform (.store (.createVm new)) w = (.error (Store.vmExists new), w) := by
  have hcreate : w.store.createVm w.ids.nextVm w.now new = .error (Store.vmExists new) := by
    rw [Store.createVm, h]
    rfl
  show performStore w (.createVm new) = _
  simp only [performStore, hcreate]

/-- A machine of this name in the vApp forbids another one. -/
theorem perform_createVm_of_member (new : NewVm) {r : Vm}
    (hin : w.store.vmIn? new.vappId new.vmName = some r) :
    perform (.store (.createVm new)) w = (.error (Store.vmExists new), w) := by
  obtain ⟨hr, hvapp, hname⟩ := Store.vmIn?_eq_some hin
  refine perform_createVm_of_clash (List.any_eq_true.2 ⟨r, hr, ?_⟩)
  simp [Store.clashesVm, hvapp, hname]

end World

/-! ## Resolving -/

namespace Reconcile

open World

variable {w : World} {j k : Nat} {vm : VirtualMachine}

theorem ensureVApp_of_named (vm : VirtualMachine) (hw : w.faults = []) {v : Vdc} {name : String}
    {a : VApp} (h : w.store.vappNamed? v.id name = some a) :
    ∃ t, w.Does (ensureVApp vm v name) a w t :=
  ⟨_, Does.bind (.look hw rfl h) (.pure w a)⟩

theorem ensureVApp_of_missing (vm : VirtualMachine) (hw : w.faults = [])
    (ho : w.Orderly (j + 1) k) {v : Vdc} {name : String} (h : w.store.vappNamed? v.id name = none) :
    ∃ t, w.Does (ensureVApp vm v name) (Store.vappRow w.ids.nextVApp w.now (vm.newVApp v.id name))
      (w.addVApp (Store.vappRow w.ids.nextVApp w.now (vm.newVApp v.id name))) t := by
  have hcreate := perform_createVApp ho (vm.newVApp v.id name) h
  exact ⟨_, Does.bind (.look hw rfl h) <| (Does.tried hw hcreate).bind <|
    (Does.measure _ _).bind <| (Does.publish _ _ _).bind (.pure _ _)⟩

theorem createVm_of_free (hw : w.faults = []) (ho : w.Orderly j (k + 1)) {a : VApp}
    (hat : w.store.vmAt? vm.ns vm.name = none) (hin : w.store.vmIn? a.id vm.name = none) :
    ∃ t, w.Does (createVm vm a) (Store.vmRow w.ids.nextVm w.now (vm.newVm a.id))
      (w.addVm (Store.vmRow w.ids.nextVm w.now (vm.newVm a.id))) t := by
  have hcreate := perform_createVm ho (vm.newVm a.id) hat hin
  exact ⟨_, (Does.tried hw hcreate).bind <| (Does.measure _ _).bind <|
    (Does.publish _ _ _).bind (.pure _ _)⟩

theorem createVm_of_member (hw : w.faults = []) {a : VApp} {r : Vm}
    (hat : w.store.vmAt? vm.ns vm.name = none) (hin : w.store.vmIn? a.id vm.name = some r) :
    ∃ t, w.Does (createVm vm a) r w t := by
  have hcreate := perform_createVm_of_member (vm.newVm a.id) hin
  have hreread : w.Does (rereadVm vm a) (some r) w _ :=
    Does.bind (.look hw rfl hat) (.look hw rfl hin)
  exact ⟨_, (Does.tried hw hcreate).bind <| .ite_pos rfl <| hreread.bind (.pure _ _)⟩

theorem findByLabel_does (hw : w.faults = []) (vm : VirtualMachine) :
    ∃ t, w.Does (findByLabel vm) (w.store.labelledRow? vm) w t := by
  unfold findByLabel Store.labelledRow?
  cases vm.labelledVAppId? with
  | none => exact ⟨_, .pure w none⟩
  | some id => exact ⟨_, .call hw rfl⟩

theorem findVm_does (hw : w.faults = []) (vm : VirtualMachine) :
    ∃ t, w.Does (findVm vm) (w.store.knownRow? vm) w t := by
  obtain ⟨t, hlabel⟩ := findByLabel_does hw vm
  unfold Store.knownRow?
  cases h : w.store.labelledRow? vm with
  | none =>
    rw [h] at hlabel
    exact ⟨_, hlabel.bind (.call hw rfl)⟩
  | some r =>
    rw [h] at hlabel
    exact ⟨_, hlabel.bind (.pure w (some r))⟩

/-- The machine is resolved, and the world stays orderly and calm. -/
def Settles (j k : Nat) (w : World) (a : Attempt Resolution) (vm : VirtualMachine) : Prop :=
  ∃ res w' t, w.Does a res w' t ∧ w.store.Resolves vm res w'.store ∧ w'.Orderly j k ∧
    w'.faults = []

section

variable {v : Vdc} {name : String} (hw : w.faults = []) (ho : w.Orderly (j + 1) (k + 1))
  (hat : w.store.vmAt? vm.ns vm.name = none) (hname : vm.labelledVAppName? = some name)
  (hv : w.store.vdcAt? vm.ns = some v)

include hw ho hat hname hv

/-- In a vApp that is there, the machine of that name is taken, else one is made. -/
theorem discover_of_named {a : VApp} (ha : w.store.vappNamed? v.id name = some a)
    (hrow : w.store.rowOf? vm = w.store.vmIn? a.id vm.name) : Settles j k w (discover vm) vm := by
  have ho' : w.Orderly j (k + 1) := ho.mono (by omega) (by omega)
  obtain ⟨t, hvapp⟩ := ensureVApp_of_named vm hw ha
  obtain ⟨hmem, hvdc, -⟩ := Store.vappNamed?_eq_some ha
  unfold Settles discover
  rw [hname]
  cases hin : w.store.vmIn? a.id vm.name with
  | some r =>
    obtain ⟨t', hcreate⟩ := createVm_of_member hw hat hin
    have hend := Does.pure w (Resolution.resolved r true)
    exact ⟨_, w, _, Does.bind (.look hw rfl hv) (hvapp.bind (hcreate.bind hend)),
      .found (hrow.trans hin), ho'.mono (Nat.le_refl j) (by omega), hw⟩
  | none =>
    obtain ⟨t', hcreate⟩ := createVm_of_free hw ho' hat hin
    have hfresh := ho'.vms.vms 0 (by omega)
    exact ⟨_, _, _, Does.bind (.look hw rfl hv) (hvapp.bind (hcreate.bind (.pure _ _))),
      .made (hrow.trans hin) ⟨hfresh, rfl, rfl, rfl, rfl, v, hv, a, hmem, hvdc, rfl⟩,
      ho'.addVm hat hin ⟨a, hmem, rfl⟩, hw⟩

theorem discover_of_missing (ha : w.store.vappNamed? v.id name = none)
    (hrow : w.store.rowOf? vm = none) : Settles j k w (discover vm) vm := by
  have ho' := ho.addVApp (vm.newVApp v.id name) ha
  obtain ⟨t, hvapp⟩ := ensureVApp_of_missing vm hw ho ha
  let a := Store.vappRow w.ids.nextVApp w.now (vm.newVApp v.id name)
  have hmem : a ∈ (w.addVApp a).store.vapps := List.mem_append.2 (.inr (.head _))
  -- The identity of the new vApp is new, so no machine is in it.
  have hin : (w.addVApp a).store.vmIn? a.id vm.name = none := by
    refine List.find?_eq_none.2 fun r hr hin => ?_
    simp only [Vm.isIn, Bool.and_eq_true, beq_iff_eq] at hin
    exact ho.vapps.vms 0 (by omega) r hr hin.1
  obtain ⟨t', hcreate⟩ := createVm_of_free (w := w.addVApp a) hw ho' hat hin
  have hfresh := ho.vms.vms 0 (by omega)
  unfold Settles discover
  rw [hname]
  exact ⟨_, _, _, Does.bind (.look hw rfl hv) (hvapp.bind (hcreate.bind (.pure _ _))),
    .made hrow ⟨hfresh, rfl, rfl, rfl, rfl, v, hv, a, hmem, rfl, rfl⟩,
    ho'.addVm hat hin ⟨a, hmem, rfl⟩, hw⟩

end

theorem discover_settles (hw : w.faults = []) (ho : w.Orderly (j + 1) (k + 1))
    (hknown : w.store.knownRow? vm = none) : Settles j k w (discover vm) vm := by
  have ho' : w.Orderly j k := ho.mono (by omega) (by omega)
  have hat : w.store.vmAt? vm.ns vm.name = none := (Option.or_eq_none_iff.1 hknown).2
  have hrow : w.store.rowOf? vm =
      (w.store.vappFor? vm).bind fun a => w.store.vmIn? a.id vm.name := by
    rw [Store.rowOf?, hknown, Option.none_or]
  cases hname : vm.labelledVAppName? with
  | none =>
    have hend := Does.pure w (Resolution.notManaged "no_vapp_label")
    unfold Settles discover
    rw [hname]
    exact ⟨_, w, _, hend, .notManaged, ho', hw⟩
  | some name =>
    cases hv : w.store.vdcAt? vm.ns with
    | none =>
      have hend := Does.pure w (Resolution.notManaged "no_vdc")
      unfold Settles discover
      rw [hname]
      exact ⟨_, w, _, Does.bind (.look hw rfl hv) hend, .notManaged, ho', hw⟩
    | some v =>
      cases ha : w.store.vappNamed? v.id name with
      | some a =>
        have hfor : w.store.vappFor? vm = some a := by
          simp [Store.vappFor?, Store.vappAt?, hname, hv, ha]
        rw [hfor, Option.bind_some] at hrow
        exact discover_of_named hw ho hat hname hv ha hrow
      | none =>
        have hfor : w.store.vappFor? vm = none := by
          simp [Store.vappFor?, Store.vappAt?, hname, hv, ha]
        rw [hfor, Option.bind_none] at hrow
        exact discover_of_missing hw ho hat hname hv ha hrow

/-- What resolving does: a creation takes at most one identity of each kind. -/
theorem resolve_settles (hw : w.faults = []) (ho : w.Orderly (j + 1) (k + 1))
    (vm : VirtualMachine) : Settles j k w (resolve vm) vm := by
  obtain ⟨t, hfind⟩ := findVm_does hw vm
  cases hknown : w.store.knownRow? vm with
  | some r =>
    rw [hknown] at hfind
    have hend := Does.pure w (Resolution.resolved r false)
    refine ⟨_, w, _, hfind.bind hend, .found ?_, ho.mono (by omega) (by omega), hw⟩
    rw [Store.rowOf?, hknown, Option.some_or]
  | none =>
    rw [hknown] at hfind
    obtain ⟨res, w', t', hdoes, hres⟩ := discover_settles hw ho hknown
    exact ⟨res, w', _, hfind.bind hdoes, hres⟩

end Reconcile

end TenantCloud
