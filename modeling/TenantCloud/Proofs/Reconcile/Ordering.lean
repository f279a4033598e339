import Mathlib.Data.List.Nodup
import TenantCloud.Proofs.Effect.Rounds
import TenantCloud.Proofs.Reconcile.Sweeping
import TenantCloud.Proofs.Store.Ledger

/-!
# Machines in any order

Passes for different machines run one after another. Where the rows of a store are at home, that is
in the namespace of their virtual datacenter, a machine without the identity of a vApp on its label
is resolved by its place alone (`Store.AtHome.rowOf?_eq`), so that its pass enters into the ledger
what it goes by, and nothing that depends on the passes before it (`World.run_enters`). Entries for
different machines commute, and so the order of the passes does not count
(`World.discovery_in_any_order`).
-/

set_option autoImplicit false

namespace TenantCloud

namespace Store

/-- The rows of machines are in the namespaces of their virtual datacenters. -/
def AtHome (s : Store) : Prop :=
  ∀ r ∈ s.vms, ∀ a ∈ s.vapps, r.vappId = a.id → ∀ v ∈ s.vdcs, a.vdcId = v.id →
    v.bound? = some r.ns

instance (s : Store) : Decidable s.AtHome :=
  inferInstanceAs (Decidable (∀ r ∈ s.vms, ∀ a ∈ s.vapps, r.vappId = a.id → ∀ v ∈ s.vdcs,
    a.vdcId = v.id → v.bound? = some r.ns))

/-- The virtual datacenter and the name of the vApp that a machine would be put into. -/
def place? (s : Store) (vm : VirtualMachine) : Option (Uuid × String) :=
  vm.labelledVAppName?.bind fun name => (s.vdcAt? vm.ns).map fun v => (v.id, name)

variable {s : Store} {vm : VirtualMachine} {x : Vm} {f : Vm → Vm}

theorem vappFor?_eq (s : Store) (vm : VirtualMachine) :
    s.vappFor? vm = (s.place? vm).bind fun k => s.vappNamed? k.1 k.2 := by
  unfold vappFor? place? vappAt?
  cases vm.labelledVAppName? with
  | none => rfl
  | some name => cases s.vdcAt? vm.ns <;> rfl

/-- A machine is resolved by its place, unless its label leads elsewhere. -/
theorem AtHome.rowOf?_eq (h : s.AtHome) (hlabel : vm.labelledVAppId? = none) :
    s.rowOf? vm = s.vmAt? vm.ns vm.name := by
  have hknown : s.knownRow? vm = s.vmAt? vm.ns vm.name := by
    rw [knownRow?, labelledRow?, hlabel]
    rfl
  rw [rowOf?, hknown]
  cases hat : s.vmAt? vm.ns vm.name with
  | some r => rfl
  | none =>
    -- A row in the vApp for the machine would be at the place of the machine.
    refine Option.eq_none_iff_forall_ne_some.2 fun r hr => ?_
    obtain ⟨a, ha, hin⟩ := Option.bind_eq_some_iff.1 hr
    obtain ⟨v, hv, hmem, hid⟩ := vappFor?_eq_some ha
    obtain ⟨hrmem, hrid, hname⟩ := vmIn?_eq_some hin
    obtain ⟨hvmem, -, hbound⟩ := vdcAt?_eq_some hv
    have hns := h r hrmem a hmem hrid v hvmem hid
    rw [hbound, Option.some_inj] at hns
    have hno := List.find?_eq_none.1 hat r hrmem
    simp [Vm.isAt, ← hns, hname] at hno

theorem AtHome.mapVms (h : s.AtHome) {key : Uuid} (hf : Vm.Touch key f) : (s.mapVms f).AtHome := by
  intro r hr a ha hvapp v hv hvdc
  obtain ⟨q, hq, rfl⟩ := List.mem_map.1 hr
  rw [hf.vappId] at hvapp
  rw [hf.ns]
  exact h q hq a ha hvapp v hv hvdc

/-- A row that is touched changes its own entry. -/
theorem ledger_mapVms (hs : s.Unique) (hx : x ∈ s.vms) (hf : Vm.Touch x.id f) :
    (s.mapVms f).ledger = { s.ledger with
      machines := Function.update s.ledger.machines ⟨x.ns, x.vmName⟩
        (some (s.profile (f x))) } := by
  refine Ledger.ext rfl (funext fun k => ?_)
  show ((s.mapVms f).vmAt? k.ns k.name).map s.profile = _
  rw [vmAt?_mapVms hf, Option.map_map]
  by_cases hk : k = ⟨x.ns, x.vmName⟩
  · subst hk
    have hat : s.vmAt? x.ns x.vmName = some x := hs.vmAt.find? hx fun r => by simp [Vm.isAt]
    dsimp only
    rw [hat, Function.update_self]
    rfl
  · dsimp only
    rw [Function.update_of_ne hk]
    cases hat : s.vmAt? k.ns k.name with
    | none =>
      show none = (s.vmAt? k.ns k.name).map s.profile
      rw [hat]
      rfl
    | some r =>
      obtain ⟨hr, hns, hname⟩ := vmAt?_eq_some hat
      have hne : r.id ≠ x.id := by
        intro hid
        obtain rfl := hs.vmId r hr x hx hid
        exact hk (by rw [hns, hname])
      show some (s.profile (f r)) = (s.vmAt? k.ns k.name).map s.profile
      rw [hat, hf.other r hne]
      rfl

end Store

/-! ## What a pass enters -/

/-- What a pass for a machine goes by in a world. -/
def World.sighting (w : World) (vm : VirtualMachine) : Sighting where
  key := vm.key
  place? := w.store.place? (w.cluster.named vm)
  displayName := vm.displayName
  status := vm.desiredStatus.word
  facts := .observed vm (w.cluster.instances.get? vm.key)

namespace Origin

variable {o : Origin} {g : World} {a? : Option VApp} {r? : Option Vm} {a : VApp} {r x : Vm}

/-- What passes for the machine go by. -/
def sighting (o : Origin) : Sighting := o.world.sighting o.machine

theorem named_same (o : Origin) : o.named.ns = o.machine.ns ∧ o.named.name = o.machine.name ∧
    o.named.displayName = o.machine.displayName ∧
    o.named.desiredStatus = o.machine.desiredStatus := by
  obtain ⟨labels, hlabels⟩ := o.world.cluster.exists_withLabels o.machine
  have hnamed : o.named = o.machine.withLabels labels := hlabels
  rw [hnamed]
  exact ⟨rfl, rfl, rfl, rfl⟩

theorem key_named (o : Origin) : (⟨o.named.ns, o.named.name⟩ : ObjectKey) = o.key := by
  obtain ⟨hns, hname, -, -⟩ := o.named_same
  rw [hns, hname]
  rfl

section

variable (hg : World.Grown o.named [o.named] o.world.store a? r? g)

include hg

/-- A vApp that was made is the one that the machine needs. -/
theorem made_vapp (ha : a? = some a) :
    o.world.store.ledger.Needs o.sighting (a.vdcId, a.name) ∧ a.status = .instantiating := by
  obtain ⟨-, hknown, -, -, v, name, t, hv, hname, hrow⟩ := hg.vapp a ha
  have hat := (Option.or_eq_none_iff.1 hknown).2
  obtain ⟨hns, hvmName, -, -⟩ := o.named_same
  refine ⟨⟨?_, ?_⟩, ?_⟩
  · show (o.world.store.vmAt? o.machine.ns o.machine.name).map _ = none
    rw [← hns, ← hvmName, hat]
    rfl
  · show o.world.store.place? o.named = some (a.vdcId, a.name)
    rw [Store.place?, hname, Option.bind_some, hv, hrow]
    rfl
  · rw [hrow]
    rfl

/-- A row that was made is in the vApp that the machine needs. -/
theorem made_row (hr : r? = some r) : ∃ a ∈ g.store.vapps, r.vappId = a.id ∧
    o.sighting.place? = some (a.vdcId, a.name) ∧
    ∃ t, r = Store.vmRow r.id t (o.named.newVm a.id) := by
  obtain ⟨-, -, a, seen, t, ha, hseen, hrow⟩ := hg.row r hr
  obtain rfl := List.mem_singleton.1 hseen
  have hvapp : r.vappId = a.id := by
    rw [hrow]
    rfl
  rcases Option.or_eq_some_iff.1 ha with hfor | ⟨-, hmade⟩
  · rw [Store.vappFor?_eq] at hfor
    obtain ⟨k, hk, hnamed⟩ := Option.bind_eq_some_iff.1 hfor
    obtain ⟨hmem, hid, hname⟩ := Store.vappNamed?_eq_some hnamed
    refine ⟨a, ?_, hvapp, ?_, t, hrow⟩
    · rw [hg.vapps]
      exact List.mem_append_left _ hmem
    · rw [hid, hname]
      exact hk
  · refine ⟨a, ?_, hvapp, (made_vapp hg hmade).1.2, t, hrow⟩
    rw [hg.vapps, hmade]
    exact List.mem_append_right _ List.mem_cons_self

/-- Other machines are told as before. -/
theorem machines_grown {k : ObjectKey} (hk : k ≠ o.key) :
    g.store.ledger.machines k = o.world.store.ledger.machines k := by
  let s := o.world.store
  show (g.store.vmAt? k.ns k.name).map g.store.profile = (s.vmAt? k.ns k.name).map s.profile
  have hmade : (r?.filter fun r => r.isAt k.ns k.name) = none := by
    refine Option.eq_none_iff_forall_ne_some.2 fun r hr => hk ?_
    obtain ⟨hr, hisAt⟩ := Option.filter_eq_some_iff.1 hr
    obtain ⟨hns, hname⟩ := hg.isAt_of_row (fun _ => .of_mem_singleton) hr
    simp only [Vm.isAt, Bool.and_eq_true, beq_iff_eq] at hisAt
    rw [← o.key_named, ← hns, ← hname, hisAt.1, hisAt.2]
  rw [hg.vmAt?, hmade, Option.or_none]
  cases hat : s.vmAt? k.ns k.name with
  | none => rfl
  | some r =>
    obtain ⟨hr, -, -⟩ := Store.vmAt?_eq_some hat
    have hget : Table.get? g.store.vapps r.vappId = Table.get? s.vapps r.vappId := by
      unfold Table.get?
      rw [hg.vapps, List.find?_append, World.Grown.find?_toList]
      refine Option.or_eq_left_of_none (Option.eq_none_iff_forall_ne_some.2 fun a ha => ?_)
      obtain ⟨ha, hid⟩ := Option.filter_eq_some_iff.1 ha
      obtain ⟨-, -, -, hfresh, -⟩ := hg.vapp a ha
      exact hfresh r hr (beq_iff_eq.1 hid).symm
    show some (g.store.profile r) = some (s.profile r)
    unfold Store.profile
    rw [hget]

/-- The rows stay at home. -/
theorem atHome_grown (hhome : o.world.store.AtHome) : g.store.AtHome := by
  intro r hr a ha hvapp v hv hvdc
  rw [hg.vdcs] at hv
  rcases List.mem_append.1 (hg.vms ▸ hr) with hold | hnew
  · rcases List.mem_append.1 (hg.vapps ▸ ha) with hkept | hmade
    · exact hhome r hold a hkept hvapp v hv hvdc
    · obtain ⟨-, -, -, hfresh, -⟩ := hg.vapp a (Option.mem_toList.1 hmade)
      exact absurd hvapp (hfresh r hold)
  · have hr : r? = some r := Option.mem_toList.1 hnew
    obtain ⟨b, hb, hin, hplace, -⟩ := made_row hg hr
    obtain rfl : a = b := hg.unique.vappId a ha b hb (hvapp.symm.trans hin)
    obtain ⟨name, -, hplace⟩ := Option.bind_eq_some_iff.1 hplace
    obtain ⟨u, hu, hpair⟩ := Option.map_eq_some_iff.1 hplace
    obtain ⟨humem, -, hbound⟩ := Store.vdcAt?_eq_some hu
    have hvdcs : o.world.store.vdcs.Distinct Vdc.id := hg.vdcs ▸ hg.unique.vdcId
    obtain rfl : v = u :=
      hvdcs v hv u humem (hvdc.symm.trans (congrArg Prod.fst hpair).symm)
    exact hbound.trans (congrArg some (hg.isAt_of_row (fun _ => .of_mem_singleton) hr).1.symm)

variable (hhome : o.world.store.AtHome) (hlabel : o.named.labelledVAppId? = none)
  (hx : g.store.rowOf? o.named = some x)

include hhome hlabel hx

/-- The row of the machine was at its place, or was made there. -/
theorem row_cases : o.world.store.vmAt? o.key.ns o.key.name = some x ∧ a? = none ∨
    o.world.store.vmAt? o.key.ns o.key.name = none ∧ r? = some x := by
  have hrow := hg.rowOf? fun _ => .of_mem_singleton
  have hat : o.world.store.rowOf? o.named = o.world.store.vmAt? o.key.ns o.key.name := by
    rw [hhome.rowOf?_eq hlabel, ← o.key_named]
  rw [hx] at hrow
  rcases Option.or_eq_some_iff.1 hrow.symm with h | ⟨hnone, h⟩
  · exact .inl ⟨hat.symm.trans h, (hg.store_eq h).1⟩
  · exact .inr ⟨hat.symm.trans hnone, h⟩

theorem place_row : (⟨x.ns, x.vmName⟩ : ObjectKey) = o.key := by
  rcases row_cases hg hhome hlabel hx with ⟨hat, -⟩ | ⟨-, hr⟩
  · obtain ⟨-, hns, hname⟩ := Store.vmAt?_eq_some hat
    rw [hns, hname]
  · obtain ⟨hns, hname⟩ := hg.isAt_of_row (fun _ => .of_mem_singleton) hr
    rw [hns, hname, o.key_named]

/-- The vApps are told as the machine is entered. -/
theorem vapps_grown : g.store.ledger.vapps = (o.world.store.ledger.enter o.sighting).vapps := by
  let s := o.world.store
  refine funext fun k => ?_
  have hfind : g.store.vappNamed? k.1 k.2 = (s.vappNamed? k.1 k.2).or
      (a?.filter fun a => a.vdcId == k.1 && a.name == k.2) := by
    unfold Store.vappNamed?
    rw [hg.vapps, List.find?_append, World.Grown.find?_toList]
  show (g.store.vappNamed? k.1 k.2).map (·.status) = ((s.vappNamed? k.1 k.2).map (·.status) <|>
    if s.ledger.Needs o.sighting k then some .instantiating else none)
  rw [hfind]
  cases ha : a? with
  | some a =>
    obtain ⟨hneeds, hstatus⟩ := made_vapp hg ha
    have hiff : s.ledger.Needs o.sighting k ↔ a.vdcId = k.1 ∧ a.name = k.2 := by
      constructor
      · intro h
        have hk := Option.some_inj.1 (hneeds.2.symm.trans h.2)
        exact ⟨congrArg Prod.fst hk, congrArg Prod.snd hk⟩
      · rintro ⟨hid, hname⟩
        have hk : k = (a.vdcId, a.name) := Prod.ext hid.symm hname.symm
        exact hk ▸ hneeds
    rw [if_congr hiff rfl rfl]
    cases s.vappNamed? k.1 k.2 with
    | some b => rfl
    | none =>
      by_cases hk : a.vdcId = k.1 ∧ a.name = k.2
      · simp [hk, hstatus, Option.filter]
      · simp [hk, Option.filter]
  | none =>
    cases hnamed : s.vappNamed? k.1 k.2 with
    | some b => rfl
    | none =>
      refine (if_neg fun hneeds => ?_).symm
      -- The machine got a row, and so its vApp was there.
      have hr : r? = some x := by
        rcases row_cases hg hhome hlabel hx with ⟨hat, -⟩ | ⟨-, hr⟩
        · have hnone : (s.vmAt? o.key.ns o.key.name).map s.profile = none := hneeds.1
          rw [hat] at hnone
          cases hnone
        · exact hr
      obtain ⟨b, hb, -, hplace, -⟩ := made_row hg hr
      rw [hg.vapps, ha, Option.toList_none, List.append_nil] at hb
      have hk := Option.some_inj.1 (hplace.symm.trans hneeds.2)
      have hno := List.find?_eq_none.1 hnamed b hb
      simp [← hk] at hno

/-- The row of the machine tells what the machine is resolved to. -/
theorem profile_grown :
    o.world.store.ledger.resolved o.sighting = some (g.store.profile x) := by
  let s := o.world.store
  show ((s.vmAt? o.key.ns o.key.name).map s.profile <|> o.sighting.place?.map o.sighting.fresh) = _
  rcases row_cases hg hhome hlabel hx with ⟨hat, ha⟩ | ⟨hat, hr⟩
  · have hvapps : g.store.vapps = s.vapps := by
      rw [hg.vapps, ha, Option.toList_none, List.append_nil]
    rw [hat]
    unfold Store.profile
    rw [hvapps]
    rfl
  · obtain ⟨a, ha, hvapp, hplace, t, hrow⟩ := made_row hg hr
    have hget : Table.get? g.store.vapps x.vappId = some a :=
      hg.unique.vappId.find? ha fun b => by rw [hvapp]; exact beq_iff_eq
    obtain ⟨hns, hname, hdisplay, hstatus⟩ := o.named_same
    rw [hat, hplace]
    unfold Store.profile
    rw [hget, hrow]
    show some (o.sighting.fresh (a.vdcId, a.name)) = some _
    unfold Sighting.fresh Store.vmRow VirtualMachine.newVm
    dsimp only
    rw [hns, hname, hdisplay, hstatus]
    rfl

end

/-- What a pass leaves that finishes: the machine is entered, and all else that other machines go by
is as it was. -/
structure Entered (o : Origin) (w : World) : Prop where
  ledger : w.store.ledger = o.world.store.ledger.enter o.sighting
  atHome : w.store.AtHome
  vdcs : w.store.vdcs = o.world.store.vdcs
  shown : ∃ vm, w.cluster = o.world.cluster.showing o.key vm

variable {vm : VirtualMachine} {w : World} {t : Timestamp} (hhome : o.world.store.AtHome)

include hhome

theorem Bound.entered (hlabel : o.named.labelledVAppId? = none)
    (h : o.Bound x vm (x.settled o.status o.facts t) w) : o.Entered w := by
  obtain ⟨g, a?, r?, f, hg, hx, hf, hfx, hstore⟩ := h.rows
  refine ⟨?_, ?_, ?_, vm, h.shown.cluster⟩
  · rw [hstore, Store.ledger_mapVms hg.unique (Store.rowOf?_cases hx).1 hf, hfx,
      Store.profile_settled, place_row hg hhome hlabel hx]
    refine Ledger.ext (vapps_grown hg hhome hlabel hx) (funext fun k => ?_)
    dsimp only
    by_cases hk : k = o.sighting.key
    · subst hk
      rw [Ledger.machines_enter_self, profile_grown hg hhome hlabel hx]
      exact Function.update_self ..
    · rw [Ledger.machines_enter_of_ne hk, ← machines_grown hg hk]
      exact Function.update_of_ne hk ..
  · rw [hstore]
    exact (atHome_grown hg hhome).mapVms hf
  · rw [hstore]
    exact hg.vdcs

/-- A machine that is not managed is not entered. -/
theorem Unbound.entered (h : o.Unbound o.named w) {reason : String}
    (hwhy : o.world.store.unmanaged? o.named = some reason) : o.Entered w := by
  obtain ⟨hvapps, hvms⟩ := h.store_eq hwhy
  obtain ⟨a?, hg⟩ := h.grown
  refine ⟨?_, ?_, hg.vdcs, o.named, h.shown.cluster⟩
  · have hledger : w.store.ledger = o.world.store.ledger := by
      unfold Store.ledger Store.vappNamed? Store.vmAt? Store.profile
      rw [hvapps, hvms]
    have hknown : o.world.store.knownRow? o.named = none :=
      (Option.or_eq_none_iff.1 h.free).1
    have hat : o.world.store.vmAt? o.key.ns o.key.name = none := by
      rw [← o.key_named]
      exact (Option.or_eq_none_iff.1 hknown).2
    have hplace : o.world.store.place? o.named = none := by
      unfold Store.unmanaged? at hwhy
      unfold Store.place?
      rw [hknown] at hwhy
      cases hname : o.named.labelledVAppName? with
      | none => rfl
      | some name =>
        cases hv : o.world.store.vdcAt? o.named.ns with
        | none => rfl
        | some v => simp [hname, hv] at hwhy
    rw [hledger, Ledger.enter_of_unplaced (congrArg (Option.map _) hat) hplace]
  · exact atHome_grown hg hhome

theorem Finished.entered (hlabel : o.named.labelledVAppId? = none) (h : o.Finished w) :
    o.Entered w := by
  rcases h with ⟨x, t, h⟩ | ⟨h, reason, hwhy⟩
  · exact h.entered hhome hlabel
  · exact h.entered hhome hwhy

omit hhome

/-- Machines are looked up as before. -/
theorem Entered.sighting (h : o.Entered w) (vm : VirtualMachine) :
    w.sighting vm = o.world.sighting vm := by
  obtain ⟨seen, hshown⟩ := h.shown
  unfold World.sighting Store.place? Store.vdcAt?
  rw [h.vdcs, hshown]
  rfl

end Origin

/-! ## One pass after the other -/

namespace World

open Reconcile

variable {j k n : Nat} {w : World} {vm : VirtualMachine}

/-- A visit takes at most one identity of each kind. -/
theorem Orderly.visit (ho : w.Orderly (j + 1) (k + 1)) (hw : w.faults = []) (v : Visit)
    (vm : VirtualMachine) :
    let w' := (w.run (v.attempt vm)).state
    w'.faults = [] ∧ w'.Orderly j k := by
  let I (w' : World) : Prop := w'.faults = [] ∧ w'.Orderly j k
  obtain ⟨cl, hcl⟩ := run_of_isCluster hw (v.seen_makes vm)
  have hfound : I (w.run (v.found vm)).state := by
    refine after_bind (I := I) (fun e _ => ?_) fun seen _ => ?_
    · rw [hcl]
      exact ⟨hw, (ho.mono (by omega) (by omega)).setCluster cl⟩
    · obtain ⟨res, w', t, hdoes, -, ho', hw'⟩ :=
        resolve_settles (w := w.setCluster cl) hw (ho.setCluster cl) seen
      rw [hcl, run_bind, hdoes]
      exact ⟨hw', ho'⟩
  refine after_bind (I := I) (fun _ _ => hfound) fun seen _ => ?_
  obtain ⟨hw', ho'⟩ := hfound
  obtain ⟨seen, res⟩ := seen
  cases v with
  | lookUp => exact ⟨hw', ho'⟩
  | pass settings =>
    cases res with
    | resolved row created =>
      obtain ⟨f, cl, hf, hstate⟩ := run_of_spares hw' (vmRow_makes settings seen row)
      show I (run _ (vmRow settings seen row)).state
      rw [hstate]
      exact ⟨hw', ho'.touched hf cl⟩
    | notManaged reason => exact ⟨hw', ho'⟩

/-- A world in which some passes may discover machines: it has no faults, the identities to come are
new, and the rows are at home. -/
structure Discoverable (n : Nat) (w : World) : Prop where
  calm : w.faults = []
  orderly : w.Orderly n n
  atHome : w.store.AtHome

/-- The cluster shows the machine, whose label does not lead it to a vApp. -/
structure Presents (w : World) (vm : VirtualMachine) : Prop where
  shown : w.cluster.vms.get? vm.key = some vm
  label : vm.labelledVAppId? = none

theorem Presents.labelledVAppId?_named (h : w.Presents vm) (c : Cluster) :
    (c.named vm).labelledVAppId? = none := by
  obtain ⟨-, -, hsame⟩ := withVAppName_same vm (c.derivedName? vm)
  exact hsame.trans h.label

theorem Discoverable.at_time (h : w.Discoverable n) (t : Timestamp) :
    ({ w with now := t } : World).Discoverable n :=
  ⟨h.calm, h.orderly.congr rfl rfl, h.atHome⟩

/-- Other machines are presented as before. -/
theorem Presents.entered {o : Origin} {w : World} (h : o.world.Presents vm) (hw : o.Entered w)
    (hk : vm.key ≠ o.key) : w.Presents vm := by
  obtain ⟨seen, hshown⟩ := hw.shown
  refine ⟨?_, h.label⟩
  rw [hshown]
  show (o.world.cluster.vms.insert o.key seen).get? vm.key = some vm
  rw [Dict.get?_insert, if_neg hk, h.shown]

/-- **A pass enters its machine into the ledger.** -/
theorem run_enters (h : w.Discoverable (n + 1)) (hvm : w.Presents vm) (settings : Settings) :
    let ran := w.run (virtualMachine settings vm)
    ran.value = .ok () ∧ ran.state.Discoverable n ∧ Origin.Entered ⟨w, vm⟩ ran.state := by
  let o : Origin := ⟨w, vm⟩
  have hstart : o.Underway w :=
    Origin.underway_start (h.orderly.mono (by omega) (by omega)) hvm.shown
  have htries : (virtualMachine settings vm).Tries False (fun _ w' => o.Underway w' ∧
      (False ∨ o.Finished w')) o.Underway w := hstart.virtualMachine_tries hvm.shown settings
  obtain ⟨_, hvalue, -, hf | hfinished⟩ := (carries_of_calm h.calm _).of_tries htries
  · exact hf.elim
  · have hlabel : o.named.labelledVAppId? = none := hvm.labelledVAppId?_named w.cluster
    have hentered := hfinished.entered h.atHome hlabel
    obtain ⟨hcalm, horderly⟩ := h.orderly.visit h.calm (.pass settings) vm
    rw [Visit.attempt_pass] at hcalm horderly
    exact ⟨hvalue, ⟨hcalm, horderly, hentered.atHome⟩, hentered⟩

section

variable (settings : Settings) {l l' : List (VirtualMachine × Timestamp)}

/-- A round enters its machines one after the other, as they were seen at its start. -/
theorem round_enters (h : w.Discoverable l.length) (hvms : ∀ e ∈ l, w.Presents e.1)
    (hkeys : (l.map (·.1.key)).Nodup) :
    (∀ e ∈ w.round (virtualMachine settings) l, e.2.value = .ok ()) ∧
    let w' := w.afterRound (virtualMachine settings) l
    w'.store.Unique ∧
    w'.store.ledger = (l.map fun e => w.sighting e.1).foldl Ledger.enter w.store.ledger := by
  induction l generalizing w with
  | nil => exact ⟨fun e he => (nomatch he), h.orderly.unique, rfl⟩
  | cons e rest ih =>
    obtain ⟨vm, t⟩ := e
    obtain ⟨hvm, hrest⟩ := List.forall_mem_cons.1 hvms
    obtain ⟨hnew, hkeys⟩ := List.nodup_cons.1 hkeys
    let start : World := { w with now := t }
    have hpresents : ∀ {vm}, w.Presents vm → start.Presents vm := fun h => ⟨h.shown, h.label⟩
    obtain ⟨hvalue, hnext, hentered⟩ := run_enters (h.at_time t) (hpresents hvm) settings
    have hothers : ∀ e ∈ rest, (start.run (virtualMachine settings vm)).state.Presents e.1 :=
      fun e he => (hpresents (hrest e he)).entered hentered
        fun hkey => hnew (List.mem_map.2 ⟨e, he, hkey⟩)
    obtain ⟨hvalues, hunique, hledger⟩ := ih hnext hothers hkeys
    refine ⟨List.forall_mem_cons.2 ⟨hvalue, hvalues⟩, hunique, hledger.trans ?_⟩
    simp only [hentered.sighting, hentered.ledger]
    rfl

/-- **Machines may be discovered in any order.** In a world without faults, where rows are at home
and the identities to come are new, let one pass run for each of some machines at different places,
each at its own time, and in another order with other identities to come. All passes succeed. In
either order there are the same vApps then, by virtual datacenter and name, with their status, and
the same rows, by all that they hold apart from identities and times. -/
theorem discovery_in_any_order {ids : IdSource} (h : w.Discoverable l.length)
    (hids : ({ w with ids } : World).Orderly l.length l.length)
    (hvms : ∀ e ∈ l, w.Presents e.1) (hkeys : (l.map (·.1.key)).Nodup)
    (hperm : (l.map Prod.fst).Perm (l'.map Prod.fst)) :
    let w' : World := { w with ids }
    let one := (w.afterRound (virtualMachine settings) l).store
    let other := (w'.afterRound (virtualMachine settings) l').store
    (∀ e ∈ w.round (virtualMachine settings) l, e.2.value = .ok ()) ∧
    (∀ e ∈ w'.round (virtualMachine settings) l', e.2.value = .ok ()) ∧
    (∀ a, a ∈ one.vappProfiles ↔ a ∈ other.vappProfiles) ∧
    ∀ p, p ∈ one.vmProfiles ↔ p ∈ other.vmProfiles := by
  have hlength : l'.length = l.length := by simpa using hperm.length_eq.symm
  have hkeys' : (l'.map (·.1.key)).Nodup := by
    have hmap := (hperm.map VirtualMachine.key).nodup_iff
    rw [List.map_map, List.map_map] at hmap
    exact hmap.1 hkeys
  have hvms' : ∀ e ∈ l', ({ w with ids } : World).Presents e.1 := by
    intro e he
    obtain ⟨e', he', heq⟩ := List.mem_map.1 (hperm.symm.subset (List.mem_map_of_mem he))
    obtain ⟨hshown, hlabel⟩ := hvms e' he'
    rw [heq] at hshown hlabel
    exact ⟨hshown, hlabel⟩
  have h' : ({ w with ids } : World).Discoverable l'.length :=
    ⟨h.calm, hlength ▸ hids, h.atHome⟩
  obtain ⟨hvalues, hunique, hledger⟩ := round_enters settings h hvms hkeys
  obtain ⟨hvalues', hunique', hledger'⟩ := round_enters settings h' hvms' hkeys'
  have hsightings : (l.map fun e => w.sighting e.1).Perm (l'.map fun e => w.sighting e.1) := by
    have hmap := hperm.map w.sighting
    rw [List.map_map, List.map_map] at hmap
    exact hmap
  have hsame : (w.afterRound (virtualMachine settings) l).store.ledger =
      (World.afterRound (virtualMachine settings) { w with ids } l').store.ledger := by
    rw [hledger, hledger']
    refine hsightings.foldl_eq' (fun m hm m' hm' L => ?_) _
    obtain ⟨e, he, rfl⟩ := List.mem_map.1 hm
    obtain ⟨e', he', rfl⟩ := List.mem_map.1 hm'
    by_cases hkey : e.1.key = e'.1.key
    · rw [List.inj_on_of_nodup_map hkeys he he' hkey]
    · exact Ledger.enter_comm hkey
  refine ⟨hvalues, hvalues', fun ⟨id, name, status⟩ => ?_, fun p => ?_⟩
  · rw [Store.mem_vappProfiles_iff hunique, Store.mem_vappProfiles_iff hunique', hsame]
  · rw [Store.mem_vmProfiles_iff hunique, Store.mem_vmProfiles_iff hunique', hsame]

end

/-- A machine whose label names its vApp. -/
def member (n name vapp : String) (status : PrintableStatus) : VirtualMachine where
  metadata := {
    name := some name
    ns := some n
    labels := some (.single Vocabulary.vappNameLabel vapp) }
  spec := ⟨none, none, none⟩
  status := some ⟨some status, none⟩

/-- A world that shows machines, with identities to come. -/
def showingAll (s : Store) (vms : List VirtualMachine) : World where
  store := s
  cluster := { vms := .ofList (vms.map fun vm => (vm.key, vm)) }
  ids := ⟨fun n => .ofNat (10 + n), fun n => .ofNat (20 + n), 0, 0⟩
  now := ⟨0, 0⟩

/-- Two new machines of one vApp, and one that has a row. -/
def arrivals : List (VirtualMachine × Timestamp) :=
  [(member "tenant-a" "web-0" "web" .running, ⟨1, 0⟩),
    (member "tenant-a" "web-1" "web" .stopped, ⟨2, 0⟩),
    (member "tenant-a" "db-0" "db" .running, ⟨3, 0⟩)]

def arrived : World :=
  showingAll {
    vdcs := [boundVdc 1 "gold" "tenant-a" none]
    vapps := [⟨.ofNat 2, "db", .ofNat 1, .deployed, "", ⟨0, 0⟩, ⟨0, 0⟩⟩]
    vms := [{ machineRow 3 2 "tenant-a" .poweredOff with name := "db-0", vmName := "db-0" }] }
    (arrivals.map Prod.fst)

/-- The same world with other identities to come. -/
def arrivedElsewhere : World :=
  { arrived with ids := ⟨fun n => .ofNat (30 + n), fun n => .ofNat (40 + n), 0, 0⟩ }

/-- Whichever of the new machines comes first makes the vApp. -/
theorem arrivals_in_any_order :
    let one := (arrived.afterRound (virtualMachine {}) arrivals).store
    let other := (arrivedElsewhere.afterRound (virtualMachine {}) arrivals.reverse).store
    one.vappProfiles = [(.ofNat 1, "db", .deployed), (.ofNat 1, "web", .instantiating)] ∧
    (∀ a, a ∈ one.vappProfiles ↔ a ∈ other.vappProfiles) ∧
    ∀ p, p ∈ one.vmProfiles ↔ p ∈ other.vmProfiles := by
  have horderly : arrived.Orderly arrivals.length arrivals.length :=
    ⟨by decide, ⟨by decide, by decide, by decide⟩, ⟨by decide, by decide⟩⟩
  have helsewhere : arrivedElsewhere.Orderly arrivals.length arrivals.length :=
    ⟨by decide, ⟨by decide, by decide, by decide⟩, ⟨by decide, by decide⟩⟩
  have hpresents : ∀ e ∈ arrivals, arrived.Presents e.1 := by
    have hall : ∀ e ∈ arrivals, arrived.cluster.vms.get? e.1.key = some e.1 ∧
        e.1.labelledVAppId? = none := by decide
    exact fun e he => ⟨(hall e he).1, (hall e he).2⟩
  obtain ⟨-, -, hvapps, hvms⟩ := discovery_in_any_order {} (w := arrived)
    ⟨rfl, horderly, by decide⟩ helsewhere hpresents (by decide)
    (arrivals.reverse_perm.map Prod.fst).symm
  exact ⟨by decide, hvapps, hvms⟩

/-- A row that is not at home: its namespace is not that of the virtual datacenter of its vApp. -/
def astray : World :=
  showingAll {
    vdcs := [boundVdc 1 "gold" "tenant-a" none, boundVdc 5 "silver" "tenant-b" none]
    vapps := [⟨.ofNat 2, "web", .ofNat 1, .deployed, "", ⟨0, 0⟩, ⟨0, 0⟩⟩]
    vms := [machineRow 3 2 "tenant-b" .poweredOff] }
    [member "tenant-a" "web-0" "web" .running, member "tenant-b" "web-0" "web" .stopped]

-- Away from home the order counts: both machines are led to the row, and the last one has its
-- status there.
example :
    let both := [(member "tenant-a" "web-0" "web" .running, (⟨1, 0⟩ : Timestamp)),
      (member "tenant-b" "web-0" "web" .stopped, ⟨2, 0⟩)]
    astray.store.Unique ∧ ¬ astray.store.AtHome ∧
    (astray.afterRound (virtualMachine {}) both).store.vms.map Vm.status = ["POWERED_OFF"] ∧
    (astray.afterRound (virtualMachine {}) both.reverse).store.vms.map Vm.status =
      ["POWERED_ON"] := by
  decide

end World

end TenantCloud
