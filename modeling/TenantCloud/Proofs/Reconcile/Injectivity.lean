import TenantCloud.Proofs.Object.Patches
import TenantCloud.Proofs.Reconcile.MachineCalls
import TenantCloud.Proofs.Reconcile.Resolution

/-!
# When two machines share a row

A `Visit` of a machine looks its row up, alone (`Visit.attempt_lookUp`) or as part of a whole pass
(`Visit.attempt_pass`). Two machines that are not of one name in one namespace share a row only
where the look-ups lead both of them to it: both to a row that was there, or the second to the row
made for the first, by the vApp identity on its label (`World.shares_row_iff`). One of them is then
bound to a row of another namespace. A visit touches no row but the one that it is bound to.
-/

set_option autoImplicit false

namespace TenantCloud

/-! ## Rows that are touched -/

/-- A change of the row with an identity that keeps what rows are looked up by. -/
structure Vm.Touch (key : Uuid) (f : Vm → Vm) : Prop where
  id : ∀ r, (f r).id = r.id
  ns : ∀ r, (f r).ns = r.ns
  vmName : ∀ r, (f r).vmName = r.vmName
  vappId : ∀ r, (f r).vappId = r.vappId
  other : ∀ r, r.id ≠ key → f r = r

namespace Vm.Touch

variable {key : Uuid} {f g : Vm → Vm}

theorem refl (key : Uuid) : Touch key fun r => r where
  id _ := rfl
  ns _ := rfl
  vmName _ := rfl
  vappId _ := rfl
  other _ _ := rfl

theorem comp (hf : Touch key f) (hg : Touch key g) : Touch key (g ∘ f) where
  id r := (hg.id _).trans (hf.id r)
  ns r := (hg.ns _).trans (hf.ns r)
  vmName r := (hg.vmName _).trans (hf.vmName r)
  vappId r := (hg.vappId _).trans (hf.vappId r)
  other r hr := (congrArg g (hf.other r hr)).trans (hg.other r hr)

theorem amend (key : Uuid) (hid : ∀ r, (f r).id = r.id) (hns : ∀ r, (f r).ns = r.ns)
    (hname : ∀ r, (f r).vmName = r.vmName) (hvapp : ∀ r, (f r).vappId = r.vappId) :
    Touch key fun r => if Row.rowId r == key then f r else r where
  id r := by split <;> simp only [hid]
  ns r := by split <;> simp only [hns]
  vmName r := by split <;> simp only [hname]
  vappId r := by split <;> simp only [hvapp]
  other r hr := if_neg fun h => hr (beq_iff_eq.1 h)

end Vm.Touch

namespace Store

/-- The store with each machine row changed. -/
def mapVms (s : Store) (f : Vm → Vm) : Store := { s with vms := s.vms.map f }

variable {s s' s'' : Store} {key : Uuid} {f : Vm → Vm} {vm a b : VirtualMachine} {r ra rb : Vm}

theorem vmIn?_mapVms (hf : Vm.Touch key f) (vappId : Uuid) (name : String) :
    (s.mapVms f).vmIn? vappId name = (s.vmIn? vappId name).map f := by
  refine List.find?_map.trans (congrArg (fun p => (s.vms.find? p).map f) (funext fun r => ?_))
  simp only [Function.comp, Vm.isIn, hf.vappId, hf.vmName]

theorem vmAt?_mapVms (hf : Vm.Touch key f) (ns name : String) :
    (s.mapVms f).vmAt? ns name = (s.vmAt? ns name).map f := by
  refine List.find?_map.trans (congrArg (fun p => (s.vms.find? p).map f) (funext fun r => ?_))
  simp only [Function.comp, Vm.isAt, hf.ns, hf.vmName]

theorem mapVms_mapVms (s : Store) (f g : Vm → Vm) : (s.mapVms f).mapVms g = s.mapVms (g ∘ f) := by
  simp [mapVms]

/-- A touched row is found where it was found. -/
theorem rowOf?_mapVms (hf : Vm.Touch key f) (vm : VirtualMachine) :
    (s.mapVms f).rowOf? vm = (s.rowOf? vm).map f := by
  have hlabel : (s.mapVms f).labelledRow? vm = (s.labelledRow? vm).map f := by
    unfold labelledRow?
    cases vm.labelledVAppId? with
    | none => rfl
    | some id => exact vmIn?_mapVms hf id vm.name
  have hfor : (s.mapVms f).vappFor? vm = s.vappFor? vm := rfl
  unfold rowOf? knownRow?
  rw [hlabel, vmAt?_mapVms hf, hfor, Option.map_or, Option.map_or, Option.map_bind]
  simp only [Function.comp_def, vmIn?_mapVms hf]

theorem Unique.mapVms (hs : s.Unique) (hf : Vm.Touch key f) : (s.mapVms f).Unique :=
  { hs with
    vmId := hs.vmId.map hf.id
    vmAt := hs.vmAt.map fun r => by rw [hf.ns, hf.vmName]
    vmIn := hs.vmIn.map fun r => by rw [hf.vappId, hf.vmName] }

theorem mem_mapVms (hf : Vm.Touch key f) (hr : r.id ≠ key) : r ∈ (s.mapVms f).vms ↔ r ∈ s.vms := by
  constructor
  · intro hmem
    obtain ⟨r', hr', rfl⟩ := List.mem_map.1 hmem
    rw [hf.id] at hr
    rwa [hf.other r' hr]
  · exact fun hmem => List.mem_map.2 ⟨r, hmem, hf.other r hr⟩

/-! ## Two machines -/

theorem Resolves.vmName {c : Bool} (h : s.Resolves vm (.resolved r c) s') :
    r.vmName = vm.name := by
  cases h with
  | found h => exact (rowOf?_cases h).2.1
  | made h gains => exact gains.vmName

theorem Resolves.mem {c : Bool} (h : s.Resolves vm (.resolved r c) s') : r ∈ s'.vms := by
  cases h with
  | found h => exact (rowOf?_cases h).1
  | made h gains =>
    rw [gains.vms]
    exact List.mem_append.2 (.inr (.head _))

theorem Resolves.mem_iff {c : Bool} (h : s.Resolves vm (.resolved ra c) s') (hr : r.id ≠ ra.id) :
    r ∈ s'.vms ↔ r ∈ s.vms := by
  cases h with
  | found h => rfl
  | made h gains =>
    rw [gains.vms, List.mem_append, List.mem_singleton]
    exact ⟨fun h => h.resolve_right fun he => hr (congrArg Vm.id he), .inl⟩

/-- After a row is touched, a machine gets it exactly where it would have got it before. -/
theorem Resolves.id_eq_iff {c : Bool} (hs : s.Unique) (hra : ra ∈ s.vms)
    (hf : Vm.Touch ra.id f) (h : (s.mapVms f).Resolves b (.resolved rb c) s') :
    rb.id = ra.id ↔ s.rowOf? b = some ra := by
  cases h with
  | found h =>
    rw [rowOf?_mapVms hf] at h
    obtain ⟨r, hr, rfl⟩ := Option.map_eq_some_iff.1 h
    rw [hf.id, hr, Option.some_inj]
    exact ⟨hs.vmId r (rowOf?_cases hr).1 ra hra, congrArg Vm.id⟩
  | made h gains =>
    -- The new row is fresh, so it is not the touched one.
    rw [rowOf?_mapVms hf, Option.map_eq_none_iff] at h
    rw [h]
    refine ⟨fun he => absurd ?_ (gains.fresh (f ra) (List.mem_map_of_mem hra)), nofun⟩
    rw [hf.id, he]

/-- Two virtual datacenters that are not deleted have different namespaces. -/
theorem Unique.ns_eq (hs : s.Unique) {n n' : String} {v v' : Vdc} (hv : s.vdcAt? n = some v)
    (hv' : s.vdcAt? n' = some v') (hid : v.id = v'.id) : n = n' := by
  obtain ⟨hmem, -, hn⟩ := vdcAt?_eq_some hv
  obtain ⟨hmem', -, hn'⟩ := vdcAt?_eq_some hv'
  obtain rfl := hs.vdcId v hmem v' hmem' hid
  exact Option.some_inj.1 (hn.symm.trans hn')

/-- A row that was made for one machine is another one's only by the label. -/
theorem Gains.rowOf?_iff (h : s.Gains a ra s') (hs : s'.Unique)
    (hne : (a.ns, a.name) ≠ (b.ns, b.name)) :
    s'.rowOf? b = some ra ↔ b.name = a.name ∧ b.labelledVAppId? = some ra.vappId := by
  constructor
  · intro hb
    obtain ⟨-, hname, hway⟩ := rowOf?_cases hb
    have hsame : b.name = a.name := hname.symm.trans h.vmName
    have hns : a.ns ≠ b.ns := fun hns => hne (by rw [hns, hsame])
    refine ⟨hsame, ?_⟩
    rcases hway with hlabel | hat | ⟨x, hx, hid⟩
    · exact hlabel
    · exact absurd (h.ns.symm.trans hat) hns
    · obtain ⟨u, hu, hxmem, hxu⟩ := vappFor?_eq_some hx
      obtain ⟨v, hv, y, hymem, hyv, hyid⟩ := h.vapp
      -- The vApp of the row lies in one virtual datacenter, and both machines in its namespace.
      obtain rfl := hs.vappId x hxmem y hymem (hid.symm.trans hyid)
      have hv' : s'.vdcAt? a.ns = some v := by rwa [vdcAt?, h.vdcs]
      exact absurd (hs.ns_eq hv' hu (hyv.symm.trans hxu)) hns
  · rintro ⟨hname, hlabel⟩
    have hmem : ra ∈ s'.vms := by
      rw [h.vms]
      exact List.mem_append.2 (.inr (.head _))
    have hin : s'.vmIn? ra.vappId b.name = some ra := by
      refine hs.vmIn.find? hmem fun r => ?_
      simp [Vm.isIn, hname, h.vmName]
    simp [rowOf?, knownRow?, labelledRow?, hlabel, hin]

/-- Two machines get one row where both are led to one that is there, or the second is led by its
label to the one that is made for the first. -/
theorem Resolves.shares_iff {c c' : Bool} (hs : s'.Unique) (hne : (a.ns, a.name) ≠ (b.ns, b.name))
    (ha : s.Resolves a (.resolved ra c) s') (hf : Vm.Touch ra.id f)
    (hb : (s'.mapVms f).Resolves b (.resolved rb c') s'') :
    rb.id = ra.id ↔ (∃ r, s.rowOf? a = some r ∧ s.rowOf? b = some r) ∨
      s.rowOf? a = none ∧ b.name = a.name ∧ b.labelledVAppId? = some ra.vappId := by
  rw [hb.id_eq_iff hs ha.mem hf]
  cases ha with
  | found ha => simp [ha]
  | made ha gains => simp [ha, gains.rowOf?_iff hs hne]

/-- Of two machines that get one row, one has another namespace than the row. -/
theorem Resolves.abroad {c c' : Bool} (hs : s'.Unique) (hne : (a.ns, a.name) ≠ (b.ns, b.name))
    (ha : s.Resolves a (.resolved ra c) s') (hf : Vm.Touch ra.id f)
    (hb : (s'.mapVms f).Resolves b (.resolved rb c') s'') (hid : rb.id = ra.id) :
    ra.ns ≠ a.ns ∨ rb.ns ≠ b.ns := by
  have hrow : rb = f ra := by
    have hto := (hb.id_eq_iff hs ha.mem hf).1 hid
    have hto' := rowOf?_mapVms (s := s') hf b
    rw [hto] at hto'
    cases hb with
    | found h => exact Option.some_inj.1 (h.symm.trans hto')
    | made h gains => exact absurd (h.symm.trans hto') nofun
  have hname : a.name = b.name := by rw [← ha.vmName, ← hb.vmName, hrow, hf.vmName]
  by_cases hhome : ra.ns = a.ns
  · refine .inr fun hhome' => hne (Prod.ext ?_ hname)
    show a.ns = b.ns
    rw [← hhome, ← hhome', hrow, hf.ns]
  · exact .inl hhome

end Store

/-- A machine that gets the name of its vApp keeps its own name, and the identity on its label. -/
theorem Reconcile.withVAppName_same (vm : VirtualMachine) (name : Option String) :
    (withVAppName vm name).ns = vm.ns ∧ (withVAppName vm name).name = vm.name ∧
      (withVAppName vm name).labelledVAppId? = vm.labelledVAppId? := by
  cases name with
  | none => exact ⟨rfl, rfl, rfl⟩
  | some name =>
    refine ⟨rfl, rfl, congrArg (Option.bind · Uuid.parse?) ?_⟩
    exact (Metadata.label?_setLabel _ _ _ _).trans (if_neg (by decide))

/-! ## Visits -/

/-- Why a machine is looked at: for its row alone, or for a whole pass. -/
inductive Visit
  | lookUp
  | pass (settings : Settings)

namespace Visit

open Attempt Reconcile

/-- The machine as its row is looked up, with the name of its vApp where a pass derives it. -/
def seen : Visit → VirtualMachine → Attempt VirtualMachine
  | lookUp, vm => return vm
  | pass _, vm => do return withVAppName vm (← deriveVAppName vm)

/-- The machine as its row is looked up, and what it is resolved to. -/
def found (v : Visit) (vm : VirtualMachine) : Attempt (VirtualMachine × Resolution) := do
  let vm ← v.seen vm
  return (vm, ← resolve vm)

/-- What is done with the row. -/
def finish : Visit → VirtualMachine × Resolution → Attempt Unit
  | lookUp, _ => return ()
  | pass settings, (vm, .resolved row _) => vmRow settings vm row
  | pass _, (_, .notManaged reason) => measure (.skippedUpdate Vocabulary.vmController reason)

def attempt (v : Visit) (vm : VirtualMachine) : Attempt Unit := do v.finish (← v.found vm)

theorem attempt_lookUp (vm : VirtualMachine) :
    lookUp.attempt vm = (do let _ ← resolve vm; return ()) := by
  simp [attempt, found, seen, finish]

theorem attempt_pass (settings : Settings) (vm : VirtualMachine) :
    (pass settings).attempt vm = virtualMachine settings vm := by
  simp only [attempt, found, seen, virtualMachine, bind_assoc, pure_bind]
  refine congrArg _ (funext fun name => congrArg _ (funext fun res => ?_))
  cases res <;> rfl

theorem seen_makes (v : Visit) (vm : VirtualMachine) : (v.seen vm).Makes Call.IsCluster := by
  cases v with
  | lookUp => exact .pure _
  | pass settings =>
    exact .bind ((deriveVAppName_makes vm).mono fun _ hc => hc.isCluster) fun _ => .pure _

end Visit

namespace World

variable {α : Type} {j k : Nat} {w : World} {v : Visit} {vm seen : VirtualMachine} {r : Vm}

/-- The world with each machine row changed, and another cluster. -/
def touched (w : World) (f : Vm → Vm) (c : Cluster) : World :=
  (w.setStore (w.store.mapVms f)).setCluster c

theorem touched_self (w : World) (c : Cluster) : w.touched (fun r => r) c = w.setCluster c := by
  simp [touched, setStore, setCluster, Store.mapVms]

theorem touched_touched (w : World) (f g : Vm → Vm) (c c' : Cluster) :
    (w.touched f c).touched g c' = w.touched (g ∘ f) c' := by
  simp [touched, setStore, setCluster, Store.mapVms]

theorem answer_cluster (hw : w.faults = []) {c : Call} (hc : c.IsCluster) :
    ∃ cl, (answer c w).2 = w.setCluster cl := by
  rw [answer_of_calm hw]
  have hchange : ∀ r : Result Cluster, ∃ cl, (w.changeCluster r).2 = w.setCluster cl := by
    rintro (e | cl)
    · exact ⟨w.cluster, rfl⟩
    · exact ⟨cl, rfl⟩
  cases c with
  | store c => exact hc.elim
  | cluster c => cases c <;> first | exact hchange _ | exact ⟨w.cluster, rfl⟩

theorem answer_spares (hw : w.faults = []) {key : Uuid} {c : Call} (hc : c.Spares key) :
    ∃ f cl, Vm.Touch key f ∧ (answer c w).2 = w.touched f cl := by
  cases c with
  | cluster c =>
    obtain ⟨cl, hcl⟩ := answer_cluster (c := .cluster c) hw trivial
    exact ⟨_, cl, .refl key, hcl.trans (w.touched_self cl).symm⟩
  | store c =>
    rw [answer_of_calm hw]
    cases c with
    | updateVmStatus id status =>
      obtain rfl := hc
      have hf := Vm.Touch.amend (f := fun r => { r with status, updatedAt := w.now }) id
        (fun _ => rfl) (fun _ => rfl) (fun _ => rfl) fun _ => rfl
      exact ⟨_, w.cluster, hf, rfl⟩
    | updateVmData id facts =>
      obtain rfl := hc
      have hf := Vm.Touch.amend (f := (·.withFacts facts)) id
        (fun _ => rfl) (fun _ => rfl) (fun _ => rfl) fun _ => rfl
      exact ⟨_, w.cluster, hf, rfl⟩
    | _ => exact hc.elim

theorem run_of_isCluster (hw : w.faults = []) {a : Attempt α} (h : a.Makes Call.IsCluster) :
    ∃ cl, (w.run a).state = w.setCluster cl := by
  refine Pass.Makes.keeps (I := fun w' => ∃ cl, w' = w.setCluster cl) h ?_ ⟨w.cluster, rfl⟩
  rintro c w' hc ⟨cl, rfl⟩
  obtain ⟨cl', hcl⟩ := answer_cluster (w := w.setCluster cl) hw hc
  exact ⟨cl', hcl⟩

theorem run_of_spares (hw : w.faults = []) {key : Uuid} {a : Attempt α}
    (h : a.Makes (Call.Spares key)) :
    ∃ f cl, Vm.Touch key f ∧ (w.run a).state = w.touched f cl := by
  refine Pass.Makes.keeps (I := fun w' => ∃ f cl, Vm.Touch key f ∧ w' = w.touched f cl) h ?_
    ⟨_, w.cluster, .refl key, (w.touched_self _).symm⟩
  rintro c w' hc ⟨f, cl, hf, rfl⟩
  obtain ⟨g, cl', hg, hcl⟩ := answer_spares (w := w.touched f cl) hw hc
  exact ⟨_, cl', hf.comp hg, hcl.trans (w.touched_touched f g cl cl')⟩

theorem Orderly.setCluster (h : w.Orderly j k) (c : Cluster) : (w.setCluster c).Orderly j k :=
  h.congr rfl rfl

theorem Orderly.touched (h : w.Orderly j k) {key : Uuid} {f : Vm → Vm} (hf : Vm.Touch key f)
    (c : Cluster) : (w.touched f c).Orderly j k := by
  refine ⟨h.unique.mapVms hf, ⟨h.vapps.vapps, fun i hi r hr => ?_, h.vapps.distinct⟩,
    ⟨fun i hi r hr => ?_, h.vms.distinct⟩⟩
  · obtain ⟨x, hx, rfl⟩ := List.mem_map.1 hr
    rw [hf.vappId]
    exact h.vapps.vms i hi x hx
  · obtain ⟨x, hx, rfl⟩ := List.mem_map.1 hr
    rw [hf.id]
    exact h.vms.vms i hi x hx

/-! ## Worlds after a visit -/

/-- A visit of the machine binds it to a row, which is looked up for the machine as it is seen. -/
def Binds (w : World) (v : Visit) (vm seen : VirtualMachine) (r : Vm) : Prop :=
  ∃ created, (w.run (v.found vm)).value = .ok (seen, .resolved r created)

/-- The machine as it is seen has another vApp name at most. -/
theorem seen_cases (h : (w.run (v.seen vm)).value = .ok seen) :
    ∃ name, seen = Reconcile.withVAppName vm name := by
  cases v with
  | lookUp =>
    cases h
    exact ⟨none, rfl⟩
  | pass settings =>
    obtain ⟨name, -, h⟩ := value_bind h
    cases h
    exact ⟨name, rfl⟩

theorem seen_same (h : (w.run (v.seen vm)).value = .ok seen) :
    seen.ns = vm.ns ∧ seen.name = vm.name ∧ seen.labelledVAppId? = vm.labelledVAppId? := by
  obtain ⟨name, rfl⟩ := seen_cases h
  exact Reconcile.withVAppName_same vm name

theorem Binds.resolves (hw : w.faults = []) (ho : w.Orderly (j + 1) (k + 1))
    (h : w.Binds v vm seen r) : (w.run (v.seen vm)).value = .ok seen ∧
      (w.run (v.found vm)).state.faults = [] ∧ (w.run (v.found vm)).state.Orderly j k ∧
      ∃ c, w.store.Resolves seen (.resolved r c) (w.run (v.found vm)).state.store := by
  obtain ⟨c, hvalue⟩ := h
  obtain ⟨seen', hseen, hvalue'⟩ := value_bind hvalue
  obtain ⟨res, hres, hpair⟩ := value_bind hvalue'
  cases hpair
  obtain ⟨cl, hcl⟩ := run_of_isCluster hw (v.seen_makes vm)
  obtain ⟨res', w', t, hdoes, hresolves, horderly, hcalm⟩ := Reconcile.resolve_settles
    (w := w.setCluster cl) hw (ho.setCluster cl) seen
  have hstate : (w.run (v.found vm)).state = w' := by
    unfold Visit.found
    rw [run_bind, hseen, hcl]
    dsimp only
    rw [run_bind, hdoes]
    rfl
  rw [hcl, hdoes] at hres
  cases hres
  rw [hstate]
  exact ⟨hseen, hcalm, horderly, c, hresolves⟩

theorem Binds.state (hw : (w.run (v.found vm)).state.faults = []) (h : w.Binds v vm seen r) :
    ∃ f cl, Vm.Touch r.id f ∧
      (w.run (v.attempt vm)).state = (w.run (v.found vm)).state.touched f cl := by
  obtain ⟨c, h⟩ := h
  have hrun : (w.run (v.attempt vm)).state =
      ((w.run (v.found vm)).state.run (v.finish (seen, .resolved r c))).state := by
    rw [Visit.attempt, run_bind, h]
  rw [hrun]
  cases v with
  | lookUp => exact ⟨_, _, .refl _, (touched_self _ _).symm⟩
  | pass settings => exact run_of_spares hw (Reconcile.vmRow_makes settings seen r)

/-! ## Two visits -/

/-- **Who shares a row.** Two machines that are not of one name in one namespace are visited one
after the other, and each is bound to a row. The rows are one exactly if both machines had this row
already, or the first had none and the second has its name and, on its label, the vApp of the row
that was made for the first. Then one of them is bound to a row of another namespace. The first
visit leaves every other row as it was. -/
theorem shares_row_iff (hw : w.faults = []) (ho : w.Orderly 2 2) {va vb : Visit}
    {a b a' b' : VirtualMachine} {ra rb : Vm} (hne : (a.ns, a.name) ≠ (b.ns, b.name))
    (ha : w.Binds va a a' ra) (hb : (w.run (va.attempt a)).state.Binds vb b b' rb) :
    (rb.id = ra.id ↔ (∃ r, w.store.rowOf? a' = some r ∧ w.store.rowOf? b' = some r) ∨
      w.store.rowOf? a' = none ∧ b.name = a.name ∧ b.labelledVAppId? = some ra.vappId) ∧
    (rb.id = ra.id → ra.ns ≠ a.ns ∨ rb.ns ≠ b.ns) ∧
    ∀ r, r.id ≠ ra.id → (r ∈ (w.run (va.attempt a)).state.store.vms ↔ r ∈ w.store.vms) := by
  -- The second visit starts from the store that the first look-up left, with one row touched.
  obtain ⟨hseen, hcalm, horderly, ca, hra⟩ := ha.resolves hw ho
  obtain ⟨f, cl, hf, hstate⟩ := ha.state hcalm
  rw [hstate] at hb ⊢
  have hcalm' : ((w.run (va.found a)).state.touched f cl).faults = [] := hcalm
  obtain ⟨hseen', -, -, cb, hrb⟩ := hb.resolves hcalm' (horderly.touched hf cl)
  obtain ⟨hns, hname, -⟩ := seen_same hseen
  obtain ⟨hns', hname', hlabel'⟩ := seen_same hseen'
  rw [← hns, ← hns', ← hname, ← hname', ← hlabel']
  rw [← hns, ← hns', ← hname, ← hname'] at hne
  refine ⟨hra.shares_iff horderly.unique hne hf hrb, hra.abroad horderly.unique hne hf hrb, ?_⟩
  exact fun r hr => (Store.mem_mapVms hf hr).trans (hra.mem_iff hr)

/-- A machine whose label says that it is in a vApp. -/
def stamped (n : String) (status : PrintableStatus) : VirtualMachine where
  metadata := {
    name := some "web-0"
    ns := some n
    labels := some (.single Vocabulary.vappIdLabel (Uuid.ofNat 2).render) }
  spec := ⟨none, none, none⟩
  status := some ⟨some status, none⟩

/-- The row of a machine. -/
def machineRow (id vappId : Nat) (n : String) (status : VmStatus) : Vm where
  id := .ofNat id
  name := "web-0"
  vmName := "web-0"
  ns := n
  vappId := .ofNat vappId
  status := status.word
  cpuCount := none
  memory := none
  guestOs := none
  createdAt := ⟨0, 0⟩
  updatedAt := ⟨0, 0⟩

/-- Two machines with rows of their own, where one has the label of the other. -/
def copied : World where
  store := {
    vdcs := [boundVdc 1 "gold" "tenant-a" none, boundVdc 5 "silver" "tenant-b" none]
    vapps := [⟨.ofNat 2, "web", .ofNat 1, .deployed, "", ⟨0, 0⟩, ⟨0, 0⟩⟩,
      ⟨.ofNat 6, "web", .ofNat 5, .deployed, "", ⟨0, 0⟩, ⟨0, 0⟩⟩]
    vms := [machineRow 3 2 "tenant-a" .poweredOn, machineRow 7 6 "tenant-b" .suspended] }
  cluster := {
    vms := (Dict.single ⟨"tenant-a", "web-0"⟩ (stamped "tenant-a" .running)).insert
      ⟨"tenant-b", "web-0"⟩ (stamped "tenant-b" .stopped) }
  ids := ⟨fun n => .ofNat (10 + n), fun n => .ofNat (20 + n), 0, 0⟩
  now := ⟨0, 0⟩

/-- What the pass for the first machine leaves. -/
def copiedOnce : World := (copied.run ((Visit.pass {}).attempt (stamped "tenant-a" .running))).state

/-- What the pass for the second one leaves after it. -/
def copiedTwice : World :=
  (copiedOnce.run ((Visit.pass {}).attempt (stamped "tenant-b" .stopped))).state

theorem copied_orderly : copied.Orderly 2 2 where
  unique := by decide
  vapps := ⟨by decide, by decide, by decide⟩
  vms := ⟨by decide, by decide⟩

/-- Both are led to the row of the first, and the second has another namespace than that row. -/
theorem copied_shares_row : ∃ a b ra rb,
    copied.Binds (.pass {}) (stamped "tenant-a" .running) a ra ∧
    copiedOnce.Binds (.pass {}) (stamped "tenant-b" .stopped) b rb ∧ rb.id = ra.id ∧
    (ra.ns ≠ "tenant-a" ∨ rb.ns ≠ "tenant-b") := by
  have ha : copied.Binds (.pass {}) (stamped "tenant-a" .running) _ _ := ⟨false, rfl⟩
  have hb : copiedOnce.Binds (.pass {}) (stamped "tenant-b" .stopped) _ _ := ⟨false, rfl⟩
  obtain ⟨hiff, habroad, -⟩ := shares_row_iff (w := copied) rfl copied_orderly (by decide) ha hb
  have hsame := hiff.2 (.inl ⟨_, rfl, rfl⟩)
  exact ⟨_, _, _, _, ha, hb, hsame, habroad hsame⟩

/-- Nothing keeps two machines from one row, also where each has its own: the status of the second
takes the place of that of the first. -/
theorem copy_overwrites : copied.store.Unique ∧
    copied.cluster.vms.get? ⟨"tenant-a", "web-0"⟩ = some (stamped "tenant-a" .running) ∧
    copied.cluster.vms.get? ⟨"tenant-b", "web-0"⟩ = some (stamped "tenant-b" .stopped) ∧
    (∃ a b ra rb, copied.Binds (.pass {}) (stamped "tenant-a" .running) a ra ∧
      copiedOnce.Binds (.pass {}) (stamped "tenant-b" .stopped) b rb ∧ rb.id = ra.id) ∧
    copiedOnce.store.vms.map Vm.status = ["POWERED_ON", "SUSPENDED"] ∧
    copiedTwice.store.vms.map Vm.status = ["POWERED_OFF", "SUSPENDED"] :=
  ⟨by decide, by decide, by decide, ⟨_, _, _, _, ⟨false, rfl⟩, ⟨false, rfl⟩, rfl⟩, by decide,
    by decide⟩

end World

end TenantCloud
