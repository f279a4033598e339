import TenantCloud.Proofs.Reconcile.Resolution

/-!
# What resolving a machine makes

`World.Grown` is a world where passes that resolve one machine, each as it sees it, made at most one
vApp and one row for it. What the look-ups find there is told by the store from before and by what
was made (`World.Grown.vappFor?`, `World.Grown.rowOf?`). A creation makes what was missing
(`World.Grown.addVApp`, `World.Grown.addVm`), and where the machine has a row no other one can be
made (`World.Grown.clashes`).
-/

set_option autoImplicit false

namespace TenantCloud

/-- The machine as it may be seen: with the same name, namespace and labels. -/
structure VirtualMachine.Resembles (seen vm : VirtualMachine) : Prop where
  ns : seen.ns = vm.ns
  name : seen.name = vm.name
  labels : seen.metadata.labels = vm.metadata.labels

namespace VirtualMachine.Resembles

variable {seen vm : VirtualMachine}

theorem labelledVAppId? (h : seen.Resembles vm) : seen.labelledVAppId? = vm.labelledVAppId? := by
  unfold VirtualMachine.labelledVAppId? Metadata.label?
  rw [h.labels]

theorem labelledVAppName? (h : seen.Resembles vm) :
    seen.labelledVAppName? = vm.labelledVAppName? := by
  unfold VirtualMachine.labelledVAppName? Metadata.filledLabel? Metadata.label?
  rw [h.labels]

/-- A machine is the only one seen where it is seen as it is. -/
theorem of_mem_singleton (h : seen ∈ [vm]) : seen.Resembles vm := by
  rw [List.mem_singleton.1 h]
  exact ⟨rfl, rfl, rfl⟩

end VirtualMachine.Resembles

/-- Why a machine has no row. -/
def Store.unmanaged? (s : Store) (vm : VirtualMachine) : Option String :=
  if (s.knownRow? vm).isSome then none
  else if vm.labelledVAppName? = none then some "no_vapp_label"
  else if s.vdcAt? vm.ns = none then some "no_vdc"
  else none

namespace World

/-- What resolving a machine made of a store: a vApp to put it into, where there was none, and a
row, where it had none. -/
structure Grown (vm : VirtualMachine) (views : List VirtualMachine) (s₀ : Store)
    (a? : Option VApp) (r? : Option Vm) (w : World) : Prop where
  vdcs : w.store.vdcs = s₀.vdcs
  organizations : w.store.organizations = s₀.organizations
  vapps : w.store.vapps = s₀.vapps ++ a?.toList
  vms : w.store.vms = s₀.vms ++ r?.toList
  vapp : ∀ a, a? = some a → s₀.vappFor? vm = none ∧ s₀.knownRow? vm = none ∧
    (∀ b ∈ s₀.vapps, b.id ≠ a.id) ∧ (∀ r ∈ s₀.vms, r.vappId ≠ a.id) ∧
    ∃ v name t, s₀.vdcAt? vm.ns = some v ∧ vm.labelledVAppName? = some name ∧
      a = Store.vappRow a.id t (vm.newVApp v.id name)
  row : ∀ r, r? = some r → s₀.rowOf? vm = none ∧ (∀ x ∈ s₀.vms, x.id ≠ r.id) ∧
    ∃ a seen t, (s₀.vappFor? vm).or a? = some a ∧ seen ∈ views ∧
      r = Store.vmRow r.id t (seen.newVm a.id)
  unique : w.store.Unique
  vappIds : a? = none → s₀.rowOf? vm = none → w.FreshVApps 1
  vmIds : r? = none → s₀.rowOf? vm = none → w.FreshVms 1

namespace Grown

variable {vm : VirtualMachine} {views : List VirtualMachine} {s₀ : Store} {w w' : World}
  {a? a'? : Option VApp} {r? r'? : Option Vm} {a : VApp} {r : Vm}

theorem refl (hu : w.store.Unique)
    (hids : w.store.rowOf? vm = none → w.FreshVApps 1 ∧ w.FreshVms 1) :
    Grown vm views w.store none none w where
  vdcs := rfl
  organizations := rfl
  vapps := (List.append_nil _).symm
  vms := (List.append_nil _).symm
  vapp := fun _ h => by cases h
  row := fun _ h => by cases h
  unique := hu
  vappIds := fun _ hrow => (hids hrow).1
  vmIds := fun _ hrow => (hids hrow).2

/-- The cluster and the time do not count. -/
theorem congr (h : Grown vm views s₀ a? r? w) (hs : w'.store = w.store) (hids : w'.ids = w.ids) :
    Grown vm views s₀ a? r? w' where
  vdcs := by rw [hs, h.vdcs]
  organizations := by rw [hs, h.organizations]
  vapps := by rw [hs, h.vapps]
  vms := by rw [hs, h.vms]
  vapp := h.vapp
  row := h.row
  unique := hs ▸ h.unique
  vappIds ha hrow := by
    obtain ⟨hvapps, hvms, hdistinct⟩ := h.vappIds ha hrow
    constructor
    all_goals simpa only [hs, hids]
  vmIds hr hrow := by
    obtain ⟨hvms, hdistinct⟩ := h.vmIds hr hrow
    constructor
    all_goals simpa only [hs, hids]

/-- A machine with a row gets nothing. -/
theorem store_eq (h : Grown vm views s₀ a? r? w) {x : Vm} (hx : s₀.rowOf? vm = some x) :
    a? = none ∧ r? = none ∧ w.store = s₀ := by
  have ha : a? = none := by
    cases ha : a? with
    | none => rfl
    | some a =>
      obtain ⟨hfor, hknown, -⟩ := h.vapp a ha
      rw [Store.rowOf?, hknown, hfor] at hx
      cases hx
  have hr : r? = none := by
    cases hr : r? with
    | none => rfl
    | some r =>
      rw [(h.row r hr).1] at hx
      cases hx
  refine ⟨ha, hr, ?_⟩
  obtain ⟨hvdcs, horganizations, hvapps, hvms⟩ := And.intro h.vdcs
    (And.intro h.organizations (And.intro h.vapps h.vms))
  rw [ha, Option.toList_none, List.append_nil] at hvapps
  rw [hr, Option.toList_none, List.append_nil] at hvms
  cases hw : w.store with
  | mk organizations vdcs vapps vms =>
    rw [hw] at hvdcs horganizations hvapps hvms
    cases s₀
    simp_all

/-! ### What is found -/

theorem vdcAt? (h : Grown vm views s₀ a? r? w) (n : String) :
    w.store.vdcAt? n = s₀.vdcAt? n := by
  unfold Store.vdcAt?
  rw [h.vdcs]

theorem find?_toList {α : Type} (o : Option α) (p : α → Bool) : o.toList.find? p = o.filter p := by
  cases o with
  | none => rfl
  | some a => by_cases hp : p a <;> simp [Option.filter, hp]

theorem vappFor? (h : Grown vm views s₀ a? r? w) :
    w.store.vappFor? vm = (s₀.vappFor? vm).or a? := by
  cases ha : a? with
  | none =>
    unfold Store.vappFor? Store.vappAt? Store.vappNamed?
    rw [h.vapps, ha, h.vdcAt?]
    simp
  | some a =>
    obtain ⟨hnone, -, -, -, v, name, t, hv, hname, hrow⟩ := h.vapp a ha
    rw [hnone, Option.none_or]
    unfold Store.vappFor? Store.vappAt? Store.vappNamed? at hnone ⊢
    rw [hname, hv] at hnone
    rw [h.vapps, ha, h.vdcAt?, hname, hv]
    simp only [Option.bind_some] at hnone ⊢
    rw [List.find?_append, hnone, Option.none_or, find?_toList, hrow]
    simp [Store.vappRow, VirtualMachine.newVApp]

theorem vmIn? (h : Grown vm views s₀ a? r? w) (id : Uuid) (n : String) :
    w.store.vmIn? id n = (s₀.vmIn? id n).or (r?.filter (·.isIn id n)) := by
  unfold Store.vmIn?
  rw [h.vms, List.find?_append, find?_toList]

theorem vmAt? (h : Grown vm views s₀ a? r? w) (n n' : String) :
    w.store.vmAt? n n' = (s₀.vmAt? n n').or (r?.filter (·.isAt n n')) := by
  unfold Store.vmAt?
  rw [h.vms, List.find?_append, find?_toList]

theorem isIn_of_row (h : Grown vm views s₀ a? r? w) (hr : r? = some r) {a : VApp}
    (ha : w.store.vappFor? vm = some a) : r.vappId = a.id := by
  obtain ⟨-, -, a', seen, t, ha', -, hrow⟩ := h.row r hr
  rw [h.vappFor?, ha'] at ha
  cases ha
  rw [hrow]
  rfl

variable (hviews : ∀ seen ∈ views, seen.Resembles vm)

include hviews

theorem isAt_of_row (h : Grown vm views s₀ a? r? w) (hr : r? = some r) :
    r.ns = vm.ns ∧ r.vmName = vm.name := by
  obtain ⟨-, -, a, seen, t, -, hseen, hrow⟩ := h.row r hr
  rw [hrow]
  exact ⟨(hviews seen hseen).ns, (hviews seen hseen).name⟩

theorem knownRow? (h : Grown vm views s₀ a? r? w) :
    w.store.knownRow? vm = (s₀.knownRow? vm).or r? := by
  have hlabel : w.store.labelledRow? vm = (s₀.labelledRow? vm).or
      (r?.filter fun r => vm.labelledVAppId? = some r.vappId) := by
    unfold Store.labelledRow?
    cases vm.labelledVAppId? with
    | none => cases r? <;> rfl
    | some id =>
      simp only [Option.bind_some]
      rw [h.vmIn?]
      congr 1
      cases hr : r? with
      | none => rfl
      | some r =>
        obtain ⟨-, hname⟩ := h.isAt_of_row hviews hr
        have hin : r.isIn id vm.name = decide (some id = some r.vappId) := by
          rw [Bool.eq_iff_iff]
          simp only [Vm.isIn, hname, beq_self_eq_true, Bool.and_true, beq_iff_eq,
            decide_eq_true_eq, Option.some.injEq]
          exact eq_comm
        simp only [Option.filter, hin]
  unfold Store.knownRow?
  rw [hlabel, h.vmAt?]
  cases hr : r? with
  | none => simp
  | some r =>
    obtain ⟨hns, hname⟩ := h.isAt_of_row hviews hr
    obtain ⟨hnone, -⟩ := h.row r hr
    have hknown := (Option.or_eq_none_iff.1 hnone).1
    obtain ⟨hl, hat⟩ := Option.or_eq_none_iff.1 hknown
    have hisAt : r.isAt vm.ns vm.name = true := by simp [Vm.isAt, hns, hname]
    rw [hl, hat]
    simp only [Option.filter, hisAt, if_true, Option.none_or]
    split <;> rfl

theorem rowOf? (h : Grown vm views s₀ a? r? w) :
    w.store.rowOf? vm = (s₀.rowOf? vm).or r? := by
  unfold Store.rowOf?
  rw [h.knownRow? hviews]
  cases hr : r? with
  | some r =>
    obtain ⟨hnone, -⟩ := h.row r hr
    obtain ⟨hknown, hin⟩ := Option.or_eq_none_iff.1 hnone
    rw [hknown, hin]
    simp
  | none =>
    subst hr
    rw [Option.or_none, Option.or_none, h.vappFor?]
    cases ha : a? with
    | none =>
      rw [Option.or_none]
      simp only [h.vmIn?, Option.filter_none, Option.or_none]
    | some a =>
      -- The identity of the new vApp is new, so that no row is in it.
      obtain ⟨hfor, -, -, hfresh, -⟩ := h.vapp a ha
      have hin : s₀.vmIn? a.id vm.name = none := by
        refine List.find?_eq_none.2 fun r hr hin => hfresh r hr ?_
        simp only [Vm.isIn, Bool.and_eq_true, beq_iff_eq] at hin
        exact hin.1
      rw [hfor]
      simp [h.vmIn?, hin]

/-! ### What is made -/

/-- A row in the vApp of the machine is its row. -/
theorem rowOf?_of_vmIn? (h : Grown vm views s₀ a? r? w) (hknown : s₀.knownRow? vm = none)
    (ha : w.store.vappFor? vm = some a) (hin : w.store.vmIn? a.id vm.name = some r) :
    w.store.rowOf? vm = some r := by
  unfold Store.rowOf?
  rw [h.knownRow? hviews, hknown, Option.none_or]
  cases hr : r? with
  | none => rw [Option.none_or, ha, Option.bind_some, hin]
  | some b =>
    -- Two rows of one name are not in one vApp.
    obtain ⟨hmem, hid, hname⟩ := Store.vmIn?_eq_some hin
    have hb : b ∈ w.store.vms := by
      rw [h.vms, hr]
      simp
    have hkey : (b.vappId, b.vmName) = (r.vappId, r.vmName) := by
      rw [h.isIn_of_row hr ha, (h.isAt_of_row hviews hr).2, hid, hname]
    rw [h.unique.vmIn b hb r hmem hkey]
    rfl

/-- The row in the namespace is the row of a machine whose label leads to none. -/
theorem rowOf?_of_vmAt? (h : Grown vm views s₀ a? r? w)
    (hlabel : s₀.labelledRow? vm = none) (hat : w.store.vmAt? vm.ns vm.name = some r) :
    w.store.rowOf? vm = some r := by
  unfold Store.rowOf?
  rw [h.knownRow? hviews]
  unfold Store.knownRow?
  rw [hlabel, Option.none_or]
  rw [h.vmAt?] at hat
  rcases Option.or_eq_some_iff.1 hat with hat | ⟨hnone, hr⟩
  · rw [hat]
    rfl
  · rw [hnone, (Option.filter_eq_some_iff.1 hr).1]
    rfl

/-- A machine with a row is managed. -/
theorem managed (h : Grown vm views s₀ a? r? w) (hrow : w.store.rowOf? vm = some r) :
    s₀.unmanaged? vm = none := by
  unfold Store.unmanaged?
  cases hknown : s₀.knownRow? vm with
  | some r => rfl
  | none =>
    have hfor : ∃ a, w.store.vappFor? vm = some a := by
      unfold Store.rowOf? at hrow
      rw [h.knownRow? hviews, hknown, Option.none_or] at hrow
      rcases Option.or_eq_some_iff.1 hrow with hr | ⟨-, hin⟩
      · obtain ⟨-, -, a, seen, t, ha, -⟩ := h.row r hr
        exact ⟨a, h.vappFor?.trans ha⟩
      · obtain ⟨a, ha, -⟩ := Option.bind_eq_some_iff.1 hin
        exact ⟨a, ha⟩
    obtain ⟨a, ha⟩ := hfor
    obtain ⟨name, hname, ha⟩ := Option.bind_eq_some_iff.1 ha
    obtain ⟨v, hv, -⟩ := Option.bind_eq_some_iff.1 ha
    rw [h.vdcAt?] at hv
    simp [hname, hv]

/-- The row of a machine that had none that was known forbids another one. -/
theorem clashes (h : Grown vm views s₀ a? r? w) (hknown : s₀.knownRow? vm = none)
    (ha : w.store.vappFor? vm = some a) (hrow : w.store.rowOf? vm = some r) {seen : VirtualMachine}
    (hseen : seen ∈ views) : w.store.vms.any (Store.clashesVm (seen.newVm a.id)) = true := by
  have hlike := hviews seen hseen
  obtain ⟨hmem, hname, -⟩ := Store.rowOf?_cases hrow
  refine List.any_eq_true.2 ⟨r, hmem, ?_⟩
  simp only [Store.clashesVm, VirtualMachine.newVm, hlike.name, hlike.ns, hname,
    Bool.and_eq_true, Bool.or_eq_true, beq_iff_eq, true_and]
  unfold Store.rowOf? at hrow
  rw [h.knownRow? hviews, hknown, Option.none_or, ha, Option.bind_some] at hrow
  rcases Option.or_eq_some_iff.1 hrow with hr | ⟨-, hin⟩
  · exact .inl (h.isAt_of_row hviews hr).1
  · exact .inr (Store.vmIn?_eq_some hin).2.1

omit hviews in
/-- A new vApp is the one for the machine. -/
theorem addVApp (h : Grown vm views s₀ none r? w) (hfor : s₀.vappFor? vm = none)
    (hknown : s₀.knownRow? vm = none) {v : Vdc} {name : String}
    (hv : s₀.vdcAt? vm.ns = some v) (hname : vm.labelledVAppName? = some name) :
    perform (.store (.createVApp (vm.newVApp v.id name))) w =
        (.ok (Store.vappRow w.ids.nextVApp w.now (vm.newVApp v.id name)),
          w.addVApp (Store.vappRow w.ids.nextVApp w.now (vm.newVApp v.id name))) ∧
      Grown vm views s₀ (some (Store.vappRow w.ids.nextVApp w.now (vm.newVApp v.id name))) r?
        (w.addVApp (Store.vappRow w.ids.nextVApp w.now (vm.newVApp v.id name))) := by
  have hr : r? = none := by
    cases hr : r? with
    | none => rfl
    | some r =>
      obtain ⟨-, -, a, seen, t, ha, -⟩ := h.row r hr
      rw [hfor] at ha
      cases ha
  subst hr
  have hrow : s₀.rowOf? vm = none := by
    rw [Store.rowOf?, hknown, hfor]
    rfl
  have ho : w.Orderly 1 1 := ⟨h.unique, h.vappIds rfl hrow, h.vmIds rfl hrow⟩
  have hnamed : w.store.vappNamed? v.id name = none := by
    have hnone := h.vappFor?
    rw [hfor, Option.none_or] at hnone
    simpa [Store.vappFor?, Store.vappAt?, hname, h.vdcAt?, hv] using hnone
  have ho' := ho.addVApp (vm.newVApp v.id name) hnamed
  refine ⟨perform_createVApp ho _ hnamed, ?_⟩
  refine { h with
    vapps := ?_
    vapp := fun a ha => ?_
    row := fun r hr => by cases hr
    unique := ho'.unique
    vappIds := fun hnone => by cases hnone
    vmIds := fun _ _ => ho'.vms }
  · show w.store.vapps ++ [_] = _
    rw [h.vapps]
    simp
  · cases ha
    have hvapps := h.vapps
    have hvms := h.vms
    rw [Option.toList_none, List.append_nil] at hvapps hvms
    rw [← hvapps, ← hvms]
    exact ⟨hfor, hknown, ho.vapps.vapps 0 (by omega), ho.vapps.vms 0 (by omega), v, name, w.now,
      hv, hname, rfl⟩

/-- A new row is the one of the machine. -/
theorem addVm (h : Grown vm views s₀ a? r? w) (hrow : w.store.rowOf? vm = none)
    (ha : w.store.vappFor? vm = some a) {seen : VirtualMachine} (hseen : seen ∈ views) :
    perform (.store (.createVm (seen.newVm a.id))) w =
        (.ok (Store.vmRow w.ids.nextVm w.now (seen.newVm a.id)),
          w.addVm (Store.vmRow w.ids.nextVm w.now (seen.newVm a.id))) ∧
      Grown vm views s₀ a? (some (Store.vmRow w.ids.nextVm w.now (seen.newVm a.id)))
        (w.addVm (Store.vmRow w.ids.nextVm w.now (seen.newVm a.id))) := by
  have hlike := hviews seen hseen
  have hnone : s₀.rowOf? vm = none ∧ r? = none := by
    rw [h.rowOf? hviews] at hrow
    exact Option.or_eq_none_iff.1 hrow
  obtain ⟨hnone, rfl⟩ := hnone
  obtain ⟨hknown, hin⟩ := Option.or_eq_none_iff.1 hrow
  rw [ha, Option.bind_some] at hin
  have hat : w.store.vmAt? vm.ns vm.name = none := (Option.or_eq_none_iff.1 hknown).2
  rw [← hlike.name] at hin hat
  rw [← hlike.ns] at hat
  have ho : w.Orderly 0 1 := by
    refine ⟨h.unique, ⟨?_, ?_, ?_⟩, h.vmIds rfl hnone⟩
    all_goals intro i hi; omega
  obtain ⟨-, -, hmem, -⟩ := Store.vappFor?_eq_some ha
  have ho' : (w.addVm (Store.vmRow w.ids.nextVm w.now (seen.newVm a.id))).Orderly 0 0 :=
    ho.addVm hat hin ⟨a, hmem, rfl⟩
  refine ⟨perform_createVm ho _ hat hin, ?_⟩
  refine { h with
    vms := ?_
    row := fun r hr => ?_
    unique := ho'.unique
    vappIds := fun ha _ => ?_
    vmIds := fun hnone => by cases hnone }
  · show w.store.vms ++ [_] = _
    rw [h.vms]
    simp
  · cases hr
    have hvms := h.vms
    rw [Option.toList_none, List.append_nil] at hvms
    rw [← hvms]
    exact ⟨hnone, ho.vms.vms 0 (by omega), a, seen, w.now, h.vappFor?.symm.trans ha, hseen, rfl⟩
  · have ho : w.Orderly 1 1 := ⟨h.unique, h.vappIds ha hnone, h.vmIds rfl hnone⟩
    have ho' : (w.addVm (Store.vmRow w.ids.nextVm w.now (seen.newVm a.id))).Orderly 1 0 :=
      ho.addVm hat hin ⟨a, hmem, rfl⟩
    exact ho'.vapps

end Grown

end World

end TenantCloud
