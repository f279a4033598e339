import TenantCloud.Proofs.Reconcile.Retention
import TenantCloud.Proofs.Reconcile.Vanishing

/-!
# What resolving a machine adds to the store

Resolving a machine adds a vApp at most and a row at most behind those that are there, and tells of
each once (`Store.Adds`), however many of its calls fail. A row that it adds belongs where the
machine does (`Store.Houses`), and it comes last, so that a failure leaves no row
(`Reconcile.resolve_adds_consistent_rows`).
-/

set_option autoImplicit false

namespace TenantCloud

/-! ## What is told of new rows -/

/-- The signal, where the item is one. -/
def Item.signal? : Item → Option Signal
  | reply _ _ => none
  | signal s => some s

/-- The signals of a log. -/
def Log.signals (l : Log) : List Signal := l.filterMap Item.signal?

@[simp] theorem Log.signals_append (l l' : Log) :
    Log.signals (l ++ l') = Log.signals l ++ Log.signals l' := List.filterMap_append

/-- An event with this reason. -/
def Signal.announces (reason : String) : Signal → Bool
  | event _ e => e.reason == reason
  | metric _ => false

/-- So many new records of a kind are counted, and announced by events with this reason. -/
structure Log.Tells (kind reason : String) (n : Nat) (l : Log) : Prop where
  counted : l.signals.count (.metric (.recordCreated kind .success)) = n
  announced : l.signals.countP (·.announces reason) = n

namespace Log.Tells

variable {kind reason : String} {n m : Nat} {l l' : Log}

theorem append (h : l.Tells kind reason n) (h' : l'.Tells kind reason m) :
    Log.Tells kind reason (n + m) (l ++ l') := by
  constructor
  · rw [Log.signals_append, List.count_append, h.counted, h'.counted]
  · rw [Log.signals_append, List.countP_append, h.announced, h'.announced]

theorem of_signals_eq_nil (h : l.signals = []) : l.Tells kind reason 0 := by
  constructor <;> rw [h] <;> rfl

/-- Without signals nothing is told. -/
theorem after (hl : l.signals = []) (h : l'.Tells kind reason n) :
    Log.Tells kind reason n (l ++ l') := by
  rw [← Nat.zero_add n]
  exact (of_signals_eq_nil hl).append h

end Log.Tells

namespace Store

/-- A step adds these rows, if any, and tells of each once. -/
structure Adds (s : Store) (a? : Option VApp) (r? : Option Vm) (l : Log) (s' : Store) : Prop where
  store : s' = { s with vapps := s.vapps ++ a?.toList, vms := s.vms ++ r?.toList }
  tellsVApps : l.Tells "vapp" "VAppRecordCreated" a?.toList.length
  tellsVms : l.Tells "vm" "VmRecordCreated" r?.toList.length

/-- The row stands where the machine does: in a vApp that is there and has the name on the label, in
the only virtual datacenter that is not deleted and bound to the namespace. -/
structure Houses (s : Store) (vm : VirtualMachine) (row : Vm) : Prop where
  ns : row.ns = vm.ns
  vmName : row.vmName = vm.name
  vapp : ∃ a v, Table.get? s.vapps row.vappId = some a ∧ vm.labelledVAppName? = some a.name ∧
    a.vdcId = v.id ∧ ∀ u, u ∈ s.vdcs ∧ u.liveAt vm.ns = true ↔ u = v

variable {s s' s'' : Store} {a? : Option VApp} {r? : Option Vm} {l l' : Log}

/-- What the creation of a row makes of a store, what its log tells, and how it ends: with a row of
the machine in a vApp that is new, or with one that is there. -/
structure Creates (s : Store) (vm : VirtualMachine) (a : VApp) (r? : Option Vm) (l : Log)
    (r : Result Vm) (s' : Store) : Prop where
  adds : s.Adds none r? l s'
  placed : ∀ row ∈ r?, row.ns = vm.ns ∧ row.vmName = vm.name ∧ row.vappId = a.id
  found : ∀ row, r = .ok row → row ∈ s'.vms
  failed : ∀ e, r = .error e → r? = none

/-- What resolving a machine makes of a store, what its log tells, and how it ends: with a vApp at
most and a row at most that are new. -/
structure Enters (s : Store) (vm : VirtualMachine) (a? : Option VApp) (r? : Option Vm) (l : Log)
    (r : Result Resolution) (s' : Store) : Prop where
  adds : s.Adds a? r? l s'
  /-- A row is added only where the machine has none. -/
  unknown : r?.isSome → s.labelledRow? vm = none ∧ s.vmAt? vm.ns vm.name = none
  houses : ∀ row ∈ r?, s'.Houses vm row
  notManaged : ∀ reason, r = .ok (.notManaged reason) → a? = none ∧ r? = none
  resolved : ∀ row created, r = .ok (.resolved row created) → row ∈ s'.vms
  failed : ∀ e, r = .error e → r? = none

namespace Adds

theorem refl (s : Store) (hvapps : l.Tells "vapp" "VAppRecordCreated" 0)
    (hvms : l.Tells "vm" "VmRecordCreated" 0) : s.Adds none none l s where
  store := by simp
  tellsVApps := hvapps
  tellsVms := hvms

/-- Without signals nothing is added. -/
theorem silent (s : Store) (hl : l.signals = []) : s.Adds none none l s :=
  .refl s (.of_signals_eq_nil hl) (.of_signals_eq_nil hl)

theorem after (hl : l.signals = []) (h : s.Adds a? r? l' s') : s.Adds a? r? (l ++ l') s' :=
  ⟨h.store, h.tellsVApps.after hl, h.tellsVms.after hl⟩

theorem reply {c : Call} {r : Result c.Answer} (h : s.Adds a? r? l s') :
    s.Adds a? r? (.reply c r :: l) s' := h.after (l := [_]) rfl

/-- First a vApp, then a row. -/
theorem trans (h : s.Adds a? none l s') (h' : s'.Adds none r? l' s'') :
    s.Adds a? r? (l ++ l') s'' where
  store := by rw [h'.store, h.store]; simp
  tellsVApps := h.tellsVApps.append h'.tellsVApps
  tellsVms := by simpa using h.tellsVms.append h'.tellsVms

theorem vdcs (h : s.Adds a? r? l s') : s'.vdcs = s.vdcs := by rw [h.store]

theorem vapps (h : s.Adds none r? l s') : s'.vapps = s.vapps := by
  rw [h.store]
  exact List.append_nil s.vapps

theorem vms (h : s.Adds a? none l s') : s'.vms = s.vms := by
  rw [h.store]
  exact List.append_nil s.vms

end Adds

/-- No row is made. -/
theorem Creates.none {vm : VirtualMachine} {a : VApp} {r : Result Vm} (h : s.Adds none none l s)
    (hfound : ∀ row, r = .ok row → row ∈ s.vms) : s.Creates vm a none l r s where
  adds := h
  placed _ h := (nomatch h)
  found := hfound
  failed _ _ := rfl

/-- Nothing is added. -/
theorem Enters.unchanged {vm : VirtualMachine} {r : Result Resolution} (hl : l.signals = [])
    (hrow : ∀ row created, r = .ok (.resolved row created) → row ∈ s.vms) :
    s.Enters vm none none l r s where
  adds := .silent s hl
  unknown h := (nomatch h)
  houses _ h := (nomatch h)
  notManaged _ _ := ⟨rfl, rfl⟩
  resolved := hrow
  failed _ _ := rfl

/-- Where a namespace has a virtual datacenter, it is the only one. -/
theorem Unique.liveAt_iff (h : s.Unique) {ns : String} {v : Vdc} (hv : s.vdcAt? ns = some v)
    (u : Vdc) : u ∈ s.vdcs ∧ u.liveAt ns = true ↔ u = v := by
  obtain ⟨hmem, hlive, hbound⟩ := vdcAt?_eq_some hv
  unfold Vdc.liveAt
  rw [Bool.and_eq_true, Bool.not_eq_true', beq_iff_eq]
  constructor
  · rintro ⟨hu, hulive, hubound⟩
    exact h.vdcBound u hu v hmem hulive hlive (by rw [hubound]; rfl) (hubound.trans hbound.symm)
  · rintro rfl
    exact ⟨hmem, hlive, hbound⟩

end Store

/-! ## The steps of resolving -/

namespace Reconcile

open Attempt

variable {h : Handler World} {w : World} {vm : VirtualMachine}

/-- What the store tells, or a call failed. Nothing is changed or told. -/
def Looks {α : Type} (f : Store → α) (w : World) (l : Log) (r : Result α) (w' : World) : Prop :=
  (∃ now, w' = { w with now }) ∧ l.signals = [] ∧ ∀ v, r = .ok v → v = f w.store

/-- Look for a row here, and else there. -/
theorem looks_else {f g : Store → Option Vm} {a : Attempt (Option Vm)}
    {k : Option Vm → Attempt (Option Vm)} (ha : a.Yields h (Looks f w) w)
    (hfound : ∀ row, k (some row) = pure (some row))
    (helse : ∀ w, (k none).Yields h (Looks g w) w) :
    (a >>= k).Yields h (Looks (fun s => (f s).or (g s)) w) w := by
  refine .bind (ha.mono ?_)
  rintro l r _ ⟨⟨now, rfl⟩, hl, hvalue⟩
  refine ⟨fun row? hr => ?_, ?_⟩
  · have hrow : row? = f w.store := hvalue row? hr
    cases row? with
    | some row =>
      rw [hfound]
      refine .pure ⟨⟨now, rfl⟩, by rw [List.append_nil, hl], ?_⟩
      rintro _ ⟨⟩
      exact (congrArg (·.or (g w.store)) hrow :)
    | none =>
      refine (helse _).mono ?_
      rintro l' r' _ ⟨⟨now', rfl⟩, hl', hvalue'⟩
      refine ⟨⟨now', rfl⟩, by rw [Log.signals_append, hl, hl', List.append_nil], fun v hv => ?_⟩
      exact (hvalue' v hv).trans (congrArg (·.or (g w.store)) hrow :)
  · rintro e rfl
    exact ⟨⟨now, rfl⟩, hl, fun _ he => (nomatch he)⟩

theorem looks_call (hh : h.IsPlain) {c : Call} {f : Store → c.Answer}
    (hc : ∀ w, World.perform c w = (.ok (f w.store), w)) (w : World) :
    (Attempt.call c).Yields h (Looks f w) w := by
  refine .look hh (g := fun w => f w.store) hc (fun now => ⟨⟨now, rfl⟩, rfl, ?_⟩)
    fun e => ⟨⟨w.now, rfl⟩, rfl, fun _ he => (nomatch he)⟩
  rintro _ ⟨⟩
  rfl

theorem vmIn_yields (hh : h.IsPlain) (vappId : Uuid) (name : String) (w : World) :
    (Attempt.store (.getVmByVAppAndName vappId name)).Yields h (Looks (·.vmIn? vappId name) w) w :=
  looks_call hh (c := .store (.getVmByVAppAndName vappId name)) (f := (·.vmIn? vappId name))
    (fun _ => rfl) w

theorem vmAt_yields (hh : h.IsPlain) (ns name : String) (w : World) :
    (Attempt.store (.getVmByNamespaceAndName ns name)).Yields h (Looks (·.vmAt? ns name) w) w :=
  looks_call hh (c := .store (.getVmByNamespaceAndName ns name)) (f := (·.vmAt? ns name))
    (fun _ => rfl) w

theorem findVm_yields (hh : h.IsPlain) (vm : VirtualMachine) :
    (findVm vm).Yields h (Looks (·.knownRow? vm) w) w := by
  have hlabel : (findByLabel vm).Yields h (Looks (·.labelledRow? vm) w) w := by
    unfold findByLabel Store.labelledRow?
    cases vm.labelledVAppId? with
    | none => exact .pure ⟨⟨w.now, rfl⟩, rfl, by rintro _ ⟨⟩; rfl⟩
    | some id => exact vmIn_yields hh id vm.name w
  exact looks_else hlabel (fun _ => rfl) (vmAt_yields hh vm.ns vm.name)

theorem rereadVm_yields (hh : h.IsPlain) (vm : VirtualMachine) (a : VApp) :
    (rereadVm vm a).Yields h
      (Looks (fun s => (s.vmAt? vm.ns vm.name).or (s.vmIn? a.id vm.name)) w) w :=
  looks_else (vmAt_yields hh vm.ns vm.name w) (fun _ => rfl) (vmIn_yields hh a.id vm.name)

/-- The vApp is there afterwards, unless a call failed. -/
theorem ensureVApp_yields (hh : h.IsPlain) (hid : w.store.vapps.Distinct VApp.id)
    (hnew : w.DrawsNew) (vm : VirtualMachine) (v : Vdc) (name : String) :
    (ensureVApp vm v name).Yields h (fun l r w' => ∃ a?, w.store.Adds a? none l w'.store ∧
      w'.ids.nextVm = w.ids.nextVm ∧ ∀ a, r = .ok a →
        Table.get? w'.store.vapps a.id = some a ∧ a.vdcId = v.id ∧ a.name = name) w := by
  let look : StoreCall := .getVAppByName v.id name
  let new := vm.newVApp v.id name
  refine .look_bind hh (c := .store look) (g := fun w => w.store.vappNamed? v.id name)
    (fun _ => rfl) (fun now => ?_) fun e => ⟨none, .silent _ rfl, rfl, fun _ he => (nomatch he)⟩
  dsimp only
  cases hnamed : w.store.vappNamed? v.id name with
  | some a =>
    obtain ⟨hmem, hvdc, hname⟩ := Store.vappNamed?_eq_some hnamed
    refine .pure ⟨none, .silent _ rfl, rfl, ?_⟩
    rintro _ ⟨⟩
    exact ⟨hid.find? hmem fun _ => beq_iff_eq, hvdc, hname⟩
  | none =>
    refine .tried (c := .store (.createVApp new)) ?_
    obtain ⟨now', he⟩ | ⟨e, he⟩ := hh (.store (.createVApp new)) { w with now }
    · have hfree : w.store.vapps.any (Store.clashesVApp new) = false :=
        List.any_eq_false.2 (List.find?_eq_none.1 hnamed)
      rw [he, World.perform_createVApp_of_free (w := { w with now := now' }) hnew hfree]
      let a := Store.vappRow w.ids.nextVApp now' new
      have hstore : (w.addVApp a).store =
          { w.store with vapps := w.store.vapps ++ [a], vms := w.store.vms ++ [] } := by
        rw [List.append_nil]
        rfl
      refine .bind (.measure _ ⟨fun _ _ => .bind (.publish _ _ ⟨fun _ _ => ?_, nofun⟩), nofun⟩)
      refine .pure ⟨some a, ⟨hstore, ⟨rfl, rfl⟩, ⟨rfl, rfl⟩⟩, rfl, ?_⟩
      rintro _ ⟨⟩
      have hfresh : ∀ b ∈ w.store.vapps, b.id ≠ a.id := hnew
      have hmem : a ∈ w.store.vapps ++ [a] := List.mem_append_right _ List.mem_cons_self
      exact ⟨(hid.concat hfresh).find? hmem fun _ => beq_iff_eq, rfl, rfl⟩
    · rw [he]
      dsimp only
      split
      · refine .look_bind hh (c := .store look) (g := fun w => w.store.vappNamed? v.id name)
          (fun _ => rfl) (fun now => ?_)
          fun e => ⟨none, .silent _ rfl, rfl, fun _ he => (nomatch he)⟩
        dsimp only
        rw [hnamed]
        exact .throw ⟨none, .silent _ rfl, rfl, fun _ he => (nomatch he)⟩
      · refine .bind (.measure _ ⟨fun _ _ => ?_, nofun⟩)
        exact .throw ⟨none, .refl _ ⟨rfl, rfl⟩ ⟨rfl, rfl⟩, rfl, fun _ he => (nomatch he)⟩

/-- A creation that fails, for one reason or another, leaves the store as it is. -/
theorem createVm_failed (hh : h.IsPlain) (vm : VirtualMachine) (a : VApp) (e : Error)
    {w' : World} (hs : w'.store = w.store) :
    Yields h (fun l r w'' => ∃ r?, w.store.Creates vm a r?
      (.reply (.store (.createVm (vm.newVm a.id))) (.error e) :: l) r w''.store)
    (if e.isAlreadyExists then do
        match ← rereadVm vm a with
        | some row => return row
        | none => throw e
      else do
        measure (.recordCreated "vm" .failure)
        throw e) w' := by
  rw [← hs]
  split
  · refine .bind ((rereadVm_yields hh vm a).mono ?_)
    rintro l r _ ⟨⟨now, rfl⟩, hl, hvalue⟩
    refine ⟨fun row? hr => ?_, fun e _ =>
      ⟨none, .none (.reply (.silent _ hl)) fun _ he => (nomatch he)⟩⟩
    have hsilent : Log.signals (l ++ []) = [] := by rw [List.append_nil, hl]
    have hrow := hvalue row? hr
    cases row? with
    | none => exact .throw ⟨none, .none (.reply (.silent _ hsilent)) fun _ he => (nomatch he)⟩
    | some row =>
      refine .pure ⟨none, .none (.reply (.silent _ hsilent)) ?_⟩
      rintro _ ⟨⟩
      rcases Option.or_eq_some_iff.1 hrow.symm with hat | ⟨-, hin⟩
      · exact (Store.vmAt?_eq_some hat).1
      · exact (Store.vmIn?_eq_some hin).1
  · refine .bind (.measure _ ⟨fun _ _ => .throw ⟨none, .none ?_ fun _ he => (nomatch he)⟩, nofun⟩)
    exact .refl _ ⟨rfl, rfl⟩ ⟨rfl, rfl⟩

/-- The row is there afterwards, unless a call failed; then none is added. -/
theorem createVm_yields (hh : h.IsPlain) (hnew : w.DrawsNewVm) (vm : VirtualMachine) (a : VApp) :
    (createVm vm a).Yields h (fun l r w' => ∃ r?, w.store.Creates vm a r? l r w'.store) w := by
  let new := vm.newVm a.id
  refine .tried (c := .store (.createVm new)) ?_
  obtain ⟨now, he⟩ | ⟨e, he⟩ := hh (.store (.createVm new)) w
  · obtain ⟨hsame, e, hclash⟩ | hmade :=
      World.perform_createVm_cases (w := { w with now }) hnew new
    · rw [he, hclash, hsame]
      exact createVm_failed (w := w) hh vm a e rfl
    · rw [he, hmade]
      let row := Store.vmRow w.ids.nextVm now new
      have hstore : (w.addVm row).store =
          { w.store with vapps := w.store.vapps ++ [], vms := w.store.vms ++ [row] } := by
        rw [List.append_nil]
        rfl
      refine .bind (.measure _ ⟨fun _ _ => .bind (.publish _ _ ⟨fun _ _ => ?_, nofun⟩), nofun⟩)
      refine .pure ⟨some row, ⟨hstore, ⟨rfl, rfl⟩, ⟨rfl, rfl⟩⟩, ?_, ?_, fun _ he => (nomatch he)⟩
      · rintro _ ⟨⟩
        exact ⟨rfl, rfl, rfl⟩
      · rintro _ ⟨⟩
        exact List.mem_append_right _ List.mem_cons_self
  · rw [he]
    exact createVm_failed hh vm a e rfl

theorem discover_yields (hh : h.IsPlain) (hs : w.store.Unique) (hvapps : w.DrawsNew)
    (hvms : w.DrawsNewVm) (hknown : w.store.knownRow? vm = none) :
    (discover vm).Yields h (fun l r w' => ∃ a? r?, w.store.Enters vm a? r? l r w'.store) w := by
  have hunknown := Option.or_eq_none_iff.1 hknown
  unfold discover
  cases hname : vm.labelledVAppName? with
  | none => exact .pure ⟨none, none, .unchanged rfl fun _ _ he => (nomatch he)⟩
  | some name =>
    refine .look_bind hh (c := .store (.getVdcByNamespace vm.ns))
      (g := fun w => w.store.vdcAt? vm.ns) (fun _ => rfl) (fun now => ?_)
      fun e => ⟨none, none, .unchanged rfl fun _ _ he => (nomatch he)⟩
    dsimp only
    cases hv : w.store.vdcAt? vm.ns with
    | none => exact .pure ⟨none, none, .unchanged rfl fun _ _ he => (nomatch he)⟩
    | some v =>
      refine .bind ((ensureVApp_yields (w := { w with now }) hh hs.vappId hvapps vm v name).mono ?_)
      rintro l r w' ⟨a?, hadds, hnext, ha⟩
      refine ⟨fun a hr => ?_, fun e hr => ?_⟩
      · obtain ⟨hget, hvdc, hlabel⟩ := ha a hr
        have hvms' : w'.DrawsNewVm := by
          unfold World.DrawsNewVm
          rw [hnext, hadds.vms]
          exact hvms
        refine .bind ((createVm_yields hh hvms' vm a).mono ?_)
        rintro l' r' w'' ⟨r?, hcreates⟩
        have hall := hadds.trans hcreates.adds
        have hhouses : ∀ row ∈ r?, w''.store.Houses vm row := by
          intro row hr
          obtain ⟨hns, hvmName, hid⟩ := hcreates.placed row hr
          refine ⟨hns, hvmName, a, v, ?_, hlabel ▸ hname, hvdc, ?_⟩
          · rw [hcreates.adds.vapps, hid]
            exact hget
          · rw [hall.vdcs]
            exact hs.liveAt_iff hv
        refine ⟨fun row hr' => ?_, fun e hr' => ?_⟩
        · refine .pure ⟨a?, r?, ?_, fun _ => hunknown, hhouses, fun _ he => (nomatch he), ?_,
            fun _ he => (nomatch he)⟩
          · rw [List.append_nil]
            exact hall.reply
          · rintro _ _ ⟨⟩
            exact hcreates.found row hr'
        · exact ⟨a?, r?, hall.reply, fun _ => hunknown, hhouses, fun _ he => (nomatch he),
            fun _ _ he => (nomatch he), fun _ _ => hcreates.failed e hr'⟩
      · exact ⟨a?, none, hadds.reply, fun h => (nomatch h), fun _ h => (nomatch h),
          fun _ he => (nomatch he), fun _ _ he => (nomatch he), fun _ _ => rfl⟩

/-- **Resolving adds consistent rows, if any.** In a store that obeys its uniqueness rules,
whichever calls fail, a vApp at most and a row at most are added behind those that are there, and
nothing else changes. A row is added only where neither the label nor the namespace leads to one. It
has the namespace and the name of the machine, and lies in the vApp named on the label, in the
virtual datacenter of the namespace. Nothing is added for a machine that is not managed, and no row
where resolving fails; the row that a machine resolves to is there. Each vApp and each row that is
added is counted and announced once. -/
theorem resolve_adds_consistent_rows (hh : h.IsPlain) (hs : w.store.Unique) (hvapps : w.DrawsNew)
    (hvms : w.DrawsNewVm) (vm : VirtualMachine) :
    let ran := (resolve vm).run.run h w
    ∃ (a? : Option VApp) (r? : Option Vm),
      w.store.Enters vm a? r? ((resolve vm).run.log h w) ran.value ran.state.store := by
  have hresolve : (resolve vm).Yields h (fun l r w' => ∃ a? r?,
      w.store.Enters vm a? r? l r w'.store) w := by
    refine .bind ((findVm_yields hh vm).mono ?_)
    rintro l r _ ⟨⟨now, rfl⟩, hl, hvalue⟩
    refine ⟨fun row? hr => ?_, fun e _ => ⟨none, none, .unchanged hl fun _ _ he => (nomatch he)⟩⟩
    have hrow := hvalue row? hr
    cases row? with
    | some row =>
      refine .pure ⟨none, none, .unchanged (by simpa using hl) ?_⟩
      rintro _ _ ⟨⟩
      rcases Option.or_eq_some_iff.1 hrow.symm with hlabel | ⟨-, hat⟩
      · exact (Store.labelledRow?_eq_some hlabel).1
      · exact (Store.vmAt?_eq_some hat).1
    | none =>
      refine (discover_yields (w := { w with now }) hh hs hvapps hvms hrow.symm).mono ?_
      rintro l' r' w' ⟨a?, r?, henters⟩
      exact ⟨a?, r?, { henters with adds := henters.adds.after hl }⟩
  exact hresolve

/-- A machine that is new gets a vApp and a row. Where the row cannot be made, the vApp stays. -/
theorem undiscovered_adds_consistent_rows :
    let vm := labelled .running
    let w := undiscovered
    let down := Error.unreachable "down"
    let refused := refusing (.store (.createVm (vm.newVm (.ofNat 10)))) down
    let ran (h : Handler World) := (resolve vm).run.run h w
    let log (h : Handler World) := (resolve vm).run.log h w
    steady.IsPlain ∧ refused.IsPlain ∧ w.store.Unique ∧ w.DrawsNew ∧ w.DrawsNewVm ∧
    (∃ a row, w.store.Enters vm (some a) (some row) (log steady) (ran steady).value
      (ran steady).state.store) ∧
    (ran refused).value = .error down ∧
    ∃ a, w.store.Enters vm (some a) none (log refused) (ran refused).value
      (ran refused).state.store := by
  intro vm w down refused ran log
  have hunique : w.store.Unique := by decide
  have hvapps : w.DrawsNew := by decide
  have hvms : w.DrawsNewVm := by decide
  have hrefused : refused.IsPlain := isPlain_refusing _ _
  obtain ⟨a?, r?, hmade⟩ := resolve_adds_consistent_rows isPlain_steady hunique hvapps hvms vm
  obtain ⟨b?, q?, hkept⟩ := resolve_adds_consistent_rows hrefused hunique hvapps hvms vm
  refine ⟨isPlain_steady, hrefused, hunique, hvapps, hvms, ?_, by decide, ?_⟩
  · have hsizes : (ran steady).state.store.vapps.length = 1 ∧
        (ran steady).state.store.vms.length = 1 := by decide
    rw [hmade.adds.store] at hsizes
    cases a? with
    | none => cases hsizes.1
    | some a =>
      cases r? with
      | none => cases hsizes.2
      | some row => exact ⟨a, row, hmade⟩
  · have hsize : (ran refused).state.store.vapps.length = 1 := by decide
    obtain rfl : q? = none := hkept.failed down (by decide)
    rw [hkept.adds.store] at hsize
    cases b? with
    | none => cases hsize
    | some b => exact ⟨b, hkept⟩

end Reconcile

end TenantCloud
