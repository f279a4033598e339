import TenantCloud.Proofs.Reconcile.Retrying

/-!
# Passes and sweeps

A sweep leaves a row as it is where the row is marked as deleted or the cluster shows a machine at
its place, and marks every other (`Reconcile.sweep_tries`). A pass writes the status of its machine
to the row that it is resolved to, which may have another place than the machine: then the sweep
undoes what the pass did unless some machine is at that place too (`World.sweep_agrees_iff`), and
the two can go on like that for ever (`World.sweep_undoes_pass`).
-/

set_option autoImplicit false

namespace TenantCloud

/-! ## Rows that are swept -/

namespace Vm

variable {c : Cluster} {y : Vm}

/-- A sweep has nothing to mark: the row is marked, or the cluster shows a machine at its place. -/
def IsKept (y : Vm) (c : Cluster) : Prop :=
  y.status = VmStatus.deleted.word ∨ (c.vms.get? ⟨y.ns, y.vmName⟩).isSome = true

instance : Decidable (y.IsKept c) := inferInstanceAs (Decidable (_ ∨ _))

/-- The row, marked as deleted. -/
def marked (y : Vm) (t : Timestamp) : Vm :=
  { y with status := VmStatus.deleted.word, updatedAt := t }

/-- The row as a sweep leaves it. -/
def swept (y : Vm) (c : Cluster) (t : Timestamp) : Vm := if y.IsKept c then y else y.marked t

@[simp] theorem swept_id (y : Vm) (c : Cluster) (t : Timestamp) : (y.swept c t).id = y.id := by
  unfold swept
  split <;> rfl

end Vm

/-- What is so of a row while a sweep has some rows to look at. -/
structure Sweeping (c : Cluster) (y : Vm) (rows : List Vm) (w : World) : Prop where
  cluster : w.cluster = c
  unique : w.store.Unique
  row : y ∈ w.store.vms ∧ (y.IsKept c ∨ y ∈ rows) ∨ ¬ y.IsKept c ∧ ∃ t, y.marked t ∈ w.store.vms

namespace Sweeping

open Attempt Reconcile

variable {flaky : Prop} {c : Cluster} {y row : Vm} {rows : List Vm} {w : World}

theorem at_now (h : Sweeping c y rows w) (now : Timestamp) : Sweeping c y rows { w with now } :=
  ⟨h.cluster, h.unique, h.row⟩

/-- A row that was looked at and needs no mark is passed over. -/
theorem skip (h : Sweeping c y (row :: rows) w) (hrow : y = row → y ∈ w.store.vms → y.IsKept c) :
    Sweeping c y rows w := by
  refine ⟨h.cluster, h.unique, h.row.imp_left fun ⟨hmem, hkept⟩ => ⟨hmem, ?_⟩⟩
  rcases hkept with hkept | hin
  · exact .inl hkept
  · rcases List.mem_cons.1 hin with heq | hin
    · exact .inl (hrow heq hmem)
    · exact .inr hin

/-- The row that is found at a place without a machine is marked. -/
theorem mark (h : Sweeping c y (row :: rows) w) {r : Vm}
    (hfound : w.store.vmAt? row.ns row.vmName = some r)
    (hmissing : c.vms.get? ⟨row.ns, row.vmName⟩ = none)
    (hr : r.status ≠ VmStatus.deleted.word) (now : Timestamp) :
    Sweeping c y rows { w with
      now
      store := (w.store.updateVmStatus now r.id VmStatus.deleted.word).2 } := by
  obtain ⟨hrmem, hrns, hrname⟩ := Store.vmAt?_eq_some hfound
  have htouch : Vm.Touch r.id fun x : Vm => if Row.rowId x == r.id then x.marked now else x :=
    .amend r.id (fun _ => rfl) (fun _ => rfl) (fun _ => rfl) fun _ => rfl
  have hstore : (w.store.updateVmStatus now r.id VmStatus.deleted.word).2 =
      w.store.mapVms fun x => if Row.rowId x == r.id then x.marked now else x := rfl
  have hmarked : ∀ x ∈ w.store.vms, x.id = r.id →
      x.marked now ∈ (w.store.updateVmStatus now r.id VmStatus.deleted.word).2.vms := by
    intro x hx hid
    exact List.mem_map.2 ⟨x, hx, if_pos (beq_iff_eq.2 hid)⟩
  have hother : ∀ x ∈ w.store.vms, x.id ≠ r.id →
      x ∈ (w.store.updateVmStatus now r.id VmStatus.deleted.word).2.vms := by
    intro x hx hid
    exact List.mem_map.2 ⟨x, hx, if_neg fun he => hid (beq_iff_eq.1 he)⟩
  refine ⟨h.cluster, hstore ▸ h.unique.mapVms htouch, ?_⟩
  rcases h.row with ⟨hmem, hkept⟩ | ⟨hkept, t, hmem⟩
  · by_cases hid : y.id = r.id
    · obtain rfl := h.unique.vmId y hmem r hrmem hid
      refine .inr ⟨?_, now, hmarked y hmem rfl⟩
      rintro (hdel | hthere)
      · exact hr hdel
      · rw [hrns, hrname, hmissing] at hthere
        cases hthere
    · refine .inl ⟨hother y hmem hid, hkept.imp_right fun hin => ?_⟩
      -- No two rows have one place, so that this one is not the one at the place.
      refine (List.mem_cons.1 hin).resolve_left fun heq => hid ?_
      have hplace : (y.ns, y.vmName) = (r.ns, r.vmName) := by rw [heq, hrns, hrname]
      rw [h.unique.vmAt y hmem r hrmem hplace]
  · refine .inr ⟨hkept, ?_⟩
    by_cases hid : (y.marked t).id = r.id
    · exact ⟨now, hmarked (y.marked t) hmem hid⟩
    · exact ⟨t, hother (y.marked t) hmem hid⟩

theorem vmDeleted_tries (h : Sweeping c y (row :: rows) w)
    (hmissing : c.vms.get? ⟨row.ns, row.vmName⟩ = none) :
    (vmDeleted row.ns row.vmName).Tries flaky (fun _ => Sweeping c y rows) (fun _ => True) w := by
  refine .bind (.look (f := fun w => w.store.vmAt? row.ns row.vmName) (fun _ => rfl)
    (fun now => ?_) fun _ => trivial)
  have hnow := h.at_now now
  have hsame : ∀ {x : Vm}, x = row → x ∈ w.store.vms →
      w.store.vmAt? row.ns row.vmName = some x := by
    rintro x rfl hx
    exact h.unique.vmAt.find? hx fun a => by simp [Vm.isAt]
  dsimp only
  cases hfound : w.store.vmAt? row.ns row.vmName with
  | none =>
    refine .measure _ (hnow.skip fun heq hmem => ?_)
    cases hfound.symm.trans (hsame heq hmem)
  | some r =>
    dsimp only
    split
    · rename_i hdel
      refine .measure _ (hnow.skip fun heq hmem => ?_)
      cases hfound.symm.trans (hsame heq hmem)
      exact .inl hdel
    · rename_i hlive
      refine .bind (Origin.timed_tries (.outcome (F := fun _ => True)
        (.call (fun now' => ⟨_, _, rfl, fun elapsed => ?_⟩) fun _ => trivial)
        fun hf e w' _ elapsed => .bind (.measure _ (.throw hf trivial))))
      exact .measure _ (hnow.mark hfound hmissing hlive now')

theorem sweepEach_tries (h : Sweeping c y rows w) :
    (sweepEach rows).Tries flaky (fun _ => Sweeping c y []) (fun _ => True) w := by
  induction rows generalizing w with
  | nil => exact .pure h
  | cons row rows ih =>
    unfold sweepEach
    split
    · rename_i hdel
      exact ih (h.skip fun heq _ => .inl (heq ▸ hdel))
    · refine .bind (.look (f := fun w => w.cluster.vms.get? ⟨row.ns, row.vmName⟩) (fun _ => rfl)
        (fun now => ?_) fun _ => trivial)
      have hnow := h.at_now now
      dsimp only
      cases hthere : w.cluster.vms.get? ⟨row.ns, row.vmName⟩ with
      | some vm =>
        rw [h.cluster] at hthere
        exact ih (hnow.skip fun heq _ => .inr (by rw [heq, hthere]; rfl))
      | none =>
        rw [h.cluster] at hthere
        refine .bind ((hnow.vmDeleted_tries hthere).mono (fun _ w' h' => ?_) fun _ => id)
        exact .bind ((ih h').mono (fun _ _ h'' => .pure h'') fun _ => id)

end Sweeping

/-- **A sweep marks the rows whose machine is missing, and no other.** -/
theorem Reconcile.sweep_tries {flaky : Prop} {w : World} {y : Vm} (hs : w.store.Unique)
    (hy : y ∈ w.store.vms) :
    Reconcile.sweep.Tries flaky
      (fun _ w' => w'.store.Unique ∧ ∃ t, y.swept w.cluster t ∈ w'.store.vms)
      (fun _ => True) w := by
  refine .bind (.look (f := fun w => w.store.vms) (fun _ => rfl) (fun now => ?_) fun _ => trivial)
  have hstart : Sweeping w.cluster y w.store.vms { w with now } := ⟨rfl, hs, .inl ⟨hy, .inr hy⟩⟩
  refine hstart.sweepEach_tries.mono (fun _ w' h => ⟨h.unique, ?_⟩) fun _ => id
  rcases h.row with ⟨hmem, hkept | hin⟩ | ⟨hkept, t, hmarked⟩
  · refine ⟨now, ?_⟩
    rw [Vm.swept, if_pos hkept]
    exact hmem
  · cases hin
  · refine ⟨t, ?_⟩
    rw [Vm.swept, if_neg hkept]
    exact hmarked

/-! ## A pass, and then a sweep -/

/-- The status of a machine that the cluster shows is never the one of a row whose machine is
gone. -/
theorem VirtualMachine.desiredStatus_ne_deleted (vm : VirtualMachine) :
    vm.desiredStatus ≠ .deleted := by
  unfold desiredStatus LifecycleSignal.status
  split
  · decide
  · split
    · rename_i p _
      cases p <;> decide
    · split <;> decide

namespace Origin

open Attempt Reconcile

variable {flaky : Prop} {o : Origin} {x y : Vm} {vm : VirtualMachine} {w : World}

/-- A pass resolves its machine, as it sees it, to a row that the machine is bound to. -/
theorem found_tries (hw : o.world.Orderly 1 1)
    (hvm : o.world.cluster.vms.get? o.key = some o.machine) (settings : Settings) :
    ((Visit.pass settings).found o.machine).Tries flaky
      (fun seen w' => seen.1 = o.named ∧
        ∀ r created, seen.2 = .resolved r created → o.Bound r o.named r w')
      (fun _ => True) o.world := by
  have hnamed : o.world.cluster.named o.named = o.named := o.world.cluster.named_named o.machine
  rcases start_cases hw hvm with h | ⟨x, h⟩
  · refine .bind (.bind (h.shown.deriveVAppName_tries (fun now => .pure ?_) fun _ _ => trivial))
    have h₁ : o.Unbound o.named { o.world with
        cluster := o.world.cluster.showing o.key o.named, now } :=
      h.reshown rfl rfl (h.shown.named now)
    refine .bind ((h₁.resolve_tries hnamed).mono (fun res w' hres => .pure ⟨rfl, ?_⟩)
      fun _ _ => trivial)
    intro r created hr
    rcases hres with ⟨r', created', rfl, hbound⟩ | ⟨reason, rfl, -⟩
    · cases hr
      exact hbound
    · cases hr
  · refine .bind (.bind (h.shown.deriveVAppName_tries (fun now => .pure ?_) fun _ _ => trivial))
    have h₁ : o.Bound x o.named x { o.world with
        cluster := o.world.cluster.showing o.key o.named, now } :=
      h.reshown rfl (h.shown.named now)
    refine .bind ((h₁.resolve_tries hnamed).mono (fun res w' hres => .pure ⟨rfl, ?_⟩)
      fun _ _ => trivial)
    intro r created hr
    obtain ⟨⟨created', rfl⟩, hbound⟩ := hres
    cases hr
    exact hbound

theorem Bound.vmName_machine (h : o.Bound x vm y w) : x.vmName = o.machine.name := by
  obtain ⟨g, a?, r?, f, -, hx, -⟩ := h.rows
  obtain ⟨-, hname, -⟩ := Store.rowOf?_cases hx
  obtain ⟨labels, hlabels⟩ := o.world.cluster.exists_withLabels o.machine
  rw [hname, named, hlabels]
  rfl

/-- Passes change no machine but their own, and keep that one. -/
theorem Shown.isSome_get? {id? : Option Uuid} (h : o.Shown id? vm w)
    (hvm : o.world.cluster.vms.get? o.key = some o.machine) (k : ObjectKey) :
    (w.cluster.vms.get? k).isSome = (o.world.cluster.vms.get? k).isSome := by
  rw [h.cluster]
  show ((o.world.cluster.vms.insert o.key vm).get? k).isSome = _
  rw [Dict.get?_insert]
  split
  · rename_i hk
    rw [hk, hvm]
    rfl
  · rfl

end Origin

namespace World

/-- An attempt is carried out from its start to its end, no call fails, and time passes as it
may. -/
def Carries {α : Type} (w : World) (a : Attempt α) (r : Result α) (w' : World) : Prop :=
  Relation.ReflTransGen (Pass.Step (Responds False)) (a.run, w) (.done r, w')

theorem carries_run {α : Type} (w : World) (a : Attempt α) :
    let ran := a.run.run (failing []) w
    w.Carries a ran.value ran.state :=
  Pass.steps_run (responds_failing False (.inl rfl)) _ w

/-- In a world without faults no call fails. -/
theorem carries_of_calm {α : Type} {w : World} (hw : w.faults = []) (a : Attempt α) :
    w.Carries a (w.run a).value (w.run a).state := by
  have hsteps : ∀ (p : Pass (Result α)) (w : World), w.faults = [] →
      Relation.ReflTransGen (Pass.Step (Responds False)) (p, w)
        (.done (p.run handler w).value, (p.run handler w).state) := by
    intro p
    induction p with
    | done r => exact fun w _ => .refl
    | ask c next ih =>
      intro w hw
      have hanswer : answer c w = perform c w := answer_of_calm hw c
      have hcalm : (answer c w).2.faults = [] := by rw [hanswer, faults_perform, hw]
      refine .head (.answer ?_) (ih (answer c w).1 (answer c w).2 hcalm)
      rw [hanswer]
      exact .carried c w w.now
    | tell signal next ih => exact fun w hw => .head .tell (ih w hw)
    | clock next ih => exact fun w hw => .head (.clock _) (ih _ w hw)
  exact hsteps a.run w hw

theorem Carries.of_tries {α : Type} {a : Attempt α} {r : Result α} {Q : α → World → Prop}
    {E : World → Prop} {w w' : World} (h : w.Carries a r w') (ha : a.Tries False Q E w) :
    ∃ v, r = .ok v ∧ Q v w' := by
  have hend := Pass.Always.walk ha h
  cases r with
  | ok v => exact ⟨v, rfl, hend⟩
  | error e => exact hend.1.elim

variable {w w' w₁ w₂ : World} {settings : Settings} {vm seen : VirtualMachine} {r : Vm}
  {created : Bool} {pass : Result Unit} {sweep : Result Nat}

/-- **A sweep leaves what a pass wrote exactly where the cluster shows a machine at the place of the
row.** A pass without failures resolves a machine of the cluster to a row, and goes on to its end;
then a sweep is made without failures. Both succeed. The pass wrote the status of the machine to the
row. After the sweep it is still there exactly if some machine is at the place that the row has, and
the row is marked as deleted otherwise; if the row has the namespace of its machine, the sweep
changes nothing about it. -/
theorem sweep_agrees_iff (hw : w.Orderly 1 1) (hvm : w.cluster.vms.get? vm.key = some vm)
    (hfound : w.Carries ((Visit.pass settings).found vm) (.ok (seen, .resolved r created)) w')
    (hpass : w'.Carries ((Visit.pass settings).finish (seen, .resolved r created)) pass w₁)
    (hsweep : w₁.Carries Reconcile.sweep sweep w₂) :
    pass = .ok () ∧ (∃ n, sweep = .ok n) ∧
    ∃ r₁ r₂, Table.get? w₁.store.vms r.id = some r₁ ∧ Table.get? w₂.store.vms r.id = some r₂ ∧
      r₁.status = vm.desiredStatus.word ∧
      (r₂.status = vm.desiredStatus.word ↔
        ∃ other, w.cluster.vms.get? ⟨r.ns, r.vmName⟩ = some other) ∧
      (r₂.status ≠ vm.desiredStatus.word → r₂.status = VmStatus.deleted.word) ∧
      (r.ns = vm.ns → r₂ = r₁) := by
  let o : Origin := ⟨w, vm⟩
  obtain ⟨_, heq, hseen, hbound⟩ := hfound.of_tries (Origin.found_tries (o := o) hw hvm settings)
  cases heq
  obtain rfl : seen = o.named := hseen
  have hnamed : w.cluster.named o.named = o.named := w.cluster.named_named vm
  have h₀ : o.Bound r o.named r w' := hbound r created rfl
  obtain ⟨_, rfl, vm', y, h₁, hf | ⟨-, t, hy⟩⟩ :=
    hpass.of_tries (h₀.vmRow_tries settings hnamed)
  · exact hf.elim
  obtain ⟨n, rfl, hunique, t', hswept⟩ := hsweep.of_tries (Reconcile.sweep_tries h₁.unique h₁.mem)
  have hstatus : y.status = vm.desiredStatus.word := by
    rw [hy]
    rfl
  have hget : ∀ {s : Store} {z : Vm}, s.Unique → z ∈ s.vms → z.id = r.id →
      Table.get? s.vms r.id = some z := by
    rintro s z hs hz hid
    exact hs.vmId.find? hz fun a => by rw [← hid]; exact beq_iff_eq
  have hne : vm.desiredStatus.word ≠ VmStatus.deleted.word := fun he =>
    vm.desiredStatus_ne_deleted (VmStatus.word_injective he)
  -- The status is that of a machine, so that only a machine at the place keeps the row.
  have hkept : y.IsKept w₁.cluster ↔ ∃ other, w.cluster.vms.get? ⟨r.ns, r.vmName⟩ = some other := by
    rw [← Option.isSome_iff_exists, Vm.IsKept, hstatus, h₁.ns_eq, h₁.vmName_eq,
      h₁.shown.isSome_get? hvm]
    exact or_iff_right hne
  refine ⟨rfl, ⟨n, rfl⟩, y, y.swept w₁.cluster t', hget h₁.unique h₁.mem h₁.id_eq,
    hget hunique hswept ((y.swept_id _ _).trans h₁.id_eq), hstatus, ?_, ?_, fun hns => ?_⟩
  · rw [← hkept, Vm.swept]
    split
    · rename_i h
      exact iff_of_true hstatus h
    · rename_i h
      exact iff_of_false (fun he => hne he.symm) h
  · rw [Vm.swept]
    split
    · exact fun he => absurd hstatus he
    · exact fun _ => rfl
  · refine if_pos (hkept.2 ⟨vm, ?_⟩)
    rw [hns, h₁.vmName_machine]
    exact hvm

/-- The world after an attempt without failures. -/
def afterCalm {α : Type} (w : World) (a : Attempt α) : World := (a.run.run (failing []) w).state

/-- A machine whose label leads to a row of another namespace. -/
def displaced : World where
  store := {
    vdcs := [boundVdc 1 "gold" "tenant-a" none]
    vapps := [⟨.ofNat 2, "web", .ofNat 1, .deployed, "", ⟨0, 0⟩, ⟨0, 0⟩⟩]
    vms := [machineRow 3 2 "tenant-a" .poweredOff] }
  cluster := { vms := .single ⟨"tenant-b", "web-0"⟩ (stamped "tenant-b" .running) }
  ids := ⟨fun n => .ofNat (10 + n), fun n => .ofNat (20 + n), 0, 0⟩
  now := ⟨0, 0⟩

theorem displaced_orderly : displaced.Orderly 1 1 where
  unique := by decide
  vapps := ⟨by decide, by decide, by decide⟩
  vms := ⟨by decide, by decide⟩

/-- The world in which its row was looked up, and what is to be done with that row. -/
def displacedFound : World :=
  displaced.afterCalm ((Visit.pass {}).found (stamped "tenant-b" .running))

def displacedFinish : Attempt Unit :=
  (Visit.pass {}).finish
    (stamped "tenant-b" .running, .resolved (machineRow 3 2 "tenant-a" .poweredOff) false)

theorem displaced_sweep_agrees_iff : ∃ w₁ w₂ r₁ r₂,
    displaced.Carries ((Visit.pass {}).found (stamped "tenant-b" .running))
      (.ok (stamped "tenant-b" .running,
        .resolved (machineRow 3 2 "tenant-a" .poweredOff) false)) displacedFound ∧
    displacedFound.Carries displacedFinish (.ok ()) w₁ ∧ w₁.Carries Reconcile.sweep (.ok 1) w₂ ∧
    Table.get? w₁.store.vms (.ofNat 3) = some r₁ ∧ r₁.status = VmStatus.poweredOn.word ∧
    Table.get? w₂.store.vms (.ofNat 3) = some r₂ ∧ r₂.status = VmStatus.deleted.word := by
  have hfound := displaced.carries_run ((Visit.pass {}).found (stamped "tenant-b" .running))
  have hpass := displacedFound.carries_run displacedFinish
  have hsweep := (displacedFound.afterCalm displacedFinish).carries_run Reconcile.sweep
  obtain ⟨-, -, r₁, r₂, h₁, h₂, hstatus, hiff, hdel, -⟩ :=
    sweep_agrees_iff displaced_orderly (by decide) hfound hpass hsweep
  refine ⟨_, _, r₁, r₂, hfound, hpass, hsweep, h₁, hstatus, h₂, hdel fun he => ?_⟩
  -- No machine is at the place of the row.
  obtain ⟨other, hother⟩ := hiff.1 he
  cases hother

/-- Where a pass writes that the machine is on, the sweep after it writes that it is gone, and so
on. -/
theorem sweep_undoes_pass : displaced.Orderly 1 1 ∧
    displaced.cluster.vms.get? ⟨"tenant-b", "web-0"⟩ = some (stamped "tenant-b" .running) ∧
    (stamped "tenant-b" .running).desiredStatus = .poweredOn ∧
    let pass := Reconcile.virtualMachine {} (stamped "tenant-b" .running)
    let once := displaced.afterCalm pass
    let swept := once.afterCalm Reconcile.sweep
    let again := swept.afterCalm pass
    [once, swept, again, again.afterCalm Reconcile.sweep].map (·.store.vms.map Vm.status) =
      [["POWERED_ON"], ["DELETED"], ["POWERED_ON"], ["DELETED"]] :=
  ⟨displaced_orderly, by decide, by decide, by decide⟩

end World

end TenantCloud
