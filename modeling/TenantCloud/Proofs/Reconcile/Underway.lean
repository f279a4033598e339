import TenantCloud.Proofs.Effect.Trying
import TenantCloud.Proofs.Reconcile.Discovery
import TenantCloud.Proofs.Reconcile.Injectivity
import TenantCloud.Proofs.Reconcile.Labels
import TenantCloud.Proofs.VirtualMachine.Facts

/-!
# Passes that fail on the way

What a pass for a machine writes stays where a later call fails: the name of the vApp on the label,
a vApp, a row, the identity of the vApp on the label, the status, the facts. `Origin.Unbound` and
`Origin.Bound` say what can be there after any number of passes, before the machine has a row and
after. Each step of a pass keeps that, whatever fails, and where nothing fails the pass finishes
what was left (`Origin.Underway.virtualMachine_tries`).
-/

set_option autoImplicit false

namespace TenantCloud

namespace Store

variable {s : Store} {vm : VirtualMachine} {x : Vm}

/-- The label that a machine gets leads to its row. -/
theorem Unique.rowOf?_stamped (hs : s.Unique) (h : s.rowOf? vm = some x) :
    s.rowOf? (vm.stamped x.vappId) = some x := by
  obtain ⟨hmem, hname, -⟩ := rowOf?_cases h
  have hin : s.vmIn? x.vappId vm.name = some x :=
    hs.vmIn.find? hmem fun r => by simp [Vm.isIn, hname]
  have hlabel : s.labelledRow? (vm.stamped x.vappId) = some x := by
    rw [labelledRow?, vm.labelledVAppId?_stamped, Option.bind_some]
    exact hin
  rw [rowOf?, knownRow?, hlabel, Option.some_or, Option.some_or]

end Store

/-! ## How far passes have come -/

/-- Where passes for a machine start: a world, and the machine as the cluster shows it there. -/
structure Origin where
  world : World
  machine : VirtualMachine

namespace Origin

section

variable (o : Origin)

def key : ObjectKey := o.machine.key

/-- The machine with the name of its vApp. -/
def named : VirtualMachine := o.world.cluster.named o.machine

/-- The status that the row is to have. -/
def status : String := o.machine.desiredStatus.word

/-- What there is to be seen of the machine. -/
def facts : VmFacts := .observed o.machine (o.world.cluster.instances.get? o.key)

/-- The cluster shows the machine, with such labels as passes put on it while its row, if any, lies
in the vApp `id?`. Nothing else of the cluster is other than before. -/
structure Shown (id? : Option Uuid) (vm : VirtualMachine) (w : World) : Prop where
  cluster : w.cluster = o.world.cluster.showing o.key vm
  face : vm = o.machine ∨ vm = o.named ∨ ∃ id, id? = some id ∧ vm = o.named.stamped id

/-- The machine has no row yet; its vApp may have been made. -/
structure Unbound (vm : VirtualMachine) (w : World) : Prop where
  shown : o.Shown none vm w
  free : o.world.store.rowOf? o.named = none
  grown : ∃ a?, World.Grown o.named [o.named] o.world.store a? none w

/-- The row that the machine has, or got, as `x`, is `y` now. -/
structure Bound (x : Vm) (vm : VirtualMachine) (y : Vm) (w : World) : Prop where
  shown : o.Shown (some x.vappId) vm w
  rows : ∃ g a? r? f, World.Grown o.named [o.named] o.world.store a? r? g ∧
    g.store.rowOf? o.named = some x ∧ Vm.Touch x.id f ∧ f x = y ∧ w.store = g.store.mapVms f
  version : x.IsVersion o.status o.facts y

end

variable {o : Origin} {id? : Option Uuid} {x y row : Vm} {vm seen : VirtualMachine} {w w' : World}

namespace Shown

theorem exists_withLabels (h : o.Shown id? vm w) : ∃ labels, vm = o.machine.withLabels labels := by
  obtain ⟨labels, hlabels⟩ := o.world.cluster.exists_withLabels o.machine
  have hnamed : o.named = o.machine.withLabels labels := hlabels
  rcases h.face with rfl | rfl | ⟨id, -, rfl⟩
  · exact ⟨o.machine.metadata.labels, rfl⟩
  · exact ⟨labels, hnamed⟩
  · rw [hnamed]
    exact ⟨_, rfl⟩

theorem get? (h : o.Shown id? vm w) : w.cluster.vms.get? o.key = some vm := by
  rw [h.cluster, Cluster.get?_showing]

theorem key_eq (h : o.Shown id? vm w) : (⟨vm.ns, vm.name⟩ : ObjectKey) = o.key := by
  obtain ⟨labels, rfl⟩ := h.exists_withLabels
  rfl

/-- A machine that is named has the name, and maybe the identity, of its vApp on the label. -/
theorem face_of_named (h : o.Shown id? vm w) (hvm : o.world.cluster.named vm = vm) :
    vm = o.named ∨ ∃ id, id? = some id ∧ vm = o.named.stamped id := by
  rcases h.face with rfl | h
  · exact .inl hvm.symm
  · exact h

/-- The machine is named. -/
theorem named (h : o.Shown id? vm w) (now : Timestamp) :
    o.Shown id? (o.world.cluster.named vm)
      { w with cluster := o.world.cluster.showing o.key (o.world.cluster.named vm), now } := by
  refine ⟨rfl, ?_⟩
  have hnamed : o.world.cluster.named o.named = o.named := o.world.cluster.named_named o.machine
  rcases h.face with rfl | rfl | ⟨id, hid, rfl⟩
  · exact .inr (.inl rfl)
  · exact .inr (.inl hnamed)
  · exact .inr (.inr ⟨id, hid, Cluster.named_stamped hnamed id⟩)

theorem congr (h : o.Shown id? vm w) (hc : w'.cluster = w.cluster) : o.Shown id? vm w' :=
  ⟨hc.trans h.cluster, h.face⟩

end Shown

/-- The cluster shows the machine with other labels. -/
theorem Unbound.reshown (h : o.Unbound vm w) (hs : w'.store = w.store) (hids : w'.ids = w.ids)
    (hvm : o.Shown none seen w') : o.Unbound seen w' := by
  obtain ⟨a?, hg⟩ := h.grown
  exact ⟨hvm, h.free, a?, hg.congr hs hids⟩

namespace Bound

theorem congr (h : o.Bound x vm y w) (hs : w'.store = w.store) (hc : w'.cluster = w.cluster) :
    o.Bound x vm y w' := by
  obtain ⟨g, a?, r?, f, hg, hx, hf, hy, hstore⟩ := h.rows
  exact ⟨h.shown.congr hc, ⟨g, a?, r?, f, hg, hx, hf, hy, hs.trans hstore⟩, h.version⟩

/-- The cluster shows the machine with other labels. -/
theorem reshown (h : o.Bound x vm y w) (hs : w'.store = w.store)
    (hvm : o.Shown (some x.vappId) seen w') : o.Bound x seen y w' := by
  obtain ⟨g, a?, r?, f, hg, hx, hf, hy, hstore⟩ := h.rows
  exact ⟨hvm, ⟨g, a?, r?, f, hg, hx, hf, hy, hs.trans hstore⟩, h.version⟩

theorem unique (h : o.Bound x vm y w) : w.store.Unique := by
  obtain ⟨g, a?, r?, f, hg, -, hf, -, hstore⟩ := h.rows
  rw [hstore]
  exact hg.unique.mapVms hf

theorem id_eq (h : o.Bound x vm y w) : y.id = x.id := by
  obtain ⟨g, a?, r?, f, -, -, hf, rfl, -⟩ := h.rows
  exact hf.id x

theorem vappId_eq (h : o.Bound x vm y w) : y.vappId = x.vappId := by
  obtain ⟨g, a?, r?, f, -, -, hf, rfl, -⟩ := h.rows
  exact hf.vappId x

theorem ns_eq (h : o.Bound x vm y w) : y.ns = x.ns := by
  obtain ⟨g, a?, r?, f, -, -, hf, rfl, -⟩ := h.rows
  exact hf.ns x

theorem vmName_eq (h : o.Bound x vm y w) : y.vmName = x.vmName := by
  obtain ⟨g, a?, r?, f, -, -, hf, rfl, -⟩ := h.rows
  exact hf.vmName x

theorem mem (h : o.Bound x vm y w) : y ∈ w.store.vms := by
  obtain ⟨g, a?, r?, f, -, hx, -, rfl, hstore⟩ := h.rows
  rw [hstore]
  exact List.mem_map_of_mem (Store.rowOf?_cases hx).1

/-- The machine is looked up as its row, whether the label has the identity of the vApp or not. -/
theorem rowOf? (h : o.Bound x vm y w) (hvm : o.world.cluster.named vm = vm) :
    w.store.rowOf? vm = some y := by
  obtain ⟨g, a?, r?, f, hg, hx, hf, rfl, hstore⟩ := h.rows
  have hrow : g.store.rowOf? vm = some x := by
    rcases h.shown.face_of_named hvm with rfl | ⟨id, hid, rfl⟩
    · exact hx
    · cases hid
      exact hg.unique.rowOf?_stamped hx
  rw [hstore, Store.rowOf?_mapVms hf, hrow]
  rfl

/-- The row is changed in what it is not looked up by. -/
theorem amend (h : o.Bound x vm y w) {f : Vm → Vm} (hid : ∀ r, (f r).id = r.id)
    (hns : ∀ r, (f r).ns = r.ns) (hname : ∀ r, (f r).vmName = r.vmName)
    (hvapp : ∀ r, (f r).vappId = r.vappId) (hversion : x.IsVersion o.status o.facts (f y))
    {v : World} (hs : v.store = w.store.mapVms fun r => if Row.rowId r == x.id then f r else r)
    (hc : v.cluster = w.cluster) : o.Bound x vm (f y) v := by
  obtain ⟨g, a?, r?, f', hg, hx, hf', hy, hstore⟩ := h.rows
  refine ⟨h.shown.congr hc, ⟨g, a?, r?, _, hg, hx,
    hf'.comp (Vm.Touch.amend x.id hid hns hname hvapp), ?_, ?_⟩, hversion⟩
  · show (if Row.rowId (f' x) == x.id then f (f' x) else f' x) = f y
    rw [hy]
    exact if_pos (beq_iff_eq.2 h.id_eq)
  · rw [hs, hstore, Store.mapVms_mapVms]

end Bound

/-- Some passes were made. -/
def Underway (o : Origin) (w : World) : Prop :=
  (∃ vm, o.Unbound vm w) ∨ ∃ x vm y, o.Bound x vm y w

/-- Nothing is left to do: the row and the label tell all, or the machine is not managed. -/
def Finished (o : Origin) (w : World) : Prop :=
  (∃ x t, o.Bound x (o.named.stamped x.vappId) (x.settled o.status o.facts t) w) ∨
    o.Unbound o.named w ∧ ∃ reason, o.world.store.unmanaged? o.named = some reason

/-! ## Each step of a pass -/

section

open Attempt Reconcile World

variable {flaky : Prop} {E : World → Prop}

theorem Shown.perform_setLabel (h : o.Shown id? vm w) (now : Timestamp) (label value : String) :
    perform (.cluster (.setVirtualMachineLabel vm.ns vm.name label value)) { w with now } =
      (.ok (), { w with
        cluster := o.world.cluster.showing o.key
          { vm with metadata := vm.metadata.setLabel label value }
        now }) := by
  have hset : w.cluster.setVmLabel vm.ns vm.name label value = .ok
      (o.world.cluster.showing o.key
        { vm with metadata := vm.metadata.setLabel label value }) := by
    rw [h.cluster, ← h.key_eq, Cluster.setVmLabel_showing]
  show changeCluster { w with now } (w.cluster.setVmLabel vm.ns vm.name label value) = _
  rw [hset]
  rfl

/-- The name is derived and written, or nothing is. -/
theorem Shown.deriveVAppName_tries {Q : Option String → World → Prop} (h : o.Shown id? vm w)
    (hok : ∀ now, Q (o.world.cluster.derivedName? vm) { w with
      cluster := o.world.cluster.showing o.key (o.world.cluster.named vm), now })
    (hfail : flaky → ∀ now, E { w with now }) : (deriveVAppName vm).Tries flaky Q E w := by
  have hkept : ∀ now, o.world.cluster.derivedName? vm = none → Q none { w with now } := by
    intro now hnone
    have hq := hok now
    rw [Cluster.named, hnone, withVAppName, ← h.cluster] at hq
    exact hq
  unfold deriveVAppName
  split
  · rename_i owner hname howner
    have hderived : o.world.cluster.derivedName? vm =
        (w.cluster.templateInstanceWithUid? owner).map (·.name) := by
      rw [Cluster.derivedName?, if_pos hname, howner, h.cluster]
      rfl
    refine .bind (.look (fun _ => rfl) (fun now => ?_) fun hf => hfail hf w.now)
    dsimp only
    cases hti : w.cluster.templateInstanceWithUid? owner with
    | none =>
      rw [hti] at hderived
      exact .pure (hkept now hderived)
    | some ti =>
      rw [hti, Option.map_some] at hderived
      refine .bind (.call (fun now' => ⟨(), _, h.perform_setLabel now' _ _, ?_⟩)
        fun hf => hfail hf now)
      refine .bind (.publish _ _ (.pure ?_))
      have hq := hok now'
      rw [Cluster.named, hderived] at hq
      exact hq
  · rename_i hother
    refine .pure (hkept w.now ?_)
    unfold Cluster.derivedName?
    split
    · rename_i hname
      cases howner : vm.metadata.filledLabel? Vocabulary.templateInstanceOwnerLabel with
      | none => rfl
      | some owner => exact (hother owner hname howner).elim
    · rfl

/-- The row of a machine is found, and nothing is written. -/
theorem Bound.resolve_tries (h : o.Bound x vm y w) (hvm : o.world.cluster.named vm = vm) :
    (resolve vm).Tries flaky
      (fun res w' => (∃ created, res = .resolved y created) ∧ o.Bound x vm y w')
      (o.Bound x vm y) w := by
  have hrow := h.rowOf? hvm
  have hviews : ∀ seen ∈ [vm], seen.Resembles vm := fun _ => .of_mem_singleton
  have hstart : (discovery vm [vm] w).holds w := by
    refine ⟨rfl, none, none, .refl h.unique fun hnone => ?_⟩
    rw [hrow] at hnone
    cases hnone
  -- The row is there already, so that nothing grows.
  have hkept : ∀ w', (discovery vm [vm] w).holds w' →
      w'.store = w.store ∧ o.Bound x vm y w' := by
    rintro w' ⟨hc, a?, r?, hg⟩
    obtain ⟨-, -, hs⟩ := hg.store_eq hrow
    exact ⟨hs, h.congr hs hc⟩
  refine .mono ((resolve_amid hviews (.head _)).tries hstart) (fun res w' hres => ?_)
    fun w' hw => (hkept w' hw).2
  obtain ⟨hholds, hsettled⟩ := hres
  obtain ⟨hs, hbound⟩ := hkept w' hholds
  cases res with
  | resolved r created =>
    have hr : w'.store.rowOf? vm = some r := hsettled
    rw [hs, hrow] at hr
    cases hr
    exact ⟨⟨created, rfl⟩, hbound⟩
  | notManaged reason =>
    have hwhy : w.store.unmanaged? vm = some reason := hsettled
    obtain ⟨-, a?, r?, hg⟩ := hstart
    rw [hg.managed hviews hrow] at hwhy
    cases hwhy

/-- A machine without a row gets one, or it is not managed. -/
theorem Unbound.resolve_tries (h : o.Unbound vm w) (hvm : o.world.cluster.named vm = vm) :
    (resolve vm).Tries flaky
      (fun res w' => (∃ r created, res = .resolved r created ∧ o.Bound r vm r w') ∨
        ∃ reason, res = .notManaged reason ∧ o.Unbound vm w' ∧
          o.world.store.unmanaged? o.named = some reason)
      o.Underway w := by
  obtain ⟨a?, hg⟩ := h.grown
  obtain rfl : vm = o.named := by
    rcases h.shown.face_of_named hvm with rfl | ⟨id, hid, -⟩
    · rfl
    · cases hid
  -- Rows are counted from the origin, though an earlier pass may have made the vApp.
  let start : World := { o.world with cluster := w.cluster }
  have hviews : ∀ seen ∈ [o.named], seen.Resembles o.named := fun _ => .of_mem_singleton
  have hstart : (discovery o.named [o.named] start).holds w := ⟨rfl, a?, none, hg⟩
  have hbound : ∀ w' r a? r?, w'.cluster = w.cluster →
      Grown o.named [o.named] o.world.store a? r? w' → w'.store.rowOf? o.named = some r →
      o.Bound r o.named r w' := by
    intro w' r a? r? hc hg hr
    have hstore : w'.store = w'.store.mapVms fun r => r := by simp [Store.mapVms]
    exact ⟨⟨hc.trans h.shown.cluster, .inr (.inl rfl)⟩,
      ⟨w', a?, r?, _, hg, hr, .refl r.id, rfl, hstore⟩, .refl r⟩
  have hunbound : ∀ w' a?, w'.cluster = w.cluster →
      Grown o.named [o.named] o.world.store a? none w' → o.Unbound o.named w' := fun w' a? hc hg =>
    ⟨⟨hc.trans h.shown.cluster, .inr (.inl rfl)⟩, h.free, a?, hg⟩
  refine .mono ((resolve_amid hviews (.head _)).tries hstart) (fun res w' hres => ?_)
    fun w' hw => ?_
  · obtain ⟨⟨hc, a?, r?, hg⟩, hsettled⟩ := hres
    cases res with
    | resolved r created => exact .inl ⟨r, created, rfl, hbound w' r a? r? hc hg hsettled⟩
    | notManaged reason =>
      have hwhy : o.world.store.unmanaged? o.named = some reason := hsettled
      have hr : r? = none := by
        cases hr : r? with
        | none => rfl
        | some r =>
          have hrow := hg.rowOf? hviews
          rw [h.free, Option.none_or, hr] at hrow
          rw [hg.managed hviews hrow] at hwhy
          cases hwhy
      rw [hr] at hg
      exact .inr ⟨reason, rfl, hunbound w' a? hc hg, hwhy⟩
  · obtain ⟨hc, a?, r?, hg⟩ := hw
    cases hr : r? with
    | none =>
      rw [hr] at hg
      exact .inl ⟨_, hunbound w' a? hc hg⟩
    | some r =>
      have hrow := hg.rowOf? hviews
      rw [h.free, Option.none_or, hr] at hrow
      exact .inr ⟨r, _, r, hbound w' r a? r? hc hg hrow⟩

/-- The identity of the vApp is on the label then, unless a call failed. -/
theorem Bound.stampVAppId_tries (h : o.Bound x vm y w) (hvm : o.world.cluster.named vm = vm) :
    (stampVAppId vm y).Tries flaky
      (fun _ w' => ∃ vm', o.Bound x vm' y w' ∧ (flaky ∨ vm' = o.named.stamped x.vappId)) E w := by
  unfold stampVAppId
  rw [h.vappId_eq]
  dsimp only
  split
  · rename_i hlabel
    refine .pure ⟨vm, h, .inr ?_⟩
    rcases h.shown.face_of_named hvm with rfl | ⟨id, hid, rfl⟩
    · exact (VirtualMachine.stamped_of_label? hlabel).symm
    · cases hid
      rfl
  · rename_i hlabel
    refine .bind (.outcome (F := o.Bound x vm y) (.call (fun now => ?_) fun _ => h)
      fun hf e w' hw => .measure _ ⟨vm, hw, .inl hf⟩)
    refine ⟨(), _, h.shown.perform_setLabel now _ _, .pure ⟨vm.stamped x.vappId, ?_, .inr ?_⟩⟩
    -- The identity is not on the label, so that no earlier pass wrote it.
    all_goals
      obtain rfl : vm = o.named := by
        rcases h.shown.face_of_named hvm with rfl | ⟨id, hid, rfl⟩
        · rfl
        · cases hid
          refine absurd ?_ hlabel
          rw [VirtualMachine.stamped, Metadata.label?_setLabel, if_pos rfl]
    · exact h.reshown rfl ⟨rfl, .inr (.inr ⟨x.vappId, rfl, rfl⟩)⟩
    · rfl

theorem timed_tries {α : Type} {a : Attempt α} {Q : Result α × Nat → World → Prop}
    (h : (outcome a).Tries flaky (fun r w => ∀ elapsed, Q (r, elapsed) w) E w) :
    (timed a).Tries flaky Q E w :=
  .bind <| .clock fun _ => .bind <| h.mono (fun _ _ hq => .bind <| .clock fun _ => .pure (hq _))
    fun _ => id

/-- The row has its status then. -/
theorem Bound.vmStatus_tries (h : o.Bound x vm y w) (settings : Settings)
    (hseen : seen.desiredStatus.word = o.status) :
    (vmStatus settings seen y).Tries flaky
      (fun _ w' => ∃ y', o.Bound x vm y' w' ∧ y'.facts = y.facts ∧ y'.status = o.status)
      (o.Bound x vm y) w := by
  unfold vmStatus
  rw [hseen]
  refine .bind (.clock fun t => ?_)
  split
  · rename_i hsame
    exact .measure _ ⟨y, h, rfl, hsame.1⟩
  · refine .bind (timed_tries (.outcome (F := o.Bound x vm y) (.call (fun now => ?_) fun _ => h)
      fun hf e w' hw _ => .bind (.measure _ (.bind (.publish _ _ (.throw hf hw))))))
    refine ⟨_, _, rfl, fun elapsed => ?_⟩
    have hwritten := h.amend (f := fun r => { r with status := o.status, updatedAt := now })
      (fun _ => rfl) (fun _ => rfl) (fun _ => rfl) (fun _ => rfl) (h.version.withStatus now)
      (v := { w with
        now
        store := (w.store.updateVmStatus now y.id o.status).2 }) (by rw [h.id_eq]; rfl) rfl
    have hdone : ∃ y', o.Bound x vm y' { w with
          now
          store := (w.store.updateVmStatus now y.id o.status).2 } ∧
        y'.facts = y.facts ∧ y'.status = o.status := ⟨_, hwritten, rfl, rfl⟩
    dsimp only
    split
    · rename_i hr
      refine .bind (.measure _ ?_)
      split
      · exact .publish _ _ hdone
      · exact .pure hdone
    · exact .measure _ hdone
    · rename_i hr
      cases hr

/-- The row has the facts then. -/
theorem Bound.vmFacts_tries (h : o.Bound x vm y w) {labels : Option Labels}
    (hseen : seen = o.machine.withLabels labels) (hid : row.id = x.id)
    (hfacts : row.facts = y.facts) :
    (vmFacts seen row).Tries flaky
      (fun _ w' => ∃ y', o.Bound x vm y' w' ∧ y'.status = y.status ∧
        y'.facts.change? o.facts = none)
      (o.Bound x vm y) w := by
  have hobserved : ∀ now, VmFacts.observed seen
      (({ w with now } : World).cluster.instances.get? ⟨seen.ns, seen.name⟩) = o.facts := by
    intro now
    show VmFacts.observed seen (w.cluster.instances.get? ⟨seen.ns, seen.name⟩) = o.facts
    rw [h.shown.cluster, hseen]
    rfl
  unfold vmFacts
  refine .bind (.look (f := fun w => w.cluster.instances.get? ⟨seen.ns, seen.name⟩)
    (fun _ => rfl) (fun now => ?_) fun _ => h)
  have hnow : o.Bound x vm y { w with now } := h.congr rfl rfl
  rw [hobserved, hfacts]
  cases hchange : y.facts.change? o.facts with
  | none => exact .pure ⟨y, hnow, rfl, hchange⟩
  | some change =>
    refine .bind (.outcome (F := o.Bound x vm y) (.call (fun now' => ?_) fun _ => hnow)
      fun hf e w' hw => .bind (.measure _ (.bind (.publish _ _ (.throw hf hw)))))
    obtain ⟨hversion, hnone⟩ := h.version.withFacts hchange
    have hwritten := h.amend (f := (·.withFacts change))
      (fun _ => rfl) (fun _ => rfl) (fun _ => rfl) (fun _ => rfl) hversion
      (v := { w with now := now', store := (w.store.updateVmData row.id change).2 })
      (by rw [hid]; rfl) rfl
    refine ⟨_, _, rfl, ?_⟩
    dsimp only
    split
    · exact .pure ⟨_, hwritten, rfl, hnone⟩
    · exact .measure _ ⟨_, hwritten, rfl, hnone⟩
    · rename_i hr
      cases hr

/-- What a row needs is written, and the failure of one write does not keep the others back. -/
theorem Bound.vmRow_tries (h : o.Bound x vm y w) (settings : Settings)
    (hvm : o.world.cluster.named vm = vm) :
    (vmRow settings vm y).Tries flaky
      (fun _ w' => ∃ vm' y', o.Bound x vm' y' w' ∧ (flaky ∨ vm' = o.named.stamped x.vappId ∧
        ∃ t, y' = x.settled o.status o.facts t))
      (fun w' => ∃ vm' y', o.Bound x vm' y' w') w := by
  obtain ⟨labels, hlabels⟩ := h.shown.exists_withLabels
  have hstatus : vm.desiredStatus.word = o.status := by
    rw [hlabels]
    rfl
  refine .bind ((h.stampVAppId_tries hvm).mono (fun _ w₁ hstamped => ?_) fun _ => id)
  obtain ⟨vm', h₁, hlabel⟩ := hstamped
  have hfirst : (outcome (vmStatus settings vm y)).Tries flaky (fun r w₂ => ∃ y₂,
      o.Bound x vm' y₂ w₂ ∧ y₂.facts = y.facts ∧ (flaky ∨ r = .ok () ∧ y₂.status = o.status))
      (fun w' => ∃ vm' y', o.Bound x vm' y' w') w₁ := by
    refine .outcome ((h₁.vmStatus_tries settings hstatus).mono (fun _ w₂ hw₂ => ?_) fun _ => id)
      fun hf e w₂ h₂ => ⟨y, h₂, rfl, .inl hf⟩
    obtain ⟨y₂, h₂, hfacts, hdone⟩ := hw₂
    exact ⟨y₂, h₂, hfacts, .inr ⟨rfl, hdone⟩⟩
  refine .bind (hfirst.mono (fun r w₂ hw₂ => ?_) fun _ => id)
  obtain ⟨y₂, h₂, hfacts, hok⟩ := hw₂
  have hsecond : (outcome (vmFacts vm y)).Tries flaky (fun r' w₃ => ∃ y₃,
      o.Bound x vm' y₃ w₃ ∧ (flaky ∨ r = .ok () ∧ r' = .ok () ∧ y₃.status = o.status ∧
        y₃.facts.change? o.facts = none)) (fun w' => ∃ vm' y', o.Bound x vm' y' w') w₂ := by
    refine .outcome ((h₂.vmFacts_tries hlabels h.id_eq hfacts.symm).mono (fun _ w₃ hw₃ => ?_)
      fun _ => id) fun hf e w₃ h₃ => ⟨y₂, h₃, .inl hf⟩
    obtain ⟨y₃, h₃, hsame, hnone⟩ := hw₃
    refine ⟨y₃, h₃, hok.imp_right fun ⟨hr, hstatus⟩ => ?_⟩
    exact ⟨hr, rfl, hsame.trans hstatus, hnone⟩
  refine .bind (hsecond.mono (fun r' w₃ hw₃ => ?_) fun _ => id)
  obtain ⟨y₃, h₃, hok⟩ := hw₃
  have hunder : ∃ vm' y', o.Bound x vm' y' w₃ := ⟨vm', y₃, h₃⟩
  -- The row is as far as it came; it has all where neither write failed.
  refine .bind (.ofResult (fun _ _ => .ofResult (fun _ _ => ⟨vm', y₃, h₃, ?_⟩)
    fun e he => ⟨?_, hunder⟩) fun e he => ⟨?_, hunder⟩)
  · rcases hok with hf | ⟨-, -, hstatus, hnone⟩
    · exact .inl hf
    · exact hlabel.imp_right fun hlabel => ⟨hlabel, h₃.version.settled hstatus hnone⟩
  · refine hok.resolve_right fun ⟨_, hr', _⟩ => ?_
    rw [he] at hr'
    cases hr'
  · refine hok.resolve_right fun ⟨hr, _⟩ => ?_
    rw [he] at hr
    cases hr

/-- Passes that were made leave what a further one keeps, and finishes where no call fails. -/
theorem Underway.virtualMachine_tries (h : o.Underway w)
    (hvm : w.cluster.vms.get? o.key = some vm) (settings : Settings) :
    (virtualMachine settings vm).Tries flaky (fun _ w' => o.Underway w' ∧ (flaky ∨ o.Finished w'))
      o.Underway w := by
  have hface : ∀ {id? vm'}, o.Shown id? vm' w → vm' = vm := by
    intro id? vm' hs
    exact Option.some.inj (hs.get?.symm.trans hvm)
  have hagain : ∀ vm', o.world.cluster.named (o.world.cluster.named vm') =
      o.world.cluster.named vm' := o.world.cluster.named_named
  have hrow : ∀ {x vm' y w'}, o.Bound x vm' y w' → o.world.cluster.named vm' = vm' →
      (vmRow settings vm' y).Tries flaky (fun _ w' => o.Underway w' ∧ (flaky ∨ o.Finished w'))
        o.Underway w' := by
    intro x vm' y w' hb hvm'
    refine (hb.vmRow_tries settings hvm').mono (fun _ w'' hw'' => ?_) fun w'' hw'' => ?_
    · obtain ⟨vm'', y'', hb'', hdone⟩ := hw''
      refine ⟨.inr ⟨x, vm'', y'', hb''⟩, hdone.imp_right ?_⟩
      rintro ⟨rfl, t, rfl⟩
      exact .inl ⟨x, t, hb''⟩
    · obtain ⟨vm'', y'', hb''⟩ := hw''
      exact .inr ⟨x, vm'', y'', hb''⟩
  rcases h with ⟨vm', h⟩ | ⟨x, vm', y, h⟩
  · obtain rfl := hface h.shown
    refine .bind (h.shown.deriveVAppName_tries (fun now => ?_)
      fun _ now => .inl ⟨_, h.reshown rfl rfl (h.shown.congr rfl)⟩)
    have h₁ : o.Unbound (o.world.cluster.named vm') { w with
        cluster := o.world.cluster.showing o.key (o.world.cluster.named vm'), now } :=
      h.reshown rfl rfl (h.shown.named now)
    refine .bind ((h₁.resolve_tries (hagain vm')).mono (fun res w₂ hw₂ => ?_) fun _ => id)
    rcases hw₂ with ⟨r, created, rfl, h₂⟩ | ⟨reason, rfl, h₂, hwhy⟩
    · exact hrow h₂ (hagain vm')
    · refine .measure _ ⟨.inl ⟨_, h₂⟩, .inr (.inr ⟨?_, reason, hwhy⟩)⟩
      rcases h₂.shown.face_of_named (hagain vm') with hnamed | ⟨id, hid, -⟩
      · rw [← hnamed]
        exact h₂
      · cases hid
  · obtain rfl := hface h.shown
    have hunder : ∀ w', o.Bound x vm' y w' → o.Underway w' := fun w' h => .inr ⟨x, vm', y, h⟩
    refine .bind (h.shown.deriveVAppName_tries (fun now => ?_)
      fun _ now => hunder _ (h.congr rfl rfl))
    have h₁ : o.Bound x (o.world.cluster.named vm') y { w with
        cluster := o.world.cluster.showing o.key (o.world.cluster.named vm'), now } :=
      h.reshown rfl (h.shown.named now)
    refine .bind ((h₁.resolve_tries (hagain vm')).mono (fun res w₂ hw₂ => ?_)
      fun w' h' => .inr ⟨x, _, y, h'⟩)
    obtain ⟨⟨created, rfl⟩, h₂⟩ := hw₂
    exact hrow h₂ (hagain vm')

end

end Origin

end TenantCloud
