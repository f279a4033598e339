import TenantCloud.Proofs.Effect.Idle
import TenantCloud.Proofs.Reconcile.Sweeping

/-!
# Machines at rest

A pass for a machine whose row and labels tell all changes nothing (`World.AtRest.idles`). This is
how a pass without failures leaves a machine that it resolves to a row, so that further passes idle
as long as the row is not stale (`World.pass_settles`): each of the tests for what is left to write
sees what the first pass wrote.
-/

set_option autoImplicit false

namespace TenantCloud

/-- The name of a vApp is derived once. -/
theorem Cluster.derivedName?_named {c : Cluster}
    (hnames : ∀ ti ∈ c.templateInstances.values, ti.name ≠ "") (vm : VirtualMachine) :
    c.derivedName? (c.named vm) = none := by
  cases hderived : c.derivedName? vm with
  | none =>
    have hsame : c.named vm = vm := by
      rw [named, hderived]
      rfl
    rw [hsame, hderived]
  | some name =>
    have hfilled : name ≠ "" := by
      unfold derivedName? at hderived
      split at hderived
      · obtain ⟨owner, -, hfound⟩ := Option.bind_eq_some_iff.1 hderived
        obtain ⟨ti, hti, rfl⟩ := Option.map_eq_some_iff.1 hfound
        exact hnames ti (List.mem_of_find?_eq_some hti)
      · cases hderived
    have hlabel : (c.named vm).labelledVAppName? = some name := by
      rw [named, hderived, Reconcile.withVAppName]
      unfold VirtualMachine.labelledVAppName? Metadata.filledLabel?
      rw [Metadata.label?_setLabel, if_pos rfl]
      exact if_pos (decide_eq_true hfilled)
    rw [derivedName?, hlabel]
    exact if_neg (Option.some_ne_none name)

namespace World

/-! ## Passes that have nothing to do -/

/-- The row of a machine and its labels tell all that there is. -/
structure AtRest (w : World) (vm : VirtualMachine) (y : Vm) : Prop where
  derived : w.cluster.derivedName? vm = none
  label : vm.metadata.label? Vocabulary.vappIdLabel = some y.vappId.render
  row : w.store.vmIn? y.vappId vm.name = some y
  status : y.status = vm.desiredStatus.word
  facts : y.facts.change? (.observed vm (w.cluster.instances.get? ⟨vm.ns, vm.name⟩)) = none

namespace AtRest

open Attempt Reconcile

variable {w : World} {vm : VirtualMachine} {y : Vm} {fits : Timestamp → Prop}

theorem deriveVAppName_idles (h : w.AtRest vm y) :
    (deriveVAppName vm).Idles w fits (· = .ok none) := by
  have hderived := h.derived
  unfold deriveVAppName
  split
  · rename_i owner hname howner
    rw [Cluster.derivedName?, if_pos hname, howner] at hderived
    refine .bind (.look rfl rfl ?_)
    dsimp only
    rw [Option.map_eq_none_iff.1 hderived]
    exact .pure rfl
  · exact .pure rfl

/-- The label leads to the row. -/
theorem resolve_idles (h : w.AtRest vm y) :
    (resolve vm).Idles w fits (· = .ok (.resolved y false)) := by
  have hid : vm.labelledVAppId? = some y.vappId := by
    rw [VirtualMachine.labelledVAppId?, h.label, Option.bind_some, Uuid.parse?_render]
  have hlabel : (findByLabel vm).Idles w fits (· = .ok (some y)) := by
    unfold findByLabel
    rw [hid]
    exact .look rfl rfl (congrArg Except.ok h.row)
  have hfind : (findVm vm).Idles w fits (· = .ok (some y)) := by
    refine .bind (hlabel.mono fun r hr => ?_)
    rw [hr]
    exact .pure rfl
  refine .bind (hfind.mono fun r hr => ?_)
  rw [hr]
  exact .pure rfl

theorem found_idles (h : w.AtRest vm y) (settings : Settings) :
    ((Visit.pass settings).found vm).Idles w fits (· = .ok (vm, .resolved y false)) := by
  refine .bind (.bind (h.deriveVAppName_idles.mono fun r hr => ?_))
  rw [hr]
  refine .pure (.bind (h.resolve_idles.mono fun r hr => ?_))
  rw [hr]
  exact .pure rfl

theorem vmStatus_idles (h : w.AtRest vm y) (settings : Settings) :
    (vmStatus settings vm y).Idles w (y.isFresh · settings.staleness) (· = .ok ()) := by
  refine .bind (.clock fun t ht => ?_)
  dsimp only
  rw [if_pos ⟨h.status, ht⟩]
  exact .measure _ rfl

theorem vmFacts_idles (h : w.AtRest vm y) : (vmFacts vm y).Idles w fits (· = .ok ()) := by
  refine .bind (.look rfl rfl ?_)
  dsimp only
  rw [h.facts]
  exact .pure rfl

theorem vmRow_idles (h : w.AtRest vm y) (settings : Settings) :
    (vmRow settings vm y).Idles w (y.isFresh · settings.staleness) (· = .ok ()) := by
  have hstamp : (stampVAppId vm y).Idles w (y.isFresh · settings.staleness) (· = .ok ()) := by
    unfold stampVAppId
    dsimp only
    rw [if_pos h.label]
    exact .pure rfl
  refine .bind (hstamp.mono fun r hr => ?_)
  rw [hr]
  refine .bind (.outcome ((h.vmStatus_idles settings).mono fun r hr => ?_))
  rw [hr]
  refine .bind (.outcome (h.vmFacts_idles.mono fun r hr => ?_))
  rw [hr]
  exact .bind (.ofResult (.ofResult rfl))

/-- A pass for a machine at rest changes nothing while the row is fresh. -/
theorem idles (h : w.AtRest vm y) (settings : Settings) :
    (virtualMachine settings vm).Idles w (y.isFresh · settings.staleness) (· = .ok ()) := by
  rw [← Visit.attempt_pass]
  refine .bind ((h.found_idles settings).mono fun r hr => ?_)
  rw [hr]
  exact h.vmRow_idles settings

end AtRest

/-- What counts for a machine at rest is as it was: its row, its instance, and the template
instances. -/
structure Undisturbed (w : World) (key : ObjectKey) (y : Vm) (w' : World) : Prop where
  unique : w'.store.Unique
  row : y ∈ w'.store.vms
  instances : w'.cluster.instances.get? key = w.cluster.instances.get? key
  templateInstances : w'.cluster.templateInstances = w.cluster.templateInstances

end World

/-! ## Runs in which no call fails -/

/-- Each call is carried out, at some time. -/
def Handler.CarriesOut (h : Handler World) : Prop :=
  ∀ c w, ∃ now, h.answer c w = World.perform c { w with now }

theorem Handler.CarriesOut.carries {α : Type} {h : Handler World} (hh : h.CarriesOut) (w : World)
    (a : Attempt α) : w.Carries a (a.run.run h w).value (a.run.run h w).state := by
  refine Pass.steps_run (fun c w => ?_) _ w
  obtain ⟨now, he⟩ := hh c w
  rw [he]
  exact .carried c w now

theorem Attempt.run_bind_of_ok {σ α β : Type} (h : Handler σ) {a : Attempt α} {f : α → Attempt β}
    {s : σ} {v : α} (hv : (a.run.run h s).value = .ok v) :
    (a >>= f).run.run h s =
      let r := (f v).run.run h (a.run.run h s).state
      ⟨r.value, r.state, (a.run.run h s).trace ++ r.trace⟩ := by
  show Pass.run h (a.run >>= ExceptT.bindCont f) s = _
  rw [Pass.run_bind]
  dsimp only
  rw [hv]
  rfl

namespace Origin

variable {o : Origin} {x : Vm} {t : Timestamp} {w w' : World}

/-- A pass that finishes leaves its machine at rest. -/
theorem Bound.atRest (hnames : ∀ ti ∈ o.world.cluster.templateInstances.values, ti.name ≠ "")
    (h : o.Bound x (o.named.stamped x.vappId) (x.settled o.status o.facts t) w)
    (hw : w.Undisturbed o.key (x.settled o.status o.facts t) w') :
    w'.AtRest (o.named.stamped x.vappId) (x.settled o.status o.facts t) := by
  obtain ⟨labels, hlabels⟩ := h.shown.exists_withLabels
  have hname : (x.settled o.status o.facts t).vmName = (o.named.stamped x.vappId).name := by
    rw [h.vmName_eq, h.vmName_machine, hlabels]
    rfl
  refine ⟨?_, ?_, ?_, ?_, ?_⟩
  · have hcluster : w'.cluster.templateInstances = o.world.cluster.templateInstances := by
      rw [hw.templateInstances, h.shown.cluster]
      rfl
    have hsame : w'.cluster.derivedName? (o.named.stamped x.vappId) =
        o.world.cluster.derivedName? (o.named.stamped x.vappId) := by
      unfold Cluster.derivedName? Cluster.templateInstanceWithUid?
      rw [hcluster]
    rw [hsame, Cluster.derivedName?_congr (o.named.label?_stamped x.vappId (by decide))
      (o.named.label?_stamped x.vappId (by decide))]
    exact Cluster.derivedName?_named hnames o.machine
  · rw [h.vappId_eq, VirtualMachine.stamped, Metadata.label?_setLabel, if_pos rfl]
  · exact hw.unique.vmIn.find? hw.row fun r => by simp [Vm.isIn, hname]
  · rw [hlabels]
    rfl
  · have hobserved : VmFacts.observed (o.named.stamped x.vappId) (w'.cluster.instances.get?
        ⟨(o.named.stamped x.vappId).ns, (o.named.stamped x.vappId).name⟩) = o.facts := by
      rw [h.shown.key_eq, hw.instances, h.shown.cluster, hlabels]
      rfl
    rw [hobserved]
    exact x.change?_informed o.facts

end Origin

namespace World

/-- **A pass settles its machine, and then passes idle.** A pass in which no call fails resolves a
machine of the cluster to a row. It succeeds; the row has the status of the machine then, and the
machine the vApp of the row on its label. Once the row is written, a pass for the machine as it is
now, with the row, the instance and the template instances undisturbed, and while the row is fresh,
is resolved to the same row, succeeds, and neither writes nor publishes anything. -/
theorem pass_settles {w : World} {h : Handler World} (hh : h.CarriesOut) (hw : w.Orderly 1 1)
    {vm seen : VirtualMachine} (hvm : w.cluster.vms.get? vm.key = some vm)
    (hnames : ∀ ti ∈ w.cluster.templateInstances.values, ti.name ≠ "") {settings : Settings}
    {r : Vm} {created : Bool}
    (hfound : (((Visit.pass settings).found vm).run.run h w).value =
      .ok (seen, .resolved r created)) :
    let once := (Reconcile.virtualMachine settings vm).run.run h w
    once.value = .ok () ∧ once.state.store.Unique ∧
    ∃ y vm', Table.get? once.state.store.vms r.id = some y ∧
      y.status = vm.desiredStatus.word ∧
      once.state.cluster.vms.get? vm.key = some vm' ∧
      vm'.metadata.label? Vocabulary.vappIdLabel = some y.vappId.render ∧
      ∀ (w' : World) (h' : Handler World), once.state.Undisturbed vm.key y w' → h'.CarriesOut →
        (∀ s, y.isFresh (h'.now s) settings.staleness = true) →
        let again := (Reconcile.virtualMachine settings vm').run.run h' w'
        (((Visit.pass settings).found vm').run.run h' w').value = .ok (vm', .resolved y false) ∧
        again.value = .ok () ∧ (∃ now, again.state = { w' with now }) ∧
        ∀ e ∈ again.trace, e.IsIdle := by
  let o : Origin := ⟨w, vm⟩
  have hnamed : w.cluster.named o.named = o.named := w.cluster.named_named vm
  -- The row that is found, and what is written to it.
  have hcarried := hh.carries w ((Visit.pass settings).found vm)
  rw [hfound] at hcarried
  obtain ⟨_, heq, hseen, hbound⟩ :=
    hcarried.of_tries (Origin.found_tries (o := o) hw hvm settings)
  cases heq
  obtain rfl : seen = o.named := hseen
  have h₀ := hbound r created rfl
  obtain ⟨_, hvalue, vm', y, h₁, hf | ⟨rfl, t, rfl⟩⟩ :=
    (hh.carries _ (Reconcile.vmRow settings o.named r)).of_tries (h₀.vmRow_tries settings hnamed)
  · exact hf.elim
  have hpass : Reconcile.virtualMachine settings vm =
      (Visit.pass settings).found vm >>= (Visit.pass settings).finish :=
    (Visit.attempt_pass settings vm).symm
  dsimp only
  rw [hpass, Attempt.run_bind_of_ok h hfound]
  refine ⟨hvalue, h₁.unique, r.settled o.status o.facts t, o.named.stamped r.vappId, ?_, rfl,
    h₁.shown.get?, ?_, fun w' h' hrest hh' hfresh => ?_⟩
  · exact h₁.unique.vmId.find? h₁.mem fun a => by rw [h₁.id_eq]; exact beq_iff_eq
  · rw [h₁.vappId_eq, VirtualMachine.stamped, Metadata.label?_setLabel, if_pos rfl]
  · have hat := h₁.atRest hnames hrest
    have hanswer : ∀ c now, ∃ now', h'.answer c { w' with now } =
        perform c { w' with now := now' } := fun c now => hh' c { w' with now }
    have hlook : ((Visit.pass settings).found _).Idles w' (fun _ => True) _ :=
      hat.found_idles settings
    obtain ⟨hsame, -⟩ := hlook.run hanswer (fun _ => trivial) w'.now
    obtain ⟨hok, hstate, htrace⟩ := (hat.idles settings).run hanswer (fun _ => hfresh _) w'.now
    exact ⟨hsame, hok, hstate, htrace⟩

/-- Carries out each call while its clock stands still. -/
def stoppedAt (t : Timestamp) : Handler World := { failing [] with now := fun _ => t }

theorem carriesOut_stoppedAt (t : Timestamp) : (stoppedAt t).CarriesOut := fun _ w => ⟨w.now, rfl⟩

/-- The world after a pass for a machine that a template made. -/
def settledOnce : World :=
  ((Reconcile.virtualMachine {} Reconcile.fromTemplate).run.run (stoppedAt ⟨5, 0⟩)
    Reconcile.untouched).state

/-- The first pass names the machine, makes its vApp and its row, and stamps it; the second finds
nothing left to do. -/
theorem fromTemplate_settles : ∃ y vm',
    Table.get? settledOnce.store.vms Reconcile.untouched.ids.nextVm = some y ∧
    settledOnce.cluster.vms.get? Reconcile.fromTemplate.key = some vm' ∧
    vm'.metadata.label? Vocabulary.vappIdLabel = some y.vappId.render ∧
    let again := (Reconcile.virtualMachine {} vm').run.run (stoppedAt ⟨6, 0⟩) settledOnce
    again.value = .ok () ∧ ∀ e ∈ again.trace, e.IsIdle := by
  have hw : Reconcile.untouched.Orderly 1 1 :=
    ⟨by decide, ⟨by decide, by decide, by decide⟩, ⟨by decide, by decide⟩⟩
  have hvm : Reconcile.untouched.cluster.vms.get? Reconcile.fromTemplate.key =
      some Reconcile.fromTemplate := rfl
  have hfound : (((Visit.pass {}).found Reconcile.fromTemplate).run.run (stoppedAt ⟨5, 0⟩)
      Reconcile.untouched).value = .ok (_, .resolved _ true) := rfl
  obtain ⟨-, hunique, y, vm', hrow, -, hvm, hlabel, hagain⟩ :=
    pass_settles (carriesOut_stoppedAt ⟨5, 0⟩) hw hvm (by decide) hfound
  refine ⟨y, vm', hrow, hvm, hlabel, ?_⟩
  have hrest : settledOnce.Undisturbed Reconcile.fromTemplate.key y settledOnce :=
    ⟨hunique, List.mem_of_find?_eq_some hrow, rfl, rfl⟩
  have hfresh : y.isFresh ⟨6, 0⟩ ({} : Settings).staleness = true := by
    cases hrow
    decide
  obtain ⟨-, hok, -, htrace⟩ := hagain _ _ hrest (carriesOut_stoppedAt ⟨6, 0⟩) fun _ => hfresh
  exact ⟨hok, htrace⟩

end World

end TenantCloud
