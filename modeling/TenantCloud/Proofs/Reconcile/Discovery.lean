import TenantCloud.Proofs.Effect.Race
import TenantCloud.Proofs.Reconcile.Growth

/-!
# Machines that are discovered

Passes resolve one machine, each as it sees it, and go on by one call at a time, in any order. All
that they make together is at most one vApp and at most one row, and what a machine resolves to is
told by the world before them: a pass that loses a creation to another one reads what that one made.
`Reconcile.resolve_amid` is this for one pass amid others, where calls may fail too, and
`Reconcile.discovery_converges` for all of them together.
-/

set_option autoImplicit false

namespace TenantCloud

/-- The tables of vApps and machines got further rows at most. -/
structure Store.Extends (s s' : Store) : Prop where
  vdcs : s'.vdcs = s.vdcs
  vapps : s.vapps <+: s'.vapps
  vms : s.vms <+: s'.vms

namespace World

/-! ## The accord -/

/-- What passes that resolve a machine promise each other: to add at most one vApp and one row. -/
def discovery (vm : VirtualMachine) (views : List VirtualMachine) (w₀ : World) : Accord World where
  holds w := w.cluster = w₀.cluster ∧ ∃ a? r?, Grown vm views w₀.store a? r? w
  leads w w' := w.store.Extends w'.store
  refl _ := ⟨rfl, List.prefix_rfl, List.prefix_rfl⟩
  trans h h' := ⟨h'.vdcs.trans h.vdcs, h.vapps.trans h'.vapps, h.vms.trans h'.vms⟩

variable {vm : VirtualMachine} {views : List VirtualMachine} {w₀ w w' : World}

instance : (discovery vm views w₀).Timeless where
  next w now hw := by
    obtain ⟨hc, a?, r?, h⟩ := hw
    exact ⟨⟨hc, a?, r?, h⟩, ⟨hc, a?, r?, h.congr rfl rfl⟩, (discovery vm views w₀).refl w⟩

theorem vappFor?_stable (a : VApp) :
    (discovery vm views w₀).Stable fun w => w.store.vappFor? vm = some a := by
  intro w w' hn ha
  obtain ⟨name, hname, ha⟩ := Option.bind_eq_some_iff.1 ha
  obtain ⟨v, hv, ha⟩ := Option.bind_eq_some_iff.1 ha
  refine Option.bind_eq_some_iff.2 ⟨name, hname, Option.bind_eq_some_iff.2 ⟨v, ?_, ?_⟩⟩
  · unfold Store.vdcAt?
    rw [hn.leads.vdcs]
    exact hv
  · exact hn.leads.vapps.find?_eq_some ha

section

variable (hviews : ∀ seen ∈ views, seen.Resembles vm)

include hviews

theorem rowOf?_stable (r : Vm) :
    (discovery vm views w₀).Stable fun w => w.store.rowOf? vm = some r := by
  intro w w' hn hr
  obtain ⟨-, a?, r?, h⟩ := hn.before
  obtain ⟨-, a'?, r'?, h'⟩ := hn.after
  have hlead := hn.leads.vms
  rw [h.vms, h'.vms, List.prefix_append_right_inj] at hlead
  rw [h.rowOf? hviews] at hr
  rw [h'.rowOf? hviews]
  cases hrow : w₀.store.rowOf? vm with
  | some r' =>
    rw [hrow] at hr
    exact hr
  | none =>
    rw [hrow, Option.none_or] at hr
    subst hr
    cases hr' : r'? with
    | none => simp [hr'] at hlead
    | some r' => simpa [hr', eq_comm] using hlead

end

/-! ## Creations that are raced -/

theorem perform_createVApp_of_clash {new : NewVApp}
    (h : w.store.vapps.any (Store.clashesVApp new) = true) :
    perform (.store (.createVApp new)) w = (.error (Store.vappExists new), w) := by
  have hcreate : w.store.createVApp w.ids.nextVApp w.now new = .error (Store.vappExists new) := by
    rw [Store.createVApp, h]
    rfl
  show performStore w (.createVApp new) = _
  simp only [performStore, hcreate]

/-- What a creation tells that another pass may win. -/
def Won {α : Type} (flaky : Prop) (found : α → World → Prop) : Result α → World → Prop
  | .ok a, w => found a w
  | .error e, w => flaky ∨ e.isAlreadyExists = true ∧ ∃ a, found a w

section

variable {flaky : Prop} (hw : (discovery vm views w₀).holds w)
  (hknown : w₀.store.knownRow? vm = none)

include hw hknown

theorem createVApp_won {v : Vdc} {name : String} (hv : w₀.store.vdcAt? vm.ns = some v)
    (hname : vm.labelledVAppName? = some name) :
    let made := perform (.store (.createVApp (vm.newVApp v.id name))) w
    (discovery vm views w₀).Next w made.2 ∧
      Won flaky (fun a w => w.store.vappFor? vm = some a) made.1 made.2 := by
  obtain ⟨hc, a?, r?, h⟩ := hw
  cases ha : w.store.vappFor? vm with
  | some a =>
    have hnamed : w.store.vappNamed? v.id name = some a := by
      simpa [Store.vappFor?, Store.vappAt?, hname, h.vdcAt?, hv] using ha
    have hclash : w.store.vapps.any (Store.clashesVApp (vm.newVApp v.id name)) = true :=
      List.any_eq_true.2 ⟨a, List.mem_of_find?_eq_some hnamed, List.find?_some hnamed⟩
    dsimp only
    rw [perform_createVApp_of_clash hclash]
    exact ⟨.refl ⟨hc, a?, r?, h⟩, .inr ⟨rfl, a, ha⟩⟩
  | none =>
    rw [h.vappFor?] at ha
    obtain ⟨hfor, rfl⟩ := Option.or_eq_none_iff.1 ha
    obtain ⟨hmade, hgrown⟩ := h.addVApp hfor hknown hv hname
    dsimp only
    rw [hmade]
    refine ⟨⟨⟨hc, _, _, h⟩, ⟨hc, _, _, hgrown⟩, rfl, List.prefix_append _ _, List.prefix_rfl⟩, ?_⟩
    exact hgrown.vappFor?.trans (by rw [hfor, Option.none_or])

theorem createVm_won (hviews : ∀ seen ∈ views, seen.Resembles vm) {seen : VirtualMachine}
    (hseen : seen ∈ views) {a : VApp} (ha : w.store.vappFor? vm = some a) :
    let made := perform (.store (.createVm (seen.newVm a.id))) w
    (discovery vm views w₀).Next w made.2 ∧
      Won flaky (fun r w => w.store.rowOf? vm = some r) made.1 made.2 := by
  obtain ⟨hc, a?, r?, h⟩ := hw
  cases hrow : w.store.rowOf? vm with
  | some r =>
    dsimp only
    rw [perform_createVm_of_clash (h.clashes hviews hknown ha hrow hseen)]
    exact ⟨.refl ⟨hc, a?, r?, h⟩, .inr ⟨rfl, r, hrow⟩⟩
  | none =>
    obtain ⟨hmade, hgrown⟩ := h.addVm hviews hrow ha hseen
    dsimp only
    rw [hmade]
    refine ⟨⟨⟨hc, _, _, h⟩, ⟨hc, _, _, hgrown⟩, rfl, List.prefix_rfl, List.prefix_append _ _⟩, ?_⟩
    refine (hgrown.rowOf? hviews).trans ?_
    rw [(hgrown.row _ rfl).1, Option.none_or]

end

end World

/-! ## Passes -/

namespace Reconcile

open World Attempt

/-- What a look-up of a machine's row tells: a row that is found is the one of the machine. -/
def Known (vm : VirtualMachine) (missing : Prop) : Option Vm → World → Prop
  | some r, w => w.store.rowOf? vm = some r
  | none, _ => missing

/-- What a resolution tells. -/
def Settled (vm : VirtualMachine) (w₀ : World) : Resolution → World → Prop
  | .resolved r _, w => w.store.rowOf? vm = some r
  | .notManaged reason, _ => w₀.store.unmanaged? vm = some reason

section

variable {vm seen : VirtualMachine} {views : List VirtualMachine} {w₀ w : World} {flaky : Prop}
  (hviews : ∀ seen ∈ views, seen.Resembles vm) (hseen : seen ∈ views)

include hviews hseen

theorem findByLabel_amid :
    (findByLabel seen).Amid (discovery vm views w₀) flaky
      (Known vm (w₀.store.labelledRow? vm = none)) w := by
  have hlike := hviews seen hseen
  unfold findByLabel Store.labelledRow?
  rw [hlike.labelledVAppId?, hlike.name]
  cases hid : vm.labelledVAppId? with
  | none => exact .pure rfl
  | some id =>
    refine .look (fun _ => rfl) fun w' hn => ?_
    obtain ⟨-, a?, r?, h⟩ := hn.after
    show Known vm _ (w'.store.vmIn? id vm.name) w'
    cases hin : w'.store.vmIn? id vm.name with
    | some r =>
      show w'.store.rowOf? vm = some r
      simp [Store.rowOf?, Store.knownRow?, Store.labelledRow?, hid, hin]
    | none =>
      rw [h.vmIn?] at hin
      exact (Option.or_eq_none_iff.1 hin).1

theorem findVm_amid :
    (findVm seen).Amid (discovery vm views w₀) flaky
      (Known vm (w₀.store.knownRow? vm = none)) w := by
  have hlike := hviews seen hseen
  refine .bind ((findByLabel_amid hviews hseen).mono fun found w hfound => ?_)
  cases found with
  | some r => exact .pure hfound
  | none =>
    have hlabel : w₀.store.labelledRow? vm = none := hfound
    dsimp only
    rw [hlike.ns, hlike.name]
    refine .look (fun _ => rfl) fun w' hn => ?_
    obtain ⟨-, a?, r?, h⟩ := hn.after
    show Known vm _ (w'.store.vmAt? vm.ns vm.name) w'
    cases hat : w'.store.vmAt? vm.ns vm.name with
    | some r => exact h.rowOf?_of_vmAt? hviews hlabel hat
    | none =>
      rw [h.vmAt?] at hat
      exact Option.or_eq_none_iff.2 ⟨hlabel, (Option.or_eq_none_iff.1 hat).1⟩

section

variable (hknown : w₀.store.knownRow? vm = none)

include hknown

theorem ensureVApp_amid {v : Vdc} {name : String} (hv : w₀.store.vdcAt? vm.ns = some v)
    (hname : vm.labelledVAppName? = some name) :
    (ensureVApp seen v name).Amid (discovery vm views w₀) flaky
      (fun a w => w.store.vappFor? vm = some a) w := by
  have hnamed : ∀ w, (discovery vm views w₀).holds w →
      w.store.vappNamed? v.id name = w.store.vappFor? vm := by
    rintro w ⟨-, a?, r?, h⟩
    simp [Store.vappFor?, Store.vappAt?, hname, h.vdcAt?, hv]
  have hnew : seen.newVApp v.id name = vm.newVApp v.id name := by
    unfold VirtualMachine.newVApp
    rw [(hviews seen hseen).name]
  unfold ensureVApp
  rw [hnew]
  refine .bind (.look (fun _ => rfl) fun w₁ hn₁ => ?_)
  rw [hnamed w₁ hn₁.after]
  cases ha : w₁.store.vappFor? vm with
  | some a => exact .pure ha
  | none =>
    refine .bind (.mono (Q := Won flaky fun a w => w.store.vappFor? vm = some a)
      (.tried (fun w₂ hn₂ => ?_) fun hf _ _ _ => .inl hf) fun r w₂ hr => ?_)
    · exact createVApp_won hn₂.after hknown hv hname
    · cases r with
      | ok a => exact .bind (.measure _ (.bind (.publish _ _ (.pure hr))))
      | error e =>
        dsimp only
        split
        · refine .bind (.look (fun _ => rfl) fun w₃ hn₃ => ?_)
          rw [hnamed w₃ hn₃.after]
          cases ha' : w₃.store.vappFor? vm with
          | some a => exact .pure ha'
          | none =>
            refine .throw (hr.resolve_right ?_)
            rintro ⟨-, a, ha⟩
            rw [vappFor?_stable a w₂ w₃ hn₃ ha] at ha'
            cases ha'
        · rename_i hne
          exact .bind (.measure _ (.throw (hr.resolve_right fun h => hne h.1)))

theorem rereadVm_amid {a : VApp} (ha : w.store.vappFor? vm = some a)
    (hrow : flaky ∨ ∃ r, w.store.rowOf? vm = some r) :
    (rereadVm seen a).Amid (discovery vm views w₀) flaky (Known vm flaky) w := by
  have hlike := hviews seen hseen
  unfold rereadVm
  rw [hlike.ns, hlike.name]
  refine .bind (.look (fun _ => rfl) fun w₁ hn₁ => ?_)
  obtain ⟨-, a?, r?, h⟩ := hn₁.after
  have ha₁ : w₁.store.vappFor? vm = some a := vappFor?_stable a w w₁ hn₁ ha
  cases hat : w₁.store.vmAt? vm.ns vm.name with
  | some r =>
    have hlabel := (Option.or_eq_none_iff.1 hknown).1
    exact .pure (h.rowOf?_of_vmAt? hviews hlabel hat)
  | none =>
    -- Nobody made the row yet, so that the row, if any, was there before.
    have hold : flaky ∨ ∃ r, w₀.store.rowOf? vm = some r := by
      refine hrow.imp_right fun ⟨r, hr⟩ => ⟨r, ?_⟩
      have hr₁ : w₁.store.rowOf? vm = some r := rowOf?_stable hviews r w w₁ hn₁ hr
      rw [h.rowOf? hviews] at hr₁
      rcases Option.or_eq_some_iff.1 hr₁ with hr₁ | ⟨-, rfl⟩
      · exact hr₁
      · obtain ⟨hns, hname⟩ := h.isAt_of_row hviews rfl
        rw [h.vmAt?] at hat
        simp [Option.filter, Vm.isAt, hns, hname] at hat
    refine .look (fun _ => rfl) fun w₂ hn₂ => ?_
    obtain ⟨-, a'?, r'?, h'⟩ := hn₂.after
    have ha₂ : w₂.store.vappFor? vm = some a := vappFor?_stable a w₁ w₂ hn₂ ha₁
    show Known vm flaky (w₂.store.vmIn? a.id vm.name) w₂
    cases hin : w₂.store.vmIn? a.id vm.name with
    | some r => exact h'.rowOf?_of_vmIn? hviews hknown ha₂ hin
    | none =>
      refine hold.resolve_right ?_
      rintro ⟨r, hr⟩
      have hr'? : r'? = none := by
        cases hr' : r'? with
        | none => rfl
        | some b =>
          rw [(h'.row b hr').1] at hr
          cases hr
      have hr₂ := h'.rowOf? hviews
      unfold Store.rowOf? at hr₂ hr
      rw [h'.knownRow? hviews, hknown, hr'?, ha₂, Option.bind_some, hin] at hr₂
      rw [hknown] at hr
      rw [hr] at hr₂
      cases hr₂

theorem createVm_amid {a : VApp} (ha : w.store.vappFor? vm = some a) :
    (createVm seen a).Amid (discovery vm views w₀) flaky
      (fun r w => w.store.rowOf? vm = some r) w := by
  unfold createVm
  refine .bind (.mono (Q := fun made w => w.store.vappFor? vm = some a ∧
      Won flaky (fun r w => w.store.rowOf? vm = some r) made w)
    (.tried (fun w₁ hn₁ => ?_) fun hf e w₁ hn₁ => ?_) fun made w₁ hmade => ?_)
  · have ha₁ := vappFor?_stable a w w₁ hn₁ ha
    obtain ⟨hnext, hwon⟩ := createVm_won hn₁.after hknown hviews hseen ha₁
    exact ⟨hnext, vappFor?_stable a _ _ hnext ha₁, hwon⟩
  · exact ⟨vappFor?_stable a w w₁ hn₁ ha, .inl hf⟩
  · obtain ⟨ha₁, hwon⟩ := hmade
    cases made with
    | ok r => exact .bind (.measure _ (.bind (.publish _ _ (.pure hwon))))
    | error e =>
      dsimp only
      split
      · have hrow := hwon.imp_right And.right
        refine .bind ((rereadVm_amid hviews hseen hknown ha₁ hrow).mono fun found w₂ hfound => ?_)
        cases found with
        | some r => exact .pure hfound
        | none => exact .throw hfound
      · rename_i hne
        exact .bind (.measure _ (.throw (hwon.resolve_right fun h => hne h.1)))

theorem discover_amid :
    (discover seen).Amid (discovery vm views w₀) flaky (Settled vm w₀) w := by
  have hlike := hviews seen hseen
  unfold discover
  rw [hlike.labelledVAppName?, hlike.ns]
  cases hname : vm.labelledVAppName? with
  | none => exact .pure (by simp [Settled, Store.unmanaged?, hknown, hname])
  | some name =>
    refine .bind (.look (fun _ => rfl) fun w₁ hn₁ => ?_)
    obtain ⟨-, a?, r?, h⟩ := hn₁.after
    rw [h.vdcAt?]
    cases hv : w₀.store.vdcAt? vm.ns with
    | none => exact .pure (by simp [Settled, Store.unmanaged?, hknown, hname, hv])
    | some v =>
      refine .bind ((ensureVApp_amid hviews hseen hknown hv hname).mono fun a w₂ ha => ?_)
      refine .bind ((createVm_amid hviews hseen hknown ha).mono fun r w₃ hr => .pure hr)

end

/-- What resolving a machine comes to amid other passes that resolve it: the row that the machine
has then, or the reason that was there before. -/
theorem resolve_amid : (resolve seen).Amid (discovery vm views w₀) flaky (Settled vm w₀) w := by
  refine .bind ((findVm_amid hviews hseen).mono fun found w₁ hfound => ?_)
  cases found with
  | none => exact discover_amid hviews hseen hfound
  | some r => exact .pure hfound

end

/-! ## All of them together -/

/-- **Create races converge.** Passes resolve a machine, each as it sees it, one call at a time and
in any order, and no call fails but for a uniqueness rule. Then no pass fails, and all that resolve
the machine give the same row; the tables get at most one row each; and either all find the machine
not managed, for one reason, or none does. Every pass can come to its end. -/
theorem discovery_converges {vm : VirtualMachine} {views : List VirtualMachine} {w : World}
    (hw : w.Orderly 1 1) (hviews : ∀ seen ∈ views, seen.Resembles vm)
    {race : Race World (Result Resolution)}
    (h : Race.Reaches (Responds False) ⟨views.map fun seen => (resolve seen).run, w⟩ race) :
    (∀ e, .done (.error e) ∉ race.passes) ∧
    (∀ r created r' created', .done (.ok (.resolved r created)) ∈ race.passes →
      .done (.ok (.resolved r' created')) ∈ race.passes → r = r') ∧
    (∃ vms, race.state.store.vms = w.store.vms ++ vms ∧ vms.length ≤ 1) ∧
    (∃ vapps, race.state.store.vapps = w.store.vapps ++ vapps ∧ vapps.length ≤ 1) ∧
    (∀ reason res, .done (.ok (.notManaged reason)) ∈ race.passes →
      .done (.ok res) ∈ race.passes → res = .notManaged reason) ∧
    ∃ race', Race.Reaches (Responds False) race race' ∧
      ∀ p ∈ race'.passes, ∃ res, p = .done (.ok res) := by
  let Q : Result Resolution → World → Prop := Ends (Settled vm w) fun _ => False
  have hstable : ∀ r, (discovery vm views w).Stable (Q r) := by
    intro r w' w'' hn hr
    cases r with
    | error e => exact hr
    | ok res =>
      cases res with
      | resolved r created => exact rowOf?_stable hviews r w' w'' hn hr
      | notManaged reason => exact hr
  have hstart : Race.Agreed (discovery vm views w) (Responds False) Q
      ⟨views.map fun seen => (resolve seen).run, w⟩ := by
    refine ⟨⟨rfl, none, none, .refl hw.unique fun _ => ⟨hw.vapps, hw.vms⟩⟩, fun p hp => ?_⟩
    obtain ⟨seen, hseen, rfl⟩ := List.mem_map.1 hp
    exact resolve_amid hviews hseen
  have hall : ∀ {race'}, Race.Reaches (Responds False)
      ⟨views.map fun seen => (resolve seen).run, w⟩ race' →
      race'.Agreed (discovery vm views w) (Responds False) Q :=
    fun h => hstart.reaches hstable h
  obtain ⟨⟨-, a?, r?, hgrown⟩, hamid⟩ := hall h
  refine ⟨fun e he => hamid _ he, fun r _ r' _ hr hr' => ?_, ⟨_, hgrown.vms, ?_⟩,
    ⟨_, hgrown.vapps, ?_⟩, fun reason res hreason hres => ?_, ?_⟩
  · have hsame : some r = some r' := (hamid _ hr).symm.trans (hamid _ hr')
    exact Option.some.inj hsame
  · cases r? <;> simp
  · cases a? <;> simp
  · have hwhy : w.store.unmanaged? vm = some reason := hamid _ hreason
    cases res with
    | resolved r created =>
      have hrow := hgrown.managed hviews (hamid _ hres)
      rw [hrow] at hwhy
      cases hwhy
    | notManaged reason' =>
      have hwhy' : w.store.unmanaged? vm = some reason' := hamid _ hres
      rw [hwhy] at hwhy'
      cases hwhy'
      rfl
  · obtain ⟨race', hreach, hended⟩ := Race.exists_end (exists_responds False) race
    refine ⟨race', hreach, fun p hp => ?_⟩
    obtain ⟨res, rfl⟩ := hended p hp
    cases res with
    | ok res => exact ⟨res, rfl⟩
    | error e => exact ((hall (h.trans hreach)).amid _ hp).elim

/-- A machine whose label names its vApp. -/
def labelled (status : PrintableStatus) : VirtualMachine where
  metadata := {
    name := some "web-0"
    ns := some "tenant-a"
    labels := some (.single Vocabulary.vappNameLabel "web") }
  spec := ⟨none, none, none⟩
  status := some ⟨some status, none⟩

/-- A world where neither its vApp nor its row is there yet. -/
def undiscovered : World where
  store := { vdcs := [boundVdc 1 "gold" "tenant-a" none] }
  ids := ⟨fun n => .ofNat (10 + n), fun n => .ofNat (20 + n), 0, 0⟩
  now := ⟨0, 0⟩

/-- Two passes that take turns. -/
def neckAndNeck : Race World (Result Resolution) :=
  ((List.replicate 12 [0, 1]).flatten.foldl Race.goOn
    ⟨[labelled .running, labelled .stopped].map fun seen => (resolve seen).run, undiscovered⟩)

theorem reaches_neckAndNeck : Race.Reaches (Responds False)
    ⟨[labelled .running, labelled .stopped].map fun seen => (resolve seen).run, undiscovered⟩
    neckAndNeck :=
  Race.reaches_foldl_goOn _ _ _

/-- The row that the second one makes, in the vApp of the first. -/
def sharedRow : Vm := Store.vmRow (.ofNat 20) ⟨0, 0⟩ ((labelled .stopped).newVm (.ofNat 10))

theorem passes_neckAndNeck : neckAndNeck.passes =
    [.done (.ok (.resolved sharedRow true)), .done (.ok (.resolved sharedRow true))] := rfl

theorem undiscovered_orderly : undiscovered.Orderly 1 1 where
  unique := by decide
  vapps := ⟨by decide, by decide, by decide⟩
  vms := ⟨by decide, by decide⟩

/-- Each loses one creation to the other, and both end with the one row. -/
theorem neckAndNeck_converges :
    (∀ r created, .done (.ok (.resolved r created)) ∈ neckAndNeck.passes → r = sharedRow) ∧
    (∀ e, .done (.error e) ∉ neckAndNeck.passes) ∧
    (∃ vms, neckAndNeck.state.store.vms = [] ++ vms ∧ vms.length ≤ 1) ∧
    ∃ vapps, neckAndNeck.state.store.vapps = [] ++ vapps ∧ vapps.length ≤ 1 := by
  have hviews : ∀ seen ∈ [labelled .running, labelled .stopped], seen.Resembles
      (labelled .running) := by
    intro seen hseen
    rcases List.mem_cons.1 hseen with rfl | hseen
    · exact ⟨rfl, rfl, rfl⟩
    · obtain rfl := List.mem_singleton.1 hseen
      exact ⟨rfl, rfl, rfl⟩
  obtain ⟨hok, hsame, hvms, hvapps, -⟩ :=
    discovery_converges undiscovered_orderly hviews reaches_neckAndNeck
  refine ⟨fun r created hr => hsame r created sharedRow true hr ?_, hok, hvms, hvapps⟩
  rw [passes_neckAndNeck]
  exact .head _

end Reconcile

end TenantCloud
