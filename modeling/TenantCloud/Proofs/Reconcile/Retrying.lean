import Mathlib.Data.List.Forall2
import Mathlib.Logic.Equiv.Basic
import TenantCloud.Proofs.Reconcile.Underway

/-!
# Passes that are tried again

Passes for a machine fail, each as it may, until one meets no failure. Then the rows of vApps and
machines and the labels are what a single pass without failures makes of the world at the start,
but for the identities that were drawn and the times (`World.Alike`, `Reconcile.retries_converge`).
Where identities differ, a permutation leads from one world to the other: it swaps the new ones,
which no row had or named before.
-/

set_option autoImplicit false

namespace TenantCloud

/-! ## Alike but for identities and times -/

/-- Other identities for vApps and machines. -/
structure Renaming where
  vapp : Equiv.Perm Uuid
  vm : Equiv.Perm Uuid

namespace Renaming

/-- Each identity stays. -/
def same : Renaming := ⟨.refl _, .refl _⟩

/-- The rows of a store keep their identities. -/
structure Spares (ρ : Renaming) (s : Store) : Prop where
  vapps : ∀ a ∈ s.vapps, ρ.vapp a.id = a.id
  vms : ∀ r ∈ s.vms, ρ.vm r.id = r.id ∧ ρ.vapp r.vappId = r.vappId

/-- The text on a label, where the identity of a vApp is another one. -/
def label (ρ : Renaming) (name text : String) : String :=
  if name = Vocabulary.vappIdLabel then
    match Uuid.parse? text with
    | some id => if id.render = text then (ρ.vapp id).render else text
    | none => text
  else text

theorem same_spares (s : Store) : same.Spares s := ⟨fun _ _ => rfl, fun _ _ => ⟨rfl, rfl⟩⟩

theorem same_label (name text : String) : same.label name text = text := by
  unfold label
  split
  · split
    · split
      · rename_i h
        exact h
      · rfl
    · rfl
  · rfl

theorem label_render (ρ : Renaming) (id : Uuid) :
    ρ.label Vocabulary.vappIdLabel id.render = (ρ.vapp id).render := by
  rw [label, if_pos rfl, Uuid.parse?_render]
  exact if_pos rfl

theorem label_of_ne (ρ : Renaming) {name : String} (h : name ≠ Vocabulary.vappIdLabel)
    (text : String) : ρ.label name text = text :=
  if_neg h

end Renaming

/-- One row is the other, under its other identity and at other times. -/
def VApp.Alike (ρ : Renaming) (a b : VApp) : Prop :=
  b = { a with id := ρ.vapp a.id, createdAt := b.createdAt, updatedAt := b.updatedAt }

/-- One row is the other, under its other identity and at other times. -/
def Vm.Alike (ρ : Renaming) (r q : Vm) : Prop :=
  q = { r with
    id := ρ.vm r.id
    vappId := ρ.vapp r.vappId
    createdAt := q.createdAt
    updatedAt := q.updatedAt }

/-- The tables of vApps and machines and the labels of the machine under a key are alike. -/
structure World.Alike (ρ : Renaming) (key : ObjectKey) (w w' : World) : Prop where
  vapps : List.Forall₂ (VApp.Alike ρ) w.store.vapps w'.store.vapps
  vms : List.Forall₂ (Vm.Alike ρ) w.store.vms w'.store.vms
  labels : ∃ vm vm', w.cluster.vms.get? key = some vm ∧ w'.cluster.vms.get? key = some vm' ∧
    ∀ name, vm'.metadata.label? name = (vm.metadata.label? name).map (ρ.label name)

theorem VApp.Alike.of_spares {ρ : Renaming} {a : VApp} (h : ρ.vapp a.id = a.id) :
    VApp.Alike ρ a a := by
  unfold VApp.Alike
  rw [h]

theorem Vm.Alike.of_spares {ρ : Renaming} {r : Vm}
    (h : ρ.vm r.id = r.id ∧ ρ.vapp r.vappId = r.vappId) : Vm.Alike ρ r r := by
  unfold Vm.Alike
  rw [h.1, h.2]

theorem VApp.Alike.vappRow (ρ : Renaming) (id : Uuid) (t t' : Timestamp) (new : NewVApp) :
    VApp.Alike ρ (Store.vappRow id t new) (Store.vappRow (ρ.vapp id) t' new) := rfl

theorem Vm.Alike.vmRow (ρ : Renaming) (id vappId : Uuid) (t t' : Timestamp)
    (vm : VirtualMachine) : Vm.Alike ρ (Store.vmRow id t (vm.newVm vappId))
      (Store.vmRow (ρ.vm id) t' (vm.newVm (ρ.vapp vappId))) := rfl

/-- Rows that are alike are written alike. -/
theorem Vm.Alike.settled {ρ : Renaming} {x x' : Vm} (h : Vm.Alike ρ x x') (status : String)
    (seen : VmFacts) (t t' : Timestamp) :
    Vm.Alike ρ (x.settled status seen t) (x'.settled status seen t') := by
  have hfacts : x'.facts = x.facts := by
    rw [h]
    rfl
  have hinformed : Vm.Alike ρ (x.informed seen) (x'.informed seen) := by
    unfold Vm.informed
    rw [hfacts]
    cases x.facts.change? seen with
    | none => exact h
    | some change =>
      rw [h]
      rfl
  unfold Vm.Alike Vm.settled
  rw [hinformed]

/-! ## What two passes make of one store -/

namespace World

variable {vm : VirtualMachine} {s : Store} {a? a'? : Option VApp} {r? r'? : Option Vm}
  {g g' : World} {x x' : Vm}

/-- Where a vApp is made twice, in two worlds, the new identities are swapped. -/
theorem Grown.vapps_alike (h : Grown vm [vm] s a? r? g) (h' : Grown vm [vm] s a'? r'? g')
    {a a' : VApp} (ha : (s.vappFor? vm).or a? = some a) (ha' : (s.vappFor? vm).or a'? = some a') :
    ∃ p : Equiv.Perm Uuid, (∀ b ∈ s.vapps, p b.id = b.id) ∧ (∀ r ∈ s.vms, p r.vappId = r.vappId) ∧
      p a.id = a'.id ∧
      ∀ q, List.Forall₂ (VApp.Alike ⟨p, q⟩) g.store.vapps g'.store.vapps := by
  have hvapps := h.vapps
  have hvapps' := h'.vapps
  cases hfor : s.vappFor? vm with
  | some b =>
    have hnone : ∀ {a? r? g}, Grown vm [vm] s a? r? g → a? = none := by
      intro a? r? g hg
      cases ha : a? with
      | none => rfl
      | some a =>
        rw [(hg.vapp a ha).1] at hfor
        cases hfor
    rw [hfor, Option.some_or] at ha ha'
    rw [hnone h, Option.toList_none, List.append_nil] at hvapps
    rw [hnone h', Option.toList_none, List.append_nil] at hvapps'
    refine ⟨.refl _, fun _ _ => rfl, fun _ _ => rfl, ?_, fun q => ?_⟩
    · cases ha.symm.trans ha'
      rfl
    · rw [hvapps, hvapps']
      exact List.forall₂_same.2 fun b _ => .of_spares rfl
  | none =>
    rw [hfor, Option.none_or] at ha ha'
    obtain ⟨-, -, hid, hin, v, name, t, hv, hname, hrow⟩ := h.vapp a ha
    obtain ⟨-, -, hid', hin', v', name', t', hv', hname', hrow'⟩ := h'.vapp a' ha'
    cases hv.symm.trans hv'
    cases hname.symm.trans hname'
    -- Nothing in the store had either identity, so that the swap leaves it alone.
    have hspared : ∀ b ∈ s.vapps, Equiv.swap a.id a'.id b.id = b.id := fun b hb =>
      Equiv.swap_apply_of_ne_of_ne (hid b hb) (hid' b hb)
    refine ⟨Equiv.swap a.id a'.id, hspared, fun r hr => ?_, Equiv.swap_apply_left _ _,
      fun q => ?_⟩
    · exact Equiv.swap_apply_of_ne_of_ne (hin r hr) (hin' r hr)
    · rw [hvapps, hvapps', ha, ha']
      have halike := VApp.Alike.vappRow ⟨Equiv.swap a.id a'.id, q⟩ a.id t t' (vm.newVApp v.id name)
      rw [← hrow, Equiv.swap_apply_left, ← hrow'] at halike
      exact List.rel_append (List.forall₂_same.2 fun b hb => .of_spares (hspared b hb))
        (.cons halike .nil)

/-- Where a machine gets its row twice, in two worlds, they are alike. -/
theorem Grown.alike (h : Grown vm [vm] s a? r? g) (h' : Grown vm [vm] s a'? r'? g')
    (hx : g.store.rowOf? vm = some x) (hx' : g'.store.rowOf? vm = some x') :
    ∃ ρ : Renaming, ρ.Spares s ∧
      List.Forall₂ (VApp.Alike ρ) g.store.vapps g'.store.vapps ∧
      List.Forall₂ (Vm.Alike ρ) g.store.vms g'.store.vms ∧ Vm.Alike ρ x x' := by
  have hviews : ∀ seen ∈ [vm], seen.Resembles vm := fun _ => .of_mem_singleton
  cases hrow : s.rowOf? vm with
  | some z =>
    obtain ⟨-, -, hs⟩ := h.store_eq hrow
    obtain ⟨-, -, hs'⟩ := h'.store_eq hrow
    rw [hs] at hx
    rw [hs'] at hx'
    cases hx.symm.trans hx'
    rw [hs, hs']
    exact ⟨.same, Renaming.same_spares s, List.forall₂_same.2 fun _ _ => .of_spares rfl,
      List.forall₂_same.2 fun _ _ => .of_spares ⟨rfl, rfl⟩, .of_spares ⟨rfl, rfl⟩⟩
  | none =>
    rw [h.rowOf? hviews, hrow, Option.none_or] at hx
    rw [h'.rowOf? hviews, hrow, Option.none_or] at hx'
    obtain ⟨-, hid, a, seen, t, ha, hseen, hmade⟩ := h.row x hx
    obtain ⟨-, hid', a', seen', t', ha', hseen', hmade'⟩ := h'.row x' hx'
    rw [List.mem_singleton.1 hseen] at hmade
    rw [List.mem_singleton.1 hseen'] at hmade'
    obtain ⟨p, hvapps, hvms, hp, hall⟩ := h.vapps_alike h' ha ha'
    have hspared : ∀ r ∈ s.vms, Equiv.swap x.id x'.id r.id = r.id ∧ p r.vappId = r.vappId :=
      fun r hr => ⟨Equiv.swap_apply_of_ne_of_ne (hid r hr) (hid' r hr), hvms r hr⟩
    have halike := Vm.Alike.vmRow ⟨p, Equiv.swap x.id x'.id⟩ x.id a.id t t' vm
    rw [← hmade, Equiv.swap_apply_left, hp, ← hmade'] at halike
    refine ⟨⟨p, Equiv.swap x.id x'.id⟩, ⟨hvapps, hspared⟩, hall _, ?_, halike⟩
    rw [h.vms, h'.vms, hx, hx']
    exact List.rel_append (List.forall₂_same.2 fun r hr => .of_spares (hspared r hr))
      (.cons halike .nil)

end World

/-- Tables that are alike stay so where rows that are alike are changed alike. -/
theorem Store.forall₂_mapVms {ρ : Renaming} {s s' : Store} {x x' : Vm} {f f' : Vm → Vm}
    (h : List.Forall₂ (Vm.Alike ρ) s.vms s'.vms) (hs : s.Unique) (hs' : s'.Unique)
    (hx : x ∈ s.vms) (hx' : x' ∈ s'.vms) (halike : Vm.Alike ρ x x') (hf : Vm.Touch x.id f)
    (hf' : Vm.Touch x'.id f') (hfx : Vm.Alike ρ (f x) (f' x')) :
    List.Forall₂ (Vm.Alike ρ) (s.mapVms f).vms (s'.mapVms f').vms := by
  have hid : ∀ {r q}, Vm.Alike ρ r q → q.id = ρ.vm r.id := by
    intro r q hrq
    rw [hrq]
  obtain ⟨hlen, hzip⟩ := List.forall₂_iff_zip.1 h
  refine List.forall₂_map_left_iff.2 (List.forall₂_map_right_iff.2 ?_)
  refine List.forall₂_iff_zip.2 ⟨hlen, fun {r q} hrq => ?_⟩
  obtain ⟨hr, hq⟩ := List.of_mem_zip hrq
  have hpair := hzip hrq
  -- A renaming is injective, so that the rows that are changed stand at the same place.
  by_cases he : r.id = x.id
  · have heq : q.id = x'.id := by rw [hid hpair, he, hid halike]
    rw [hs.vmId r hr x hx he, hs'.vmId q hq x' hx' heq]
    exact hfx
  · have hne : q.id ≠ x'.id := by
      rw [hid hpair, hid halike]
      exact fun heq => he (ρ.vm.injective heq)
    rw [hf.other r he, hf'.other q hne]
    exact hpair

/-- Machines that are stamped alike have labels that are alike. -/
theorem VirtualMachine.label?_stamped_renamed (vm : VirtualMachine) (ρ : Renaming) (id : Uuid)
    (name : String) : (vm.stamped (ρ.vapp id)).metadata.label? name =
      ((vm.stamped id).metadata.label? name).map (ρ.label name) := by
  by_cases hname : name = Vocabulary.vappIdLabel
  · subst hname
    unfold VirtualMachine.stamped
    rw [Metadata.label?_setLabel, Metadata.label?_setLabel, if_pos rfl, if_pos rfl,
      Option.map_some, ρ.label_render]
  · rw [vm.label?_stamped _ hname, vm.label?_stamped _ hname]
    cases vm.metadata.label? name with
    | none => rfl
    | some text => rw [Option.map_some, ρ.label_of_ne hname]

namespace Origin

variable {o : Origin} {ids : IdSource} {x x' : Vm} {w w' : World} {t t' : Timestamp}

/-- The same start, with other identities to come. -/
def withIds (o : Origin) (ids : IdSource) : Origin := ⟨{ o.world with ids }, o.machine⟩

/-- The machine has a row at the start, or it has none. -/
theorem start_cases (hw : o.world.Orderly 1 1)
    (hvm : o.world.cluster.vms.get? o.key = some o.machine) :
    o.Unbound o.machine o.world ∨ ∃ x, o.Bound x o.machine x o.world := by
  have hcluster : o.world.cluster = o.world.cluster.showing o.key o.machine :=
    (Cluster.showing_of_get? hvm).symm
  have hgrown : World.Grown o.named [o.named] o.world.store none none o.world :=
    .refl hw.unique fun _ => ⟨hw.vapps, hw.vms⟩
  cases hrow : o.world.store.rowOf? o.named with
  | none => exact .inl ⟨⟨hcluster, .inl rfl⟩, hrow, none, hgrown⟩
  | some x =>
    have hstore : o.world.store = o.world.store.mapVms fun r => r := by simp [Store.mapVms]
    exact .inr ⟨x, ⟨hcluster, .inl rfl⟩,
      ⟨o.world, none, none, _, hgrown, hrow, .refl x.id, rfl, hstore⟩, .refl x⟩

theorem underway_start (hw : o.world.Orderly 1 1)
    (hvm : o.world.cluster.vms.get? o.key = some o.machine) : o.Underway o.world := by
  rcases start_cases hw hvm with h | ⟨x, h⟩
  · exact .inl ⟨_, h⟩
  · exact .inr ⟨x, _, x, h⟩

/-- Rows that passes wrote are alike. -/
theorem Bound.alike
    (h : o.Bound x (o.named.stamped x.vappId) (x.settled o.status o.facts t) w)
    (h' : (o.withIds ids).Bound x' (o.named.stamped x'.vappId)
      (x'.settled o.status o.facts t') w') :
    ∃ ρ : Renaming, ρ.Spares o.world.store ∧ w.Alike ρ o.key w' := by
  obtain ⟨g, a?, r?, f, hg, hx, hf, hfx, hstore⟩ := h.rows
  obtain ⟨g', a'?, r'?, f', hg', hx', hf', hfx', hstore'⟩ := h'.rows
  obtain ⟨ρ, hspares, hvapps, hvms, halike⟩ := hg.alike hg' hx hx'
  obtain ⟨hmem, -⟩ := Store.rowOf?_cases hx
  obtain ⟨hmem', -⟩ := Store.rowOf?_cases hx'
  have hwritten : Vm.Alike ρ (f x) (f' x') := by
    rw [hfx, hfx']
    exact halike.settled _ _ t t'
  have hvapp : x'.vappId = ρ.vapp x.vappId := by rw [halike]
  refine ⟨ρ, hspares, ?_, ?_, _, _, h.shown.get?, h'.shown.get?, ?_⟩
  · rw [hstore, hstore']
    exact hvapps
  · rw [hstore, hstore']
    exact Store.forall₂_mapVms hvms hg.unique hg'.unique hmem hmem' halike hf hf' hwritten
  · intro name
    rw [hvapp]
    exact o.named.label?_stamped_renamed ρ x.vappId name

/-- For a machine that is not managed nothing is made. -/
theorem Unbound.store_eq (h : o.Unbound o.named w) {reason : String}
    (hwhy : o.world.store.unmanaged? o.named = some reason) :
    w.store.vapps = o.world.store.vapps ∧ w.store.vms = o.world.store.vms := by
  obtain ⟨a?, hg⟩ := h.grown
  have ha : a? = none := by
    cases ha : a? with
    | none => rfl
    | some a =>
      obtain ⟨-, hknown, -, -, v, name, t, hv, hname, -⟩ := hg.vapp a ha
      simp [Store.unmanaged?, hknown, hname, hv] at hwhy
  have hvapps := hg.vapps
  rw [ha] at hvapps
  exact ⟨hvapps.trans (List.append_nil _), hg.vms.trans (List.append_nil _)⟩

theorem Bound.managed {vm : VirtualMachine} {y : Vm} (h : o.Bound x vm y w) :
    o.world.store.unmanaged? o.named = none := by
  obtain ⟨g, a?, r?, f, hg, hx, -⟩ := h.rows
  exact hg.managed (fun _ => .of_mem_singleton) hx

/-- Passes that finish finish alike. -/
theorem Finished.alike (h : o.Finished w) (h' : (o.withIds ids).Finished w') :
    ∃ ρ : Renaming, ρ.Spares o.world.store ∧ w.Alike ρ o.key w' := by
  rcases h with ⟨x, t, h⟩ | ⟨h, reason, hwhy⟩
  · rcases h' with ⟨x', t', h'⟩ | ⟨-, reason, hwhy⟩
    · exact h.alike h'
    · cases h.managed.symm.trans hwhy
  · rcases h' with ⟨x', t', h'⟩ | ⟨h', -⟩
    · cases h'.managed.symm.trans hwhy
    · obtain ⟨hvapps, hvms⟩ := h.store_eq hwhy
      obtain ⟨hvapps', hvms'⟩ := h'.store_eq hwhy
      refine ⟨.same, Renaming.same_spares _, ?_, ?_, _, _, h.shown.get?, h'.shown.get?,
        fun name => ?_⟩
      · rw [hvapps, hvapps']
        exact List.forall₂_same.2 fun _ _ => .of_spares rfl
      · rw [hvms, hvms']
        exact List.forall₂_same.2 fun _ _ => .of_spares ⟨rfl, rfl⟩
      · have hsame : Renaming.same.label name = id := funext (Renaming.same_label name)
        rw [hsame, Option.map_id]
        rfl

end Origin

/-! ## Passes one after the other -/

namespace World

/-- One pass for the machine that the cluster shows under a key, from its start to its end. -/
def Passes (flaky : Prop) (settings : Settings) (key : ObjectKey) (w w' : World)
    (r : Result Unit) : Prop :=
  ∃ vm, w.cluster.vms.get? key = some vm ∧
    Relation.ReflTransGen (Pass.Step (Responds flaky))
      ((Reconcile.virtualMachine settings vm).run, w) (.done r, w')

/-- Answers calls out of a world, but those with certain names, which fail. -/
def failing (names : List String) : Handler World where
  answer c w := if names.contains c.name then (.error (.database "broken"), w) else perform c w
  now := World.now

theorem responds_failing (flaky : Prop) {names : List String} (hnames : names = [] ∨ flaky)
    (c : Call) (w : World) :
    Responds flaky c w ((failing names).answer c w).1 ((failing names).answer c w).2 := by
  by_cases hc : names.contains c.name
  · have hflaky : flaky := by
      refine hnames.resolve_left fun hnil => ?_
      rw [hnil] at hc
      cases hc
    have hanswer : (failing names).answer c w = (.error (.database "broken"), w) := if_pos hc
    rw [hanswer]
    exact .failed c w _ hflaky
  · have hanswer : (failing names).answer c w = perform c { w with now := w.now } := if_neg hc
    rw [hanswer]
    exact .carried c w w.now

theorem passes_failing (flaky : Prop) (names : List String) (hnames : names = [] ∨ flaky)
    (settings : Settings) {key : ObjectKey} {w : World} {vm : VirtualMachine}
    (hvm : w.cluster.vms.get? key = some vm) :
    let ran := (Reconcile.virtualMachine settings vm).run.run (failing names) w
    w.Passes flaky settings key ran.state ran.value :=
  ⟨vm, hvm, Pass.steps_run (responds_failing flaky hnames) _ w⟩

/-- Passes, one after the other, in which any call may fail. -/
def Retried (settings : Settings) (key : ObjectKey) : World → World → Prop :=
  Relation.ReflTransGen fun w w' => ∃ r, w.Passes True settings key w' r

end World

namespace Origin

variable {o : Origin} {settings : Settings} {flaky : Prop} {w w' : World} {r : Result Unit}

theorem Underway.unique (h : o.Underway w) : w.store.Unique := by
  rcases h with ⟨vm, h⟩ | ⟨x, vm, y, h⟩
  · obtain ⟨a?, hg⟩ := h.grown
    exact hg.unique
  · exact h.unique

theorem Underway.get? (h : o.Underway w) : ∃ vm, w.cluster.vms.get? o.key = some vm := by
  rcases h with ⟨vm, h⟩ | ⟨x, vm, y, h⟩
  · exact ⟨vm, h.shown.get?⟩
  · exact ⟨vm, h.shown.get?⟩

/-- What a pass comes to, whatever was done before it. -/
theorem Underway.passes (h : o.Underway w) (hp : w.Passes flaky settings o.key w' r) :
    o.Underway w' ∧ (flaky ∨ r = .ok () ∧ o.Finished w') := by
  obtain ⟨vm, hvm, hwalk⟩ := hp
  have htries : (Reconcile.virtualMachine settings vm).Tries flaky
      (fun _ w' => o.Underway w' ∧ (flaky ∨ o.Finished w')) o.Underway w :=
    h.virtualMachine_tries hvm settings
  have hend := Pass.Always.walk htries hwalk
  cases r with
  | ok u => exact ⟨hend.1, hend.2.imp_right fun hdone => ⟨rfl, hdone⟩⟩
  | error e => exact ⟨hend.2, .inl hend.1⟩

theorem Underway.retried (h : o.Underway w) (hr : w.Retried settings o.key w') :
    o.Underway w' := by
  induction hr with
  | refl => exact h
  | tail _ hp ih =>
    obtain ⟨r, hp⟩ := hp
    exact (ih.passes hp).1

end Origin

namespace Reconcile

open World

/-- **Retries are confluent.** After passes in which any call may fail, each pass for the machine as
the cluster shows it then, the rows are unique still, and a pass in which no call fails can be made.
It succeeds, and the vApps, the rows and the labels are what one pass without failures makes of the
world at the start, but for the identities that were drawn and the times. -/
theorem retries_converge {settings : Settings} {w w₁ : World} {ids : IdSource}
    {vm : VirtualMachine} (hvm : w.cluster.vms.get? vm.key = some vm) (hw : w.Orderly 1 1)
    (hids : ({ w with ids } : World).Orderly 1 1) (hfail : w.Retried settings vm.key w₁) :
    w₁.store.Unique ∧ (∃ w₂, w₁.Passes False settings vm.key w₂ (.ok ())) ∧
    ∀ w₂ r w₃ r', w₁.Passes False settings vm.key w₂ r →
      ({ w with ids } : World).Passes False settings vm.key w₃ r' →
      r = .ok () ∧ r' = .ok () ∧
        ∃ ρ : Renaming, ρ.Spares w.store ∧ w₂.Alike ρ vm.key w₃ := by
  -- Both worlds have one origin, so that their ends can be compared there.
  let o : Origin := ⟨w, vm⟩
  have hunder : o.Underway w₁ := (Origin.underway_start (o := o) hw hvm).retried hfail
  have hfresh : (o.withIds ids).Underway { w with ids } :=
    Origin.underway_start (o := o.withIds ids) hids hvm
  refine ⟨hunder.unique, ?_, fun w₂ r w₃ r' hlast honce => ?_⟩
  · obtain ⟨vm', hvm'⟩ := hunder.get?
    obtain ⟨r, w₂, hwalk⟩ := Pass.exists_end (exists_responds False)
      (virtualMachine settings vm').run w₁
    have hlast : w₁.Passes False settings o.key w₂ r := ⟨vm', hvm', hwalk⟩
    obtain ⟨-, hf | ⟨rfl, -⟩⟩ := hunder.passes hlast
    · exact hf.elim
    · exact ⟨w₂, hlast⟩
  · obtain ⟨-, hf | ⟨rfl, hdone⟩⟩ := hunder.passes hlast
    · exact hf.elim
    obtain ⟨-, hf | ⟨rfl, hdone'⟩⟩ := hfresh.passes honce
    · exact hf.elim
    exact ⟨rfl, rfl, hdone.alike hdone'⟩

/-- A machine that a template made; its vApp has no name on the label yet. -/
def fromTemplate : VirtualMachine where
  metadata := {
    name := some "web-0"
    ns := some "tenant-a"
    labels := some (.single Vocabulary.templateInstanceOwnerLabel "ti-1") }
  spec := ⟨some true, none, none⟩
  status := none

/-- A world where neither its vApp nor its row is there yet. -/
def untouched : World :=
  { undiscovered with
    cluster := {
      vms := .single fromTemplate.key fromTemplate
      templateInstances := .single ⟨"tenant-a", "web"⟩
        ⟨{ name := some "web", ns := some "tenant-a", uid := some "ti-1" }, ⟨none⟩, none⟩ } }

/-- The world after a pass in which certain calls fail. -/
def afterFailing (names : List String) (vm : VirtualMachine) (w : World) : World :=
  ((virtualMachine {} vm).run.run (failing names) w).state

/-- The vApp is made, but no row. -/
def halfway : World := afterFailing ["create_vm"] fromTemplate untouched

/-- The machine as it is seen after that. -/
def fromTemplateNamed : VirtualMachine :=
  { fromTemplate with
    metadata := fromTemplate.metadata.setLabel Vocabulary.vappNameLabel "web" }

/-- The row is made, but its vApp is not on the label. -/
def unstamped : World :=
  afterFailing ["set_virtual_machine_label"] fromTemplateNamed halfway

/-- The world at the start with other identities to come. -/
def untouchedElsewhere : World :=
  { untouched with ids := ⟨fun n => .ofNat (30 + n), fun n => .ofNat (40 + n), 0, 0⟩ }

theorem unstamped_retried : untouched.Retried {} fromTemplate.key unstamped := by
  have hfirst := passes_failing True ["create_vm"] (.inr trivial) {}
    (show untouched.cluster.vms.get? fromTemplate.key = some fromTemplate from rfl)
  have hsecond := passes_failing True ["set_virtual_machine_label"] (.inr trivial) {}
    (show halfway.cluster.vms.get? fromTemplate.key = some fromTemplateNamed from rfl)
  exact .tail (.single ⟨_, hfirst⟩) ⟨_, hsecond⟩

/-- Two passes fail, each at another place, and a third one finishes. -/
theorem interrupted_retries_converge :
    halfway.store.vapps.length = 1 ∧ halfway.store.vms = [] ∧
    (unstamped.cluster.vms.get? fromTemplate.key).bind (·.labelledVAppId?) = none ∧
    ∃ ρ : Renaming, ρ.Spares untouched.store ∧
      (afterFailing [] fromTemplateNamed unstamped).Alike ρ fromTemplate.key
        (afterFailing [] fromTemplate untouchedElsewhere) := by
  have hids : untouchedElsewhere.Orderly 1 1 :=
    ⟨by decide, ⟨by decide, by decide, by decide⟩, ⟨by decide, by decide⟩⟩
  have hw : untouched.Orderly 1 1 :=
    ⟨by decide, ⟨by decide, by decide, by decide⟩, ⟨by decide, by decide⟩⟩
  have hlast := passes_failing False [] (.inl rfl) {}
    (show unstamped.cluster.vms.get? fromTemplate.key = some fromTemplateNamed from rfl)
  have honce := passes_failing False [] (.inl rfl) {}
    (show untouchedElsewhere.cluster.vms.get? fromTemplate.key = some fromTemplate from rfl)
  have hvm : untouched.cluster.vms.get? fromTemplate.key = some fromTemplate := rfl
  obtain ⟨-, -, hall⟩ := retries_converge hvm hw hids unstamped_retried
  obtain ⟨-, -, halike⟩ := hall _ _ _ _ hlast honce
  exact ⟨rfl, rfl, rfl, halike⟩

end Reconcile

end TenantCloud
