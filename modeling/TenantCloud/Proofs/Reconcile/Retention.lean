import TenantCloud.Proofs.Reconcile.Histories
import TenantCloud.Proofs.Reconcile.Provenance
import TenantCloud.Proofs.VirtualMachine.Facts

/-!
# Rows of machines over time

In a run of passes of all controllers, one after the other, the rows of machines stay, and what they
hold is lost in no step (`VmTable.Retains`): instances come and go as they like, calls fail or their
answers get lost, and passes break off. A pass writes facts only to the row that it read, which
holds the facts that it read until then (`Reconcile.Recorded`), so that what it writes is fit to be
stored there (`Errand.attempt_retains`). Over a whole run, rows retain what they hold
(`Episode.rows_retain`).
-/

set_option autoImplicit false

namespace TenantCloud

/-- What becomes of the table of machines in a step: a row stays and retains what it holds, and a
new one has no facts. -/
structure VmTable.Retains (t t' : Table Vm) : Prop where
  kept : ∀ id r, Table.get? t id = some r → ∃ r', Table.get? t' id = some r' ∧ r.Retains r'
  made : ∀ id r, Table.get? t id = none → Table.get? t' id = some r → r.facts = ⟨none, none, none⟩

theorem VmTable.Retains.refl (t : Table Vm) : VmTable.Retains t t :=
  ⟨fun _ r hr => ⟨r, hr, .refl r⟩, fun _ _ hnone hr => by rw [hnone] at hr; cases hr⟩

/-- Facts that the call writes are fit to be stored, and the word for an unknown system takes no
other's place. -/
def Call.Retains : Call → World → Prop
  | .store (.updateVmData id change), w => change.IsSound ∧
      ∀ r ∈ w.store.vms, r.id = id → r.guestOs.isSome = true →
        change.guestOs ≠ some VmFacts.unknownGuestOs
  | _, _ => True

theorem Call.IsModest.retains {c : Call} (h : c.IsModest) (w : World) : c.Retains w := by
  cases c with
  | cluster c => trivial
  | store c => cases c <;> trivial

/-- What is retained depends on the rows alone. -/
theorem Call.Retains.congr {c : Call} {w w' : World} (h : c.Retains w)
    (hw : w'.store = w.store) : c.Retains w' := by
  cases c with
  | cluster c => trivial
  | store c =>
    cases c with
    | updateVmData id change => exact ⟨h.1, hw ▸ h.2⟩
    | _ => trivial

namespace World

/-- The identity that a machine would get next is new. -/
def DrawsNewVm (w : World) : Prop := ∀ r ∈ w.store.vms, r.id ≠ w.ids.nextVm

instance (w : World) : Decidable w.DrawsNewVm :=
  inferInstanceAs (Decidable (∀ r ∈ w.store.vms, r.id ≠ w.ids.nextVm))

/-- A call is carried out at some time, with whatever the cluster shows then, where an identity that
it would take is new; or it is carried out and its answer gets lost; or it fails. -/
inductive Serves : Responses World
  | carried (c : Call) (w w₁ : World) : w₁.store = w.store → w₁.DrawsNewVm →
      Serves c w (perform c w₁).1 (perform c w₁).2
  | lost (c : Call) (w w₁ : World) (e : Error) : w₁.store = w.store → w₁.DrawsNewVm →
      Serves c w (.error e) (perform c w₁).2
  | failed (c : Call) (w : World) (e : Error) : Serves c w (.error e) w

variable {w w' : World} {c : Call}

/-- A creation takes the next identity, or fails for a row that is there. -/
theorem perform_createVm_cases (h : w.DrawsNewVm) (new : NewVm) :
    ((perform (.store (.createVm new)) w).2 = w ∧
      ∃ e, (perform (.store (.createVm new)) w).1 = .error e) ∨
    perform (.store (.createVm new)) w = (.ok (Store.vmRow w.ids.nextVm w.now new),
      w.addVm (Store.vmRow w.ids.nextVm w.now new)) := by
  cases hclash : w.store.vms.any (Store.clashesVm new) with
  | true =>
    rw [perform_createVm_of_clash hclash]
    exact .inl ⟨rfl, _, rfl⟩
  | false => exact .inr (perform_createVm_of_free h hclash)

theorem retains_addVm (new : NewVm) : VmTable.Retains w.store.vms
    (w.addVm (Store.vmRow w.ids.nextVm w.now new)).store.vms := by
  refine ⟨fun id r hr => ⟨r, ?_, .refl r⟩, fun id r hnone hr => ?_⟩
  · exact (Table.get?_concat _).trans (by rw [hr, Option.some_or])
  · have hget := (Table.get?_concat _).symm.trans hr
    rw [hnone, Option.none_or] at hget
    split at hget
    · cases hget
      rfl
    · cases hget

/-- Rows that are changed one by one, and retain what they hold. -/
theorem retains_amend {t : Table Vm} {id : Uuid} {f : Vm → Vm} (hf : ∀ r, (f r).id = r.id)
    (hretains : ∀ r ∈ t, r.id = id → r.Retains (f r)) :
    VmTable.Retains t (Table.amend t id f) := by
  have hget : ∀ id', Table.get? (Table.amend t id f) id' =
      (Table.get? t id').map fun r => if Row.rowId r == id then f r else r :=
    fun _ => Table.get?_amend hf id
  refine ⟨fun id' r hr => ?_, fun id' r hnone hr => ?_⟩
  · rw [hget, hr]
    refine ⟨_, rfl, ?_⟩
    dsimp only
    split
    · rename_i hid
      exact hretains r (Table.get?_eq_some hr).1 (beq_iff_eq.1 hid)
    · exact .refl r
  · rw [hget, hnone] at hr
    cases hr

/-- What a call does to the machines where what it writes is fit to be stored. -/
theorem retains_perform (hnew : w.DrawsNewVm) (hid : Table.Distinct w.store.vms Vm.id)
    (hc : c.Retains w) : VmTable.Retains w.store.vms (perform c w).2.store.vms ∧
      Table.Distinct (perform c w).2.store.vms Vm.id := by
  have hsame : ∀ w' : World, w'.store.vms = w.store.vms →
      VmTable.Retains w.store.vms w'.store.vms ∧ Table.Distinct w'.store.vms Vm.id := by
    intro w' hvms
    rw [hvms]
    exact ⟨.refl _, hid⟩
  cases c with
  | cluster c => exact hsame _ (congrArg Store.vms (store_performCluster c w))
  | store c =>
    cases c with
    | createVm new =>
      rcases perform_createVm_cases hnew new with ⟨hmade, -⟩ | hmade
      · rw [hmade]
        exact hsame w rfl
      · rw [hmade]
        exact ⟨retains_addVm new, hid.concat hnew⟩
    | updateVmStatus id status =>
      refine ⟨retains_amend (fun _ => rfl) fun r _ _ => ?_, hid.amend fun _ => rfl⟩
      exact ⟨rfl, rfl, rfl, rfl, rfl, rfl, .inl rfl, .inl rfl, .inl rfl⟩
    | updateVmData id change =>
      refine ⟨retains_amend (fun _ => rfl) fun r hr hrid => ?_, hid.amend fun _ => rfl⟩
      exact Vm.retains_withFacts hc.1 (hc.2 r hr hrid)
    | createVApp new =>
      refine hsame _ ?_
      show (performStore w (.createVApp new)).2.store.vms = _
      simp only [performStore, Store.createVApp]
      split
      · rename_i hmade
        split at hmade
        · cases hmade
        · cases hmade
          rfl
      · rfl
    | _ => exact hsame _ rfl

/-- What becomes of the machines where a call is answered. -/
theorem Serves.retains {r : Result c.Answer} (h : Serves c w r w')
    (hid : Table.Distinct w.store.vms Vm.id) (hc : c.Retains w) :
    VmTable.Retains w.store.vms w'.store.vms ∧ Table.Distinct w'.store.vms Vm.id := by
  have hperform : ∀ w₁ : World, w₁.store = w.store → w₁.DrawsNewVm →
      VmTable.Retains w.store.vms (perform c w₁).2.store.vms ∧
        Table.Distinct (perform c w₁).2.store.vms Vm.id := by
    intro w₁ hstore hnew
    rw [← hstore] at hid ⊢
    exact retains_perform hnew hid (hc.congr hstore)
  cases h with
  | carried _ _ w₁ hstore hnew => exact hperform w₁ hstore hnew
  | lost _ _ w₁ e hstore hnew => exact hperform w₁ hstore hnew
  | failed => exact ⟨.refl _, hid⟩

/-- Without a failure the call was carried out. -/
theorem Serves.performed {r : Result c.Answer} (h : Serves c w r w') :
    ∀ v, r = .ok v → ∃ w₁, perform c w₁ = (.ok v, w') := by
  intro v hv
  cases h with
  | carried _ _ w₁ => exact ⟨w₁, Prod.ext hv rfl⟩
  | lost => cases hv
  | failed => cases hv

end World

/-! ## Passes for machines -/

/-- A call that changes no facts of a machine, and makes none. -/
def Call.SparesFacts : Call → Prop
  | .store (.updateVmStatus ..) | .cluster _ => True
  | _ => False

theorem Call.SparesFacts.retains {c : Call} (h : c.SparesFacts) (w : World) : c.Retains w := by
  cases c with
  | cluster c => trivial
  | store c => cases c <;> trivial

namespace Reconcile

open Attempt World

variable {w w' : World}

/-- A row of the table is the one that a pass knows, with the facts that it knows. -/
def Recorded (row : Vm) (w : World) : Prop :=
  ∀ r ∈ w.store.vms, r.id = row.id → r.facts = row.facts

/-- Where identities are distinct, a row that is there is the one with its identity. -/
theorem recorded_of_mem {row : Vm} (hid : Table.Distinct w.store.vms Vm.id)
    (hrow : row ∈ w.store.vms) : Recorded row w := by
  intro r hr hsame
  rw [hid r hr row hrow hsame]

theorem Recorded.served {row : Vm} (h : Recorded row w) {c : Call} (hc : c.SparesFacts)
    {r : Result c.Answer} (hr : Serves c w r w') : Recorded row w' := by
  have hperform : ∀ w₁ : World, w₁.store = w.store → Recorded row (perform c w₁).2 := by
    intro w₁ hstore
    rw [Recorded, ← hstore] at h
    cases c with
    | cluster c =>
      have hsame : (perform (.cluster c) w₁).2.store = w₁.store := store_performCluster c w₁
      rw [Recorded, hsame]
      exact h
    | store c =>
      cases c with
      | updateVmStatus id status =>
        intro r hr hid
        obtain ⟨x, hx, rfl⟩ := List.mem_map.1 hr
        have hfacts := h x hx (by split at hid <;> exact hid)
        split <;> exact hfacts
      | _ => exact hc.elim
  cases hr with
  | carried _ _ w₁ hstore => exact hperform w₁ hstore
  | lost _ _ w₁ e hstore => exact hperform w₁ hstore
  | failed => exact h

theorem supplies_mem (vm : VirtualMachine) : Supplies Serves Call.Retains
    (fun w => Table.Distinct w.store.vms Vm.id)
    (fun row w => row ∈ w.store.vms ∧ row.vmName = vm.name) vm :=
  supplies_of_performed vm (fun hc _ => hc.isModest.retains _)
    (fun hc hid hr => (hr.retains hid (hc.isModest.retains _)).2) fun hr => hr.performed _ rfl

/-! ### Its facts -/

/-- What a pass writes to a row it knows is fit to be stored. -/
theorem vmFacts_retains {row : Vm} (vm : VirtualMachine) (h : Recorded row w) :
    (vmFacts vm row).Always Serves Call.Retains (fun _ _ => True) (fun _ => True) w := by
  refine .bind (.call trivial fun r w' hr => ?_)
  have hrow := h.served (c := .cluster (.getVirtualMachineInstance vm.ns vm.name)) trivial hr
  cases r with
  | error e => trivial
  | ok vmi =>
    dsimp only [Ends]
    split
    · trivial
    · rename_i change hchange
      obtain ⟨hsound, hknown⟩ := VmFacts.isSound_of_change? hchange
      refine .bind ⟨⟨hsound, fun r hr hid hsome => hknown ?_⟩, fun r w'' _ => ?_⟩
      · rw [← hrow r hr hid]
        exact hsome
      · cases r with
        | ok there => cases there <;> trivial
        | error e => trivial

/-- Neither the label nor the status of a machine bears on its facts. -/
theorem vmRow_retains {row : Vm} (settings : Settings) (vm : VirtualMachine) (h : Recorded row w) :
    (vmRow settings vm row).Always Serves Call.Retains (fun _ _ => True) (fun _ => True) w := by
  have hspares : ∀ {α : Type} {a : Attempt α} {w}, a.Makes Call.SparesFacts → Recorded row w →
      a.Always Serves Call.Retains (fun _ => Recorded row) (Recorded row) w :=
    fun ha hw => ha.guards (fun c s r s' hc hs hr => hs.served hc hr)
      (fun c s hc _ => hc.retains s) hw
  refine .bind ((hspares ((stampVAppId_makes vm row).mono ?_) h).weaken (fun _ w₁ hw₁ => ?_)
    fun _ _ => trivial)
  · rintro (c | c) hc
    · exact hc.elim
    · trivial
  refine .bind (.mono (.outcome (hspares ((vmStatus_makes settings vm row).mono ?_) hw₁))
    fun status w₂ hw₂ => ?_)
  · rintro _ rfl
    trivial
  refine .bind (.mono (.outcome (I := fun _ => True) (vmFacts_retains vm hw₂)) fun facts w₃ _ => ?_)
  cases status <;> cases facts <;> trivial

theorem virtualMachine_retains (settings : Settings) (vm : VirtualMachine)
    (hid : Table.Distinct w.store.vms Vm.id) :
    (virtualMachine settings vm).Always Serves Call.Retains (fun _ _ => True) (fun _ => True)
      w := by
  have hname := (deriveVAppName_makes vm).mono fun _ hc => hc.isFinding
  refine .bind (((supplies_mem vm).quiet hname hid).weaken (fun name w₁ hw₁ => ?_)
    fun _ _ => trivial)
  refine .bind (((supplies_mem _).resolve hw₁).weaken (fun res w₂ hw₂ => ?_) fun _ _ => trivial)
  cases res with
  | resolved row created => exact vmRow_retains settings _ (recorded_of_mem hw₂.1 (hw₂.2 row rfl).1)
  | notManaged reason => trivial

end Reconcile

/-- What a pass of any controller writes is fit to be stored. -/
theorem Errand.attempt_retains {w : World} (hid : Table.Distinct w.store.vms Vm.id) (e : Errand) :
    e.attempt.Always World.Serves Call.Retains (fun _ _ => True) (fun _ => True) w := by
  have hwrites : ∀ {a : Attempt Unit} {P}, a.Makes (Reconcile.WritesOnly P) →
      a.Always World.Serves Call.Retains (fun _ _ => True) (fun _ => True) w := by
    refine fun h => h.admits (fun c w hc => ?_) w
    rcases hc with ⟨r, rfl, hr⟩ | ⟨id, status, -, rfl⟩
    · cases r <;> trivial
    · trivial
  have hquiet : e.IsQuiet →
      e.attempt.Always World.Serves Call.Retains (fun _ _ => True) (fun _ => True) w :=
    fun h => h.makes.admits (fun c w hc => hc.retains w) w
  cases e with
  | machine settings vm => exact Reconcile.virtualMachine_retains settings vm hid
  | machineDeleted | sweep | owner => exact hquiet trivial
  | vapp ti => exact hwrites (Reconcile.vapp_makes ti)
  | templateInstanceDeleted ns name =>
    exact hwrites (Reconcile.templateInstanceDeleted_makes ns name)

/-! ## Runs -/

namespace Episode

/-- The row of a machine. -/
def vmRow? (m : Episode) (id : Uuid) : Option Vm := Table.get? m.world.store.vms id

/-- Between passes everything may change but the rows of machines. Calls may fail or lose their
answers, the cluster may show anything at each call, and a pass may break off anywhere. -/
inductive Follows : Episode → Episode → Prop
  | edit {w w' : World} : w'.store.vms = w.store.vms → Follows (idle w) (idle w')
  | start (e : Errand) {w : World} : Follows (idle w) (busy e e.attempt.run w)
  | go {e : Errand} {rest rest' : Pass (Result Unit)} {w w' : World} :
      Pass.Step World.Serves (rest, w) (rest', w') → Follows (busy e rest w) (busy e rest' w')
  | stop {e : Errand} {rest : Pass (Result Unit)} {w : World} : Follows (busy e rest w) (idle w)

/-- Identities are distinct, and what is left of a pass writes what is fit to be stored. -/
structure Careful (m : Episode) : Prop where
  distinct : Table.Distinct m.world.store.vms Vm.id
  retains : ∀ e rest w, m = busy e rest w →
    rest.Always World.Serves Call.Retains (fun _ _ => True) w

variable {m m' : Episode} {run : List Episode}

theorem Careful.next (h : m.Careful) (hn : Follows m m') : m'.Careful ∧
    VmTable.Retains m.world.store.vms m'.world.store.vms := by
  obtain ⟨hid, hretains⟩ := h
  cases hn with
  | edit hvms =>
    refine ⟨⟨?_, fun _ _ _ h => by cases h⟩, ?_⟩
    · unfold world
      rw [hvms]
      exact hid
    · unfold world
      rw [hvms]
      exact .refl _
  | start e =>
    refine ⟨⟨hid, fun _ _ _ h => ?_⟩, .refl _⟩
    cases h
    exact Pass.Always.mono (e.attempt_retains hid) (fun _ _ => id) fun _ _ _ => trivial
  | stop => exact ⟨⟨hid, fun _ _ _ h => by cases h⟩, .refl _⟩
  | @go e rest rest' w w' hstep =>
    have hnow := hretains e rest w rfl
    have hrest : rest'.Always World.Serves Call.Retains (fun _ _ => True) w' := hnow.step hstep
    have hchange : VmTable.Retains w.store.vms w'.store.vms ∧
        Table.Distinct w'.store.vms Vm.id := by
      cases hstep with
      | answer hr => exact hr.retains hid hnow.1
      | tell => exact ⟨.refl _, hid⟩
      | clock t => exact ⟨.refl _, hid⟩
    refine ⟨⟨hchange.2, fun _ _ _ h => ?_⟩, hchange.1⟩
    cases h
    exact hrest

/-- Each moment of a run is careful. -/
theorem careful_of_mem (h : run.IsChain Follows) {w : World} (hhead : run.head? = some (idle w))
    (hw : Table.Distinct w.store.vms Vm.id) : ∀ m ∈ run, m.Careful :=
  forall_mem_of_isChain h hhead ⟨hw, fun _ _ _ h => by cases h⟩ fun _ _ hm hn => (hm.next hn).1

/-- The rows of one moment are there in the other, with what they hold. -/
def Keeps (m m' : Episode) : Prop :=
  ∀ id r, m.vmRow? id = some r → ∃ r', m'.vmRow? id = some r' ∧ r.Retains r'

instance : Trans Keeps Keeps Keeps where
  trans h h' id r hr := by
    obtain ⟨r₁, hr₁, hretains⟩ := h id r hr
    obtain ⟨r₂, hr₂, hretains'⟩ := h' id r₁ hr₁
    exact ⟨r₂, hr₂, hretains.trans hretains'⟩

/-- **Rows of machines retain what they hold.** In a run of passes of all controllers, one after the
other, whatever the cluster shows, with calls that fail and passes that break off: a row stays, with
its identity, names, namespace, vApp and time of creation; no fact of it goes, and one that changes
becomes a positive number or a text that is not blank. A new row has no facts. What a pass is about
to write are positive numbers and texts that are not blank, and it writes the word for an unknown
guest operating system only where the row has none. -/
theorem rows_retain {w : World} (hw : Table.Distinct w.store.vms Vm.id)
    (h : run.IsChain Follows) (hhead : run.head? = some (idle w)) :
    (∀ m m' id r, [m, m'].Sublist run → m.vmRow? id = some r →
      ∃ r', m'.vmRow? id = some r' ∧ r.Retains r' ∧
        (r.cpuCount.isSome = true → r'.cpuCount.isSome = true) ∧
        (r.memory.isSome = true → r'.memory.isSome = true) ∧
        (r.guestOs.isSome = true → r'.guestOs.isSome = true)) ∧
    (∀ m m' id r, [m, m'] <:+: run → m.vmRow? id = none → m'.vmRow? id = some r →
      r.facts = ⟨none, none, none⟩) ∧
    ∀ e id change next w', busy e (.ask (.store (.updateVmData id change)) next) w' ∈ run →
      change.IsSound ∧ ∀ r ∈ w'.store.vms, r.id = id → r.guestOs.isSome = true →
        change.guestOs ≠ some VmFacts.unknownGuestOs := by
  have hcareful := careful_of_mem h hhead hw
  refine ⟨fun m m' id r hmm' hr => ?_, fun m m' id r hmm' hnone hr => ?_,
    fun e id change next w' hmem => ?_⟩
  · have hkeeps : run.IsChain Keeps :=
      h.imp_of_mem_imp fun m m' hm _ hn => ((hcareful m hm).next hn).2.kept
    have hpair := List.pairwise_iff_forall_sublist.1 hkeeps.pairwise hmm'
    obtain ⟨r', hr', hretains⟩ := hpair id r hr
    exact ⟨r', hr', hretains, hretains.isSome⟩
  · have hpair := List.IsChain.infix h hmm'
    have hn : Follows m m' := List.isChain_pair.1 hpair
    exact ((hcareful m (hmm'.subset List.mem_cons_self)).next hn).2.made id r hnone hr
  · exact ((hcareful _ hmem).retains e _ w' rfl).1

/-! ## A run -/

theorem Follows.passes : Passes World.DrawsNewVm World.Serves Follows where
  answers c w hw := .carried c w w rfl hw
  start e _ := .start e
  go _ _ _ hs := .go hs
  stop _ _ _ := .stop

/-- A world with an instance of the machine that reports this much. -/
def showing (status : InstanceStatus) (w : World) : World :=
  { w with
    cluster := { w.cluster with
      instances := .single ⟨"tenant-a", "web-0"⟩ ⟨{}, ⟨none⟩, some status⟩ } }

/-- The instance reports its processors, memory and guest operating system. -/
def telling : World := showing
  { phase := none
    cpuTopology := some ⟨some 2, none, none⟩
    memory := some ⟨some "2Gi", none⟩
    guestOs := some ⟨none, none, some "Fedora 40", none⟩ } Reconcile.undiscovered

/-- It reports another memory, more processors than a row can hold and no guest operating system. -/
def withholding (w : World) : World := showing
  { phase := none
    cpuTopology := some ⟨some 0, some 4294967295, none⟩
    memory := some ⟨some "4Gi", none⟩
    guestOs := none } w

/-- The pass for the machine. -/
def look : Errand := .machine {} (Reconcile.labelled .running)

/-- What two passes leave, with different reports. -/
def lookedAtTwice : World := after look (withholding (after look telling))

/-- A machine is discovered, its instance reports less, and it goes. -/
def observation : List Episode :=
  during look telling ++ (idle (after look telling) ::
    (during look (withholding (after look telling)) ++
      during (.machineDeleted "tenant-a" "web-0") lookedAtTwice))

theorem isChain_observation : observation.IsChain Follows :=
  Follows.passes.isChain_append (by decide)
    (.cons_cons (.edit rfl) (Follows.passes.isChain_append (by decide)
      (Follows.passes.isChain_during (by decide)) rfl)) rfl

/-- Only the memory changes again, and all that is known of the machine outlives it. -/
theorem observation_rows_retain :
    (observation.filterMap fun m => (m.vmRow? (.ofNat 20)).map Vm.facts).destutter (· ≠ ·) =
      [⟨none, none, none⟩, ⟨some 2, some 2048, some "Fedora 40"⟩,
        ⟨some 2, some 4096, some "Fedora 40"⟩] ∧
    ∀ m m' r, [m, m'].Sublist observation → m.vmRow? (.ofNat 20) = some r →
      ∃ r', m'.vmRow? (.ofNat 20) = some r' ∧ r.Retains r' ∧
        (r.guestOs.isSome = true → r'.guestOs.isSome = true) := by
  obtain ⟨hkept, -⟩ := rows_retain (w := telling) (by decide) isChain_observation rfl
  refine ⟨by decide, fun m m' r hmm' hr => ?_⟩
  obtain ⟨r', hr', hretains, -, -, hguest⟩ := hkept m m' _ r hmm' hr
  exact ⟨r', hr', hretains, hguest⟩

end Episode

end TenantCloud
