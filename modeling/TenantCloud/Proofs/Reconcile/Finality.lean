import TenantCloud.Proofs.Reconcile.Deployment

/-!
# vApps that are deleted stay deleted

The name of a vApp is taken once per virtual datacenter and for ever, and the lifecycle ends where a
vApp is deleted. So a machine that is discovered under the name of a deleted vApp is put into that
one, as under any name that is there (`Reconcile.resolve_enlists`), and no pass of any controller
brings the vApp back, whether or not a template instance has its name again
(`Episode.deleted_is_final`).
-/

set_option autoImplicit false

namespace TenantCloud

namespace Store

/-- The vApp is there, and it is the one of the machine from before or, where there was none, one
that is being instantiated. -/
def Offers (before : Store) (vm : VirtualMachine) (s : Store) (a : VApp) : Prop :=
  Table.get? s.vapps a.id = some a ∧
    (before.vappFor? vm = some a ∨ before.vappFor? vm = none ∧ a.status = .instantiating)

/-- What the look-up by a name would find is offered. -/
def OffersNamed (before : Store) (vm : VirtualMachine) (vdcId : Uuid) (name : String)
    (s : Store) : Prop := ∀ a, s.vappNamed? vdcId name = some a → before.Offers vm s a

/-- A row that the call makes for a machine goes into a vApp that is offered, which is deleted
exactly if that of the machine was before. -/
def Enlists (before : Store) (vm : VirtualMachine) (c : Call) (w : World) : Prop :=
  ∀ new, c = .store (.createVm new) → ∃ a, new.vappId = a.id ∧ before.Offers vm w.store a ∧
    (a.status = .deleted ↔ ∃ dead, before.vappFor? vm = some dead ∧ dead.status = .deleted)

variable {before s : Store} {vm : VirtualMachine} {a : VApp}

theorem Offers.deleted_iff (h : before.Offers vm s a) :
    a.status = .deleted ↔ ∃ dead, before.vappFor? vm = some dead ∧ dead.status = .deleted := by
  obtain ⟨-, hfor | ⟨hnone, hnew⟩⟩ := h
  · simp [hfor]
  · simp [hnone, hnew]

theorem vappFor?_eq_vappNamed? {v : Vdc} {name : String} (hv : s.vdcAt? vm.ns = some v)
    (hname : vm.labelledVAppName? = some name) : s.vappFor? vm = s.vappNamed? v.id name := by
  simp [vappFor?, vappAt?, hname, hv]

theorem offersNamed_refl {id : Uuid} {name : String} (hid : s.vapps.Distinct VApp.id)
    (hfor : s.vappFor? vm = s.vappNamed? id name) : s.OffersNamed vm id name s := by
  intro a ha
  obtain ⟨hmem, -⟩ := vappNamed?_eq_some ha
  exact ⟨hid.find? hmem fun _ => beq_iff_eq, .inl (hfor.trans ha)⟩

end Store

/-! ## The vApp of a new row -/

namespace World

/-- How a call may be answered where nobody else writes: it is carried out at some time, where an
identity that it would take is new, and its answer may get lost; or it finds and changes nothing; or
it fails. -/
inductive Replies : Responses World
  | carried (c : Call) (w : World) (ids : IdSource) (now : Timestamp) :
      DrawsNew { w with ids, now } →
      Replies c w (perform c { w with ids, now }).1 (perform c { w with ids, now }).2
  | lost (c : Call) (w : World) (ids : IdSource) (now : Timestamp) (e : Error) :
      DrawsNew { w with ids, now } → Replies c w (.error e) (perform c { w with ids, now }).2
  | missed (c : Call) (w : World) (a : c.Answer) : c.emptyAnswer? = some a → Replies c w (.ok a) w
  | failed (c : Call) (w : World) (e : Error) : Replies c w (.error e) w

variable {w w' : World}

theorem store_perform_read {c : Call} (hc : c.isWrite = false) (w : World) :
    (perform c w).2.store = w.store := by
  cases c with
  | cluster c => exact store_performCluster c w
  | store c => cases c <;> first | rfl | cases hc

theorem Replies.store_read {c : Call} {r : Result c.Answer} (h : Replies c w r w')
    (hc : c.isWrite = false) : w'.store = w.store := by
  cases h with
  | carried _ _ ids now => exact store_perform_read hc { w with ids, now }
  | lost _ _ ids now => exact store_perform_read hc { w with ids, now }
  | missed => rfl
  | failed => rfl

/-- What is more than nothing comes from the store or the cluster. -/
theorem Replies.performed {c : Call} {a : c.Answer} (h : Replies c w (.ok a) w')
    (ha : c.emptyAnswer? ≠ some a) : ∃ ids now, (perform c { w with ids, now }).1 = .ok a := by
  generalize hr : (Except.ok a : Result c.Answer) = r at h
  cases h with
  | carried _ _ ids now => exact ⟨ids, now, rfl⟩
  | lost => cases hr
  | missed _ _ a' hempty =>
    cases hr
    exact absurd hempty ha
  | failed => cases hr

/-- A creation leaves a vApp of that name that is offered, and it gives the one that it makes. -/
theorem offers_createVApp {vm : VirtualMachine} {id : Uuid} {name : String} (hnew : w.DrawsNew)
    (hid : Table.Distinct w.store.vapps VApp.id)
    (hfor : w.store.vappFor? vm = w.store.vappNamed? id name) :
    let x := perform (.store (.createVApp (vm.newVApp id name))) w
    w.store.OffersNamed vm id name x.2.store ∧
      ∀ a, x.1 = .ok a → w.store.Offers vm x.2.store a := by
  cases hclash : w.store.vapps.any (Store.clashesVApp (vm.newVApp id name)) with
  | true =>
    rw [perform_createVApp_of_clash hclash]
    exact ⟨Store.offersNamed_refl hid hfor, nofun⟩
  | false =>
    rw [perform_createVApp_of_free hnew hclash]
    dsimp only
    let row := Store.vappRow w.ids.nextVApp w.now (vm.newVApp id name)
    have hnone : w.store.vappNamed? id name = none :=
      List.find?_eq_none.2 (List.any_eq_false.1 hclash)
    have hmem : row ∈ w.store.vapps ++ [row] := List.mem_append_right _ List.mem_cons_self
    have hfresh : ∀ b ∈ w.store.vapps, b.id ≠ row.id := hnew
    have hoffers : w.store.Offers vm (w.addVApp row).store row :=
      ⟨(hid.concat hfresh).find? hmem fun _ => beq_iff_eq, .inr ⟨hfor.trans hnone, rfl⟩⟩
    constructor
    · intro a ha
      have hfound : (w.store.vappNamed? id name).or
          ([row].find? fun b => b.vdcId == id && b.name == name) = some a :=
        List.find?_append.symm.trans ha
      rw [hnone, Option.none_or] at hfound
      obtain rfl := List.mem_singleton.1 (List.mem_of_find?_eq_some hfound)
      exact hoffers
    · rintro _ ⟨⟩
      exact hoffers

/-- So does one that may fail, also where its answer gets lost. -/
theorem Replies.offers_createVApp {vm : VirtualMachine} {id : Uuid} {name : String}
    {r : Result VApp} (h : Replies (.store (.createVApp (vm.newVApp id name))) w r w')
    (hid : Table.Distinct w.store.vapps VApp.id)
    (hfor : w.store.vappFor? vm = w.store.vappNamed? id name) :
    w.store.OffersNamed vm id name w'.store ∧
      ∀ a, r = .ok a → w.store.Offers vm w'.store a := by
  cases h with
  | carried _ _ ids now hnew =>
    exact World.offers_createVApp (w := { w with ids, now }) hnew hid hfor
  | lost _ _ ids now e hnew =>
    exact ⟨(World.offers_createVApp (w := { w with ids, now }) hnew hid hfor).1, nofun⟩
  | missed _ _ a ha => cases ha
  | failed => exact ⟨Store.offersNamed_refl hid hfor, nofun⟩

end World

/-- A call whose failure is looked at. -/
theorem Attempt.Always.tried {σ : Type} {R : Responses σ} {P : Call → σ → Prop} {E : σ → Prop}
    {s : σ} {c : Call} {Q : Result c.Answer → σ → Prop} (hp : P c s)
    (h : ∀ r s', R c s r s' → Q r s') :
    (Attempt.outcome (Attempt.call c)).Always R P Q E s := ⟨hp, h⟩

namespace Reconcile

open Attempt World

variable {w w' : World} {vm : VirtualMachine}

/-- A call that makes no row for a machine puts none into a vApp. -/
theorem enlists_of_ne {c : Call} (h : ∀ new, c ≠ .store (.createVm new)) :
    w.store.Enlists vm c w' := fun new hc => absurd hc (h new)

/-- A look by name, after which the store is as before. -/
theorem look_offers {v : Vdc} {name : String}
    (hoffers : w.store.OffersNamed vm v.id name w'.store) :
    (store (.getVAppByName v.id name)).Always Replies (w.store.Enlists vm)
      (fun found w'' => w''.store = w'.store ∧
        ∀ a, found = some a → w.store.Offers vm w''.store a) (fun _ => True) w' := by
  refine .call (enlists_of_ne nofun) fun r w'' hr => ?_
  cases r with
  | error e => trivial
  | ok found =>
    have hstore : w''.store = w'.store := hr.store_read rfl
    refine ⟨hstore, ?_⟩
    rintro a rfl
    obtain ⟨ids, now, hfound⟩ := hr.performed nofun
    rw [hstore]
    exact hoffers a (Except.ok.inj hfound)

theorem ensureVApp_offers {v : Vdc} {name : String} (hid : Table.Distinct w.store.vapps VApp.id)
    (hfor : w.store.vappFor? vm = w.store.vappNamed? v.id name) (hstore : w'.store = w.store) :
    (ensureVApp vm v name).Always Replies (w.store.Enlists vm)
      (fun a w'' => w.store.Offers vm w''.store a) (fun _ => True) w' := by
  have hoffers : w.store.OffersNamed vm v.id name w'.store := by
    rw [hstore]
    exact Store.offersNamed_refl hid hfor
  refine .bind ((look_offers hoffers).mono fun found w₁ hfound => ?_)
  obtain ⟨hstore₁, hfound⟩ := hfound
  cases found with
  | some a => exact hfound a rfl
  | none =>
    have hsame : w₁.store = w.store := hstore₁.trans hstore
    have hadmit : w.store.Enlists vm (.store (.createVApp (vm.newVApp v.id name))) w₁ :=
      enlists_of_ne nofun
    refine .bind (.tried hadmit fun r w₂ hr => ?_)
    have hmade := hr.offers_createVApp (by rw [hsame]; exact hid) (by rw [hsame]; exact hfor)
    rw [hsame] at hmade
    cases r with
    | ok a => exact hmade.2 a rfl
    | error e =>
      dsimp only
      split
      · -- Another writer may have been first, or the answer was lost.
        refine .bind ((look_offers hmade.1).mono fun again w₃ hagain => ?_)
        cases again with
        | some a => exact hagain.2 a rfl
        | none => trivial
      · trivial

/-- A call that only reads puts no machine into a vApp. -/
theorem enlists_of_read {c : Call} (h : c.isWrite = false) : w.store.Enlists vm c w' := by
  rintro _ rfl
  cases h

theorem rereadVm_reads (vm : VirtualMachine) (a : VApp) :
    (rereadVm vm a).Makes (·.isWrite = false) := by
  refine .bind (.call rfl) fun found => ?_
  cases found with
  | some row => exact .pure _
  | none => exact .call rfl

theorem findVm_reads (vm : VirtualMachine) : (findVm vm).Makes (·.isWrite = false) := by
  have hlabel : (findByLabel vm).Makes (·.isWrite = false) := by
    unfold findByLabel
    split
    · exact .call rfl
    · exact .pure _
  refine .bind hlabel fun found => ?_
  cases found with
  | some row => exact .pure _
  | none => exact .call rfl

theorem createVm_enlists {a : VApp} (ha : w.store.Offers vm w'.store a) :
    (createVm vm a).Always Replies (w.store.Enlists vm) (fun _ _ => True) (fun _ => True) w' := by
  have hadmit : w.store.Enlists vm (.store (.createVm (vm.newVm a.id))) w' := by
    rintro _ ⟨⟩
    exact ⟨a, rfl, ha, ha.deleted_iff⟩
  refine .bind (.tried hadmit fun r w'' _ => ?_)
  cases r with
  | ok row => trivial
  | error e =>
    dsimp only
    split
    · refine .bind (((rereadVm_reads vm a).admits (fun _ _ => enlists_of_read) w'').mono ?_)
      intro again w₃ _
      cases again <;> trivial
    · trivial

/-- However its calls are answered, resolving a machine puts its row into the vApp that the machine
had before, or else into one that it makes and that is being instantiated. -/
theorem resolve_enlists (hid : Table.Distinct w.store.vapps VApp.id) (vm : VirtualMachine) :
    (resolve vm).Always Replies (w.store.Enlists vm) (fun _ _ => True) (fun _ => True) w := by
  have hfind : (findVm vm).Always Replies (w.store.Enlists vm)
      (fun _ w' => w'.store = w.store) (fun _ => True) w := by
    refine Always.weaken ((findVm_reads vm).guards (I := fun w' => w'.store = w.store) ?_ ?_ rfl)
      (fun _ _ => id) fun _ _ => trivial
    · exact fun _ _ _ _ hc hsame hr => (hr.store_read hc).trans hsame
    · exact fun _ _ hc _ => enlists_of_read hc
  refine .bind (hfind.mono fun found w₁ hsame => ?_)
  cases found with
  | some row => trivial
  | none =>
    show (discover vm).Always _ _ _ _ w₁
    unfold discover
    cases hname : vm.labelledVAppName? with
    | none => trivial
    | some name =>
      refine .bind (.call (enlists_of_read rfl) fun r w₂ hr => ?_)
      have hstore : w₂.store = w.store := (hr.store_read rfl).trans hsame
      cases r with
      | error e => trivial
      | ok v? =>
        cases v? with
        | none => trivial
        | some v =>
          obtain ⟨ids, now, hfound⟩ := hr.performed nofun
          have hv : w.store.vdcAt? vm.ns = some v := hsame ▸ Except.ok.inj hfound
          have hfor := Store.vappFor?_eq_vappNamed? hv hname
          refine .bind ((ensureVApp_offers hid hfor hstore).mono fun a w₃ ha => ?_)
          exact .bind ((createVm_enlists ha).mono fun _ _ _ => trivial)

end Reconcile

/-! ## The end of a vApp -/

namespace Episode

/-- Where the vApp is deleted in the one, it is in the other. -/
def StaysDeleted (id : Uuid) (m m' : Episode) : Prop :=
  ∀ a, m.row? id = some a → a.status = .deleted → ∃ a', m'.row? id = some a' ∧ a'.status = .deleted

variable {m m' : Episode} {run : List Episode} {w : World}

theorem Next.staysDeleted (hn : Next m m') (hm : m.Sound) (id : Uuid) : StaysDeleted id m m' := by
  intro a ha hdeleted
  obtain ⟨a', ha', hkept⟩ := (hm.next hn).2.kept id a ha
  refine ⟨a', ha', ?_⟩
  rcases hkept with rfl | ⟨e, status, now, -, -, rfl, hmay, -⟩
  · exact hdeleted
  · rw [hdeleted] at hmay
    by_contra hne
    exact (VAppStatus.Moves.cases ⟨Ne.symm hne, hmay⟩).1 rfl

instance (id : Uuid) : Trans (StaysDeleted id) (StaysDeleted id) (StaysDeleted id) where
  trans h h' a ha hdeleted := by
    obtain ⟨a', ha', hdeleted'⟩ := h a ha hdeleted
    exact h' a' ha' hdeleted'

/-- From each moment of a run on. -/
theorem pairwise_staysDeleted (h : run.IsChain Next) (hs : ∀ m ∈ run, m.Sound) (id : Uuid) :
    run.Pairwise (StaysDeleted id) := by
  have hchain : run.IsChain (StaysDeleted id) :=
    h.imp_of_mem_imp fun m m' hm _ hn => hn.staysDeleted (hs m hm) id
  exact hchain.pairwise

/-- **A vApp that is deleted stays deleted.** In a run of passes of all controllers, one after the
other, with calls that fail and passes that break off, a vApp is deleted from the moment on where it
is. Between passes, however the calls of the next one are answered, resolving a machine puts a new
row into the vApp that has the name on the label already, or else into one that it makes and that is
being instantiated, so that the vApp of the new row is deleted exactly if that one was. And a pass
for a template instance that meets no failure turns a vApp into a deployed one exactly if it is
being instantiated and everything else for that is there, so that none that was deleted is ever
deployed again. -/
theorem deleted_is_final (hw : Table.Distinct w.store.vapps VApp.id) (h : run.IsChain Next)
    (hhead : run.head? = some (idle w)) :
    (∀ id, run.Pairwise (StaysDeleted id)) ∧ ∀ w', idle w' ∈ run →
      (∀ vm, (Reconcile.resolve vm).Always World.Replies (w'.store.Enlists vm) (fun _ _ => True)
        (fun _ => True) w') ∧
      ∀ ti, ∀ a ∈ w'.store.vapps, w'.calm.Deploys ti a ↔ w'.store.MayDeploy ti a := by
  have hsound := sound_of_mem h hhead hw
  refine ⟨pairwise_staysDeleted h hsound, fun w' hmem => ?_⟩
  have hid : Table.Distinct w'.store.vapps VApp.id := (hsound _ hmem).distinct
  constructor
  · exact Reconcile.resolve_enlists hid
  · intro ti a ha
    exact World.deploys_iff_mayDeploy (w := w'.calm) rfl hid ti ha

open Reconcile in
/-- A vApp that is deleted, after a pass for a machine that is new under its name. -/
def repeopled : World := after (.machine {} (labelled .running)) (manned .deleted [])

/-- Then comes a template instance of its name. -/
def comeback : List Episode :=
  during (.machine {} (Reconcile.labelled .running)) (Reconcile.manned .deleted []) ++
    during (.vapp readyWeb) repeopled

theorem isChain_comeback : comeback.IsChain Next :=
  Next.passes.isChain_append (by decide) (Next.passes.isChain_during (by decide)) rfl

/-- The machine is in the vApp, which stays deleted to the end. -/
theorem comeback_stays_deleted :
    repeopled.store.vms.map Vm.vappId = [.ofNat 10] ∧ ∀ m ∈ comeback, ∃ a,
      m.row? (.ofNat 10) = some a ∧ a.status = .deleted := by
  obtain ⟨hpairs, -⟩ := deleted_is_final (w := Reconcile.manned .deleted []) (by decide)
    isChain_comeback rfl
  obtain ⟨hstays, -⟩ := List.pairwise_cons.1 (hpairs (.ofNat 10))
  refine ⟨by decide, fun m hm => ?_⟩
  rcases List.mem_cons.1 hm with rfl | hm
  · exact ⟨_, rfl, rfl⟩
  · exact hstays m hm _ rfl rfl

open Reconcile in
/-- A machine is discovered into a vApp that is deleted, and its template instance does not bring
the vApp back. -/
theorem dead_vapp_is_peopled :
    let w := manned .deleted []
    let found := (w.run (resolve (labelled .running))).state
    w.store.vms = [] ∧ found.store.vms.map Vm.vappId = [.ofNat 10] ∧
    found.store.vapps.map (fun a => (a.id, a.status)) = [(.ofNat 10, .deleted)] ∧
    found.store.due readyWeb (.ofNat 10) = .deployed ∧
    (found.run (vapp readyWeb)).state.store.vapps.map VApp.status = [.deleted] := by
  decide

end Episode

end TenantCloud
