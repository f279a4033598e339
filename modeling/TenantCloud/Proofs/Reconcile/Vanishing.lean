import TenantCloud.Proofs.Effect.Logs
import TenantCloud.Proofs.Reconcile.Sweeping
import Mathlib.Data.List.Nodup

/-!
# Which rows a sweep marks

A sweep lists the rows once and goes through the list, while it changes the table that the list was
taken from. What it has made of the rows so far is told against that list (`Vm.Sweeps`): those that
it has come by are as they should be, and the others as they were. So a sweep marks the rows whose
machine is missing and no others, however far it comes (`Reconcile.sweep_marks_vanished`).
-/

set_option autoImplicit false

namespace TenantCloud

/-- Each call is carried out at some time, or it fails and changes nothing. -/
def Handler.IsPlain (h : Handler World) : Prop :=
  ∀ c w, (∃ now, h.answer c w = World.perform c { w with now }) ∨
    ∃ e, h.answer c w = (.error e, w)

namespace Attempt.Yields

variable {β : Type} {h : Handler World} {w : World} {Q : Log → Result β → World → Prop}

/-- A look-up tells what is there, or it fails. -/
theorem look (hh : h.IsPlain) {c : Call} {g : World → c.Answer}
    {Q : Log → Result c.Answer → World → Prop} (hc : ∀ w, World.perform c w = (.ok (g w), w))
    (hfound : ∀ now, Q [.reply c (.ok (g { w with now }))] (.ok (g { w with now })) { w with now })
    (hfailed : ∀ e, Q [.reply c (.error e)] (.error e) w) : (Attempt.call c).Yields h Q w := by
  refine .call ?_
  obtain ⟨now, he⟩ | ⟨e, he⟩ := hh c w
  · rw [he, hc]
    exact hfound now
  · rw [he]
    exact hfailed e

theorem look_bind (hh : h.IsPlain) {c : Call} {g : World → c.Answer} {f : c.Answer → Attempt β}
    (hc : ∀ w, World.perform c w = (.ok (g w), w))
    (hfound : ∀ now, (f (g { w with now })).Yields h
      (fun l => Q (.reply c (.ok (g { w with now })) :: l)) { w with now })
    (hfailed : ∀ e, Q [.reply c (.error e)] (.error e) w) :
    (Attempt.call c >>= f).Yields h Q w := by
  refine .bind (.look hh hc (fun now => ⟨?_, nofun⟩) fun e => ⟨nofun, ?_⟩)
  · rintro v ⟨⟩
    exact hfound now
  · rintro e' ⟨⟩
    exact hfailed e

end Attempt.Yields

/-! ## Rows -/

namespace Vm

variable {c : Cluster} {y row : Vm} {rows rows' : List Vm} {l l' : Log} {r : Result Nat}

theorem isKept_swept (y : Vm) (c : Cluster) (t : Timestamp) : (y.swept c t).IsKept c := by
  unfold swept
  split
  · assumption
  · exact .inl rfl

/-- A row is changed where it is not kept. -/
theorem swept_eq_iff {t : Timestamp} : y.swept c t = y ↔ y.IsKept c := by
  constructor
  · intro he
    rw [← he]
    exact y.isKept_swept c t
  · exact fun hkept => if_pos hkept

/-- The call that marks the row. -/
def marking (y : Vm) : Call := .store (.updateVmStatus y.id VmStatus.deleted.word)

/-- A sweep makes the call for this row. -/
def IsAsked (y : Vm) (call : Call) : Prop :=
  call = .cluster (.getVirtualMachine y.ns y.vmName) ∨
    call = .store (.getVmByNamespaceAndName y.ns y.vmName) ∨ call = y.marking

/-- The rows as a sweep leaves them, where each is marked at its own time. -/
abbrev AllSwept (c : Cluster) : List Vm → List Vm → Prop :=
  List.Forall₂ fun y y' => ∃ t, y' = y.swept c t

/-- The rows that are changed are those that are not kept. -/
theorem AllSwept.countP_changed (h : AllSwept c rows rows') :
    (rows.countP fun y => ¬ y.IsKept c) = (rows.zip rows').countP fun p => p.2 ≠ p.1 := by
  induction h with
  | nil => rfl
  | @cons y y' rows rows' hswept _ ih =>
    obtain ⟨t, rfl⟩ := hswept
    rw [List.zip_cons_cons, List.countP_cons, List.countP_cons, ih]
    simp only [ne_eq, swept_eq_iff]

theorem AllSwept.isKept (h : AllSwept c rows rows') : ∀ y ∈ rows', y.IsKept c := by
  induction h with
  | nil => nofun
  | cons hswept _ ih =>
    obtain ⟨t, rfl⟩ := hswept
    exact List.forall_mem_cons.2 ⟨isKept_swept _ c t, ih⟩

/-- Where all rows are kept, nothing changes. -/
theorem AllSwept.eq_of_isKept (h : AllSwept c rows rows') (hkept : ∀ y ∈ rows, y.IsKept c) :
    rows' = rows := by
  induction h with
  | nil => rfl
  | cons hswept _ ih =>
    obtain ⟨t, rfl⟩ := hswept
    obtain ⟨hrow, hrest⟩ := List.forall_mem_cons.1 hkept
    rw [ih hrest, swept_eq_iff.2 hrow]

/-- What a sweep makes of some rows, what its log tells, and how it ends: it goes through them all,
or a call for one of them fails. -/
inductive Sweeps (c : Cluster) : List Vm → List Vm → Log → Result Nat → Prop
  | through {rows rows' : List Vm} {l : Log} : AllSwept c rows rows' → l.errors = [] →
      l.writes = (rows.filter fun y => ¬ y.IsKept c).map marking →
      Sweeps c rows rows' l (.ok (rows.countP fun y => ¬ y.IsKept c))
  | stopped {before before' after : List Vm} {row : Vm} {l : Log} {call : Call} {e : Error} :
      AllSwept c before before' → row.status ≠ VmStatus.deleted.word → row.IsAsked call →
      l.errors = [(call, e)] →
      Sweeps c (before ++ row :: after) (before' ++ row :: after) l (.error e)

namespace Sweeps

/-- A call for the first row failed. -/
theorem stopped_here {call : Call} {e : Error} (hlive : row.status ≠ VmStatus.deleted.word)
    (hasked : row.IsAsked call) (herrors : l.errors = [(call, e)]) (rows : List Vm) :
    Sweeps c (row :: rows) (row :: rows) l (.error e) :=
  have hnil : AllSwept c [] [] := .nil
  .stopped hnil hlive hasked herrors

/-- No call failed. -/
theorem of_calm (h : Sweeps c rows rows' l r) (hcalm : l.errors = []) :
    AllSwept c rows rows' ∧ r = .ok (rows.countP fun y => ¬ y.IsKept c) ∧
      l.writes = (rows.filter fun y => ¬ y.IsKept c).map marking := by
  cases h with
  | through hall _ hwrites => exact ⟨hall, rfl, hwrites⟩
  | stopped _ _ _ herrors => cases herrors.symm.trans hcalm

/-- A call failed. -/
theorem of_mem_errors (h : Sweeps c rows rows' l r) {call : Call} {e : Error}
    (hmem : (call, e) ∈ l.errors) : r = .error e ∧ ∃ before before' row after,
      rows = before ++ row :: after ∧ rows' = before' ++ row :: after ∧
      AllSwept c before before' ∧ row.status ≠ VmStatus.deleted.word ∧ row.IsAsked call := by
  cases h with
  | through _ herrors _ =>
    rw [herrors] at hmem
    cases hmem
  | stopped hall hlive hasked herrors =>
    rw [herrors] at hmem
    obtain ⟨⟩ := List.mem_singleton.1 hmem
    exact ⟨rfl, _, _, _, _, rfl, rfl, hall, hlive, hasked⟩

/-- A look does not count. -/
theorem look {call : Call} (hcall : call.isWrite = false) (v : call.Answer)
    (h : Sweeps c rows rows' l r) : Sweeps c rows rows' (.reply call (.ok v) :: l) r := by
  have hwrite : (Item.reply call (.ok v)).write? = none := if_neg (by simp [hcall])
  cases h with
  | through hall herrors hwrites =>
    exact .through hall herrors ((List.filterMap_cons_none hwrite).trans hwrites)
  | stopped hall hlive hasked herrors => exact .stopped hall hlive hasked herrors

/-- A row that is kept is passed over. -/
theorem keep (hrow : row.IsKept c) (h : Sweeps c rows rows' l r) :
    Sweeps c (row :: rows) (row :: rows') l r := by
  have hswept : ∃ t, row = row.swept c t := ⟨⟨0, 0⟩, (swept_eq_iff.2 hrow).symm⟩
  cases h with
  | through hall herrors hwrites =>
    have hcount : (row :: rows).countP (fun y => ¬ y.IsKept c) =
        rows.countP fun y => ¬ y.IsKept c := List.countP_cons_of_neg (by simpa using hrow)
    rw [← hcount]
    refine .through (.cons hswept hall) herrors ?_
    rw [hwrites, List.filter_cons_of_neg (by simpa using hrow)]
  | stopped hall hlive hasked herrors => exact .stopped (.cons hswept hall) hlive hasked herrors

/-- A row that is not kept is marked and counted. -/
theorem mark (hrow : ¬ row.IsKept c) (hl : l.errors = []) (hwrites : l.writes = [row.marking])
    (t : Timestamp) (h : Sweeps c rows rows' l' r) :
    Sweeps c (row :: rows) (row.marked t :: rows') (l ++ l') (r.map (· + 1)) := by
  have hswept : ∃ t', row.marked t = row.swept c t' := ⟨t, (if_neg hrow).symm⟩
  cases h with
  | through hall herrors hwrites' =>
    have hcount : (row :: rows).countP (fun y => ¬ y.IsKept c) =
        rows.countP (fun y => ¬ y.IsKept c) + 1 := List.countP_cons_of_pos (by simpa using hrow)
    show Sweeps c _ _ _ (.ok (rows.countP (fun y => ¬ y.IsKept c) + 1))
    rw [← hcount]
    refine .through (.cons hswept hall) ?_ ?_
    · rw [Log.errors_append, hl, herrors, List.append_nil]
    · rw [Log.writes_append, hwrites, hwrites', List.filter_cons_of_pos (by simpa using hrow)]
      rfl
  | stopped hall hlive hasked herrors =>
    refine .stopped (.cons hswept hall) hlive hasked ?_
    rw [Log.errors_append, hl, herrors, List.nil_append]

end Sweeps

/-! ### Tables -/

/-- The columns that no change of a row touches. -/
def keys (y : Vm) : Uuid × String × String × Uuid := (y.id, y.ns, y.vmName, y.vappId)

/-- No two rows share a key, and none is listed twice. -/
structure Listed (rows : List Vm) : Prop extends Keyed rows where
  nodup : rows.Nodup

variable {before after : List Vm}

/-- Rows with the keys of listed rows are listed. -/
theorem Listed.of_map_eq (h : Listed rows) (hkeys : rows'.map keys = rows.map keys) :
    Listed rows' := by
  have hproject : ∀ {κ : Type} (g : Uuid × String × String × Uuid → κ),
      rows'.map (fun y => g y.keys) = rows.map fun y => g y.keys := by
    intro κ g
    simpa only [List.map_map, Function.comp_def] using congrArg (List.map g) hkeys
  have hdistinct : ∀ {κ : Type} (g : Uuid × String × String × Uuid → κ),
      Table.Distinct rows (fun y => g y.keys) → Table.Distinct rows' fun y => g y.keys :=
    fun g hg => List.inj_on_of_nodup_map (hproject g ▸ h.nodup.map_on hg)
  exact {
    vmId := hdistinct (·.1) h.vmId
    vmAt := hdistinct (fun k => (k.2.1, k.2.2.1)) h.vmAt
    vmIn := hdistinct (fun k => (k.2.2.2, k.2.2.1)) h.vmIn
    nodup := .of_map Vm.id (hproject (·.1) ▸ h.nodup.map_on h.vmId) }

/-- The row at a place is found there. -/
theorem Listed.find?_isAt (h : Listed (before ++ row :: after)) :
    (before ++ row :: after).find? (·.isAt row.ns row.vmName) = some row :=
  h.vmAt.find? (List.mem_append_right _ List.mem_cons_self) fun y => by simp [isAt]

/-- Only the row with an identity is changed. -/
theorem Listed.amend (h : Listed (before ++ row :: after)) (f : Vm → Vm) :
    Table.amend (before ++ row :: after) row.id f = before ++ f row :: after := by
  have hid : ((before ++ row :: after).map Vm.id).Nodup := h.nodup.map_on h.vmId
  rw [List.map_append, List.map_cons, List.nodup_middle, List.nodup_cons, ← List.map_append] at hid
  have hother : ∀ rows : List Vm, (∀ y ∈ rows, y ∈ before ++ after) →
      rows.map (fun y => if Row.rowId y == row.id then f y else y) = rows := by
    intro rows hrows
    refine (List.map_congr_left fun y hy => if_neg fun he => ?_).trans (List.map_id _)
    exact hid.1 (List.mem_map.2 ⟨y, hrows y hy, beq_iff_eq.1 he⟩)
  rw [Table.amend, List.map_append, List.map_cons, hother before fun y => List.mem_append_left _,
    hother after fun y => List.mem_append_right _]
  exact congrArg (before ++ · :: after) (if_pos (beq_iff_eq.2 rfl))

/-- A sweep changes no key. -/
theorem AllSwept.map_keys (h : AllSwept c rows rows') : rows'.map keys = rows.map keys := by
  induction h with
  | nil => rfl
  | @cons y _ _ _ hswept _ ih =>
    obtain ⟨t, rfl⟩ := hswept
    have hkeys : (y.swept c t).keys = y.keys := by
      unfold swept
      split <;> rfl
    rw [List.map_cons, List.map_cons, hkeys, ih]

theorem Listed.mark (h : Listed (before ++ row :: after)) (t : Timestamp) :
    Listed (before ++ row.marked t :: after) := by
  refine h.of_map_eq ?_
  rw [List.map_append, List.map_append]
  rfl

end Vm

/-! ## The sweep -/

namespace Reconcile

open Attempt

variable {h : Handler World} {w : World} {row : Vm}

theorem timed_plain {β : Type} (hh : h.IsPlain) {c : Call} {f : Result c.Answer × Nat → Attempt β}
    {Q : Log → Result β → World → Prop}
    (hcarried : ∀ now elapsed, let done := World.perform c { w with now }
      (f (done.1, elapsed)).Yields h (fun l => Q (.reply c done.1 :: l)) done.2)
    (hfailed : ∀ e elapsed,
      (f (.error e, elapsed)).Yields h (fun l => Q (.reply c (.error e) :: l)) w) :
    (timed (Attempt.call c) >>= f).Yields h Q w := by
  have hrun : ∀ elapsed, (f ((h.answer c w).1, elapsed)).Yields h
      (fun l => Q (.reply c (h.answer c w).1 :: l)) (h.answer c w).2 := by
    intro elapsed
    obtain ⟨now, he⟩ | ⟨e, he⟩ := hh c w
    · rw [he]
      exact hcarried now elapsed
    · rw [he]
      exact hfailed e elapsed
  exact hrun _

/-- What a sweep does about a row whose machine is missing. -/
inductive Marks (row : Vm) (w : World) : Log → Result Unit → World → Prop
  | marked {l : Log} {w' : World} (t : Timestamp) : l.errors = [] → l.writes = [row.marking] →
      w'.cluster = w.cluster →
      w'.store = (w.store.updateVmStatus t row.id VmStatus.deleted.word).2 →
      Marks row w l (.ok ()) w'
  | failed {l : Log} {w' : World} {call : Call} {e : Error} : l.errors = [(call, e)] →
      row.IsAsked call → w'.cluster = w.cluster → w'.store = w.store → Marks row w l (.error e) w'

theorem vmDeleted_yields (hh : h.IsPlain) (hat : w.store.vmAt? row.ns row.vmName = some row)
    (hlive : row.status ≠ VmStatus.deleted.word) :
    (vmDeleted row.ns row.vmName).Yields h (Marks row w) w := by
  refine .look_bind hh (c := .store (.getVmByNamespaceAndName row.ns row.vmName)) (fun _ => rfl)
    (fun now => ?_) fun e => .failed rfl (.inr (.inl rfl)) rfl rfl
  dsimp only
  rw [hat]
  dsimp only
  rw [if_neg hlive]
  refine timed_plain hh (fun now' elapsed => ?_) fun e elapsed => ?_
  · exact .measure _ (.marked now' rfl rfl rfl rfl)
  · refine .bind (.measure _ ⟨fun _ _ => ?_, nofun⟩)
    exact .throw (.failed rfl (.inr (.inr rfl)) rfl rfl)

/-- A sweep of the rows behind some others leaves the cluster and those others alone. -/
def Leaves (c : Cluster) (s : Store) (before rows : List Vm) (l : Log) (r : Result Nat)
    (w : World) : Prop :=
  w.cluster = c ∧ ∃ rows', w.store = { s with vms := before ++ rows' } ∧ Vm.Sweeps c rows rows' l r

namespace Leaves

variable {c : Cluster} {s : Store} {before rows : List Vm} {row' : Vm} {l l' : Log}
  {r r' : Result Nat}

/-- What a sweep makes of one more row. -/
theorem cons (h : Leaves c s (before ++ [row']) rows l r w)
    (hrow : ∀ rows', Vm.Sweeps c rows rows' l r → Vm.Sweeps c (row :: rows) (row' :: rows') l' r') :
    Leaves c s before (row :: rows) l' r' w := by
  obtain ⟨hc, rows', hs, hsweeps⟩ := h
  exact ⟨hc, row' :: rows', by rw [hs, ← List.append_cons], hrow rows' hsweeps⟩

theorem look {call : Call} (hcall : call.isWrite = false) (v : call.Answer)
    (h : Leaves c s before rows l r w) :
    Leaves c s before rows (.reply call (.ok v) :: l) r w := by
  obtain ⟨hc, rows', hs, hsweeps⟩ := h
  exact ⟨hc, rows', hs, .look hcall v hsweeps⟩

end Leaves

variable {c : Cluster} {s : Store} {rows : List Vm}

/-- A row whose machine is missing is marked, and the sweep goes on. -/
theorem missing_yields (hh : h.IsPlain) {before : List Vm} (hc : w.cluster = c)
    (hs : w.store = { s with vms := before ++ row :: rows })
    (hlisted : Vm.Listed (before ++ row :: rows)) (hlive : row.status ≠ VmStatus.deleted.word)
    (hget : c.vms.get? ⟨row.ns, row.vmName⟩ = none)
    (hrest : ∀ {w' : World} {row' : Vm}, w'.cluster = c →
      w'.store = { s with vms := before ++ row' :: rows } → Vm.Listed (before ++ row' :: rows) →
      (sweepEach rows).Yields h (Leaves c s (before ++ [row']) rows) w') :
    Yields h (Leaves c s before (row :: rows))
      (do vmDeleted row.ns row.vmName; return (← sweepEach rows) + 1) w := by
  have hgone : ¬ row.IsKept c := by
    rintro (hdel | hthere)
    · exact hlive hdel
    · rw [hget] at hthere
      cases hthere
  have hat : w.store.vmAt? row.ns row.vmName = some row := by
    rw [Store.vmAt?, hs]
    exact hlisted.find?_isAt
  refine .bind ((vmDeleted_yields hh hat hlive).mono ?_)
  intro l r w' hmarks
  cases hmarks with
  | failed herrors hasked hc' hs' =>
    refine ⟨fun _ he => (by cases he), ?_⟩
    rintro _ ⟨⟩
    exact ⟨hc'.trans hc, row :: rows, hs'.trans hs, .stopped_here hlive hasked herrors rows⟩
  | marked t herrors hwrites hc' hs' =>
    refine ⟨fun _ _ => ?_, fun _ he => by cases he⟩
    have hmarked : w'.store = { s with vms := before ++ row.marked t :: rows } := by
      have hupdate : (w.store.updateVmStatus t row.id VmStatus.deleted.word).2 =
          { w.store with vms := Table.amend w.store.vms row.id (·.marked t) } := rfl
      rw [hs', hupdate, hs, hlisted.amend]
    refine .bind ((hrest (hc'.trans hc) hmarked (hlisted.mark t)).mono ?_)
    intro l' r' w'' hleaves
    have hmark := hleaves.cons fun rows' hsweeps => hsweeps.mark hgone herrors hwrites t
    constructor
    · rintro n rfl
      refine .pure ?_
      rw [List.append_nil]
      exact hmark
    · rintro e rfl
      exact hmark

/-- The rows in front of these have been looked at, and the others are as they were listed. -/
theorem sweepEach_yields (hh : h.IsPlain) (before : List Vm) (hc : w.cluster = c)
    (hs : w.store = { s with vms := before ++ rows }) (hlisted : Vm.Listed (before ++ rows)) :
    (sweepEach rows).Yields h (Leaves c s before rows) w := by
  induction rows generalizing before w with
  | nil => exact .pure ⟨hc, [], hs, .through .nil rfl rfl⟩
  | cons row rows ih =>
    have hrest : ∀ {w' : World} {row' : Vm}, w'.cluster = c →
        w'.store = { s with vms := before ++ row' :: rows } → Vm.Listed (before ++ row' :: rows) →
        (sweepEach rows).Yields h (Leaves c s (before ++ [row']) rows) w' := by
      intro w' row' hc' hs' hlisted'
      rw [List.append_cons] at hs' hlisted'
      exact ih _ hc' hs' hlisted'
    unfold sweepEach
    split
    · rename_i hdel
      exact (hrest hc hs hlisted).mono fun l r w' hleaves => hleaves.cons fun _ => .keep (.inl hdel)
    · rename_i hlive
      refine .look_bind hh (c := .cluster (.getVirtualMachine row.ns row.vmName)) (fun _ => rfl)
        (fun now => ?_) fun e => ⟨hc, row :: rows, hs, .stopped_here hlive (.inl rfl) rfl rows⟩
      have hnow : ({ w with now } : World).cluster = c := hc
      dsimp only
      cases hget : w.cluster.vms.get? ⟨row.ns, row.vmName⟩ with
      | some vm =>
        have hkept : row.IsKept c := .inr (by rw [← hc, hget]; rfl)
        exact (hrest hnow hs hlisted).mono fun l r w' hleaves =>
          .look rfl _ (hleaves.cons fun _ => .keep hkept)
      | none =>
        rw [hc] at hget
        exact (missing_yields hh hnow hs hlisted hlive hget hrest).mono fun l r w' hleaves =>
          hleaves.look rfl _

/-- A sweep makes something of the rows that it lists, or it cannot list them. -/
theorem sweep_yields (hh : h.IsPlain) (hlisted : Vm.Listed w.store.vms) :
    sweep.Yields h (fun l r w' => w'.cluster = w.cluster ∧
      ((∃ rows, w'.store = { w.store with vms := rows } ∧
        Vm.Sweeps w.cluster w.store.vms rows l r) ∨
      w'.store = w.store ∧ ∃ e, r = .error e ∧ l.errors = [(.store .listVms, e)])) w := by
  refine .look_bind hh (c := .store .listVms) (g := fun w => w.store.vms) (fun _ => rfl)
    (fun now => ?_) fun e => ⟨rfl, .inr ⟨rfl, e, rfl, rfl⟩⟩
  refine (sweepEach_yields (w := { w with now }) hh [] rfl rfl hlisted).mono ?_
  rintro l r w' ⟨hc, rows, hs, hsweeps⟩
  exact ⟨hc, .inl ⟨rows, hs, .look rfl _ hsweeps⟩⟩

/-- **A sweep marks exactly the vanished rows.** Where no call fails, each row that is not marked
and whose machine is missing is marked as deleted, and nothing else changes; the result is the
number of rows that were changed. Another sweep of what it left, with the cluster as it was, then
gives zero and writes nothing. Where a call fails, its error is the result. If the rows could not be
listed, nothing has changed. Otherwise the call was made for one of the rows: those that were listed
before it are as a sweep leaves them, and it and the others are as they were. -/
theorem sweep_marks_vanished (hh : h.IsPlain) (hs : w.store.Unique) (hrows : w.store.vms.Nodup) :
    let log := sweep.run.log h w
    let ran := sweep.run.run h w
    ran.state.cluster = w.cluster ∧
    (log.errors = [] → ∃ rows, Vm.AllSwept w.cluster w.store.vms rows ∧
      ran.state.store = { w.store with vms := rows } ∧
      ran.value = .ok ((w.store.vms.zip rows).countP fun p => p.2 ≠ p.1) ∧
      ∀ (h' : Handler World) (w' : World), h'.IsPlain → w'.store = ran.state.store →
        w'.cluster = w.cluster → (sweep.run.log h' w').errors = [] →
        (sweep.run.run h' w').value = .ok 0 ∧ (sweep.run.run h' w').state.store = w'.store ∧
          (sweep.run.log h' w').writes = []) ∧
    ∀ call e, (call, e) ∈ log.errors → ran.value = .error e ∧
      (call = .store .listVms ∧ ran.state.store = w.store ∨
        ∃ before before' row after, w.store.vms = before ++ row :: after ∧
          row.status ≠ VmStatus.deleted.word ∧ row.IsAsked call ∧
          Vm.AllSwept w.cluster before before' ∧
          ran.state.store = { w.store with vms := before' ++ row :: after }) := by
  have hlisted : Vm.Listed w.store.vms := ⟨hs.toVms, hrows⟩
  obtain ⟨hc, hend⟩ := sweep_yields hh hlisted
  refine ⟨hc, fun hcalm => ?_, fun call e hmem => ?_⟩
  · obtain ⟨rows, hstore, hsweeps⟩ | ⟨-, e, -, hlist⟩ := hend
    · obtain ⟨hall, hvalue, -⟩ := hsweeps.of_calm hcalm
      refine ⟨rows, hall, hstore, hvalue.trans (by rw [hall.countP_changed]), ?_⟩
      intro h' w' hh' hs' hc' hcalm'
      have hvms : w'.store.vms = rows := by rw [hs', hstore]
      obtain ⟨-, hend'⟩ := sweep_yields (w := w') hh' (hvms ▸ hlisted.of_map_eq hall.map_keys)
      obtain ⟨rows', hstore', hsweeps'⟩ | ⟨-, e, -, hlist'⟩ := hend'
      · rw [hvms, hc'] at hsweeps'
        obtain ⟨hall', hvalue', hwrites'⟩ := hsweeps'.of_calm hcalm'
        -- All rows are kept by now.
        have hkept : ∀ y ∈ rows, y.IsKept w.cluster := hall.isKept
        refine ⟨hvalue'.trans ?_, ?_, hwrites'.trans ?_⟩
        · rw [List.countP_eq_zero.2 fun y hy => by simpa using hkept y hy]
        · rw [hstore', hall'.eq_of_isKept hkept, ← hvms]
        · rw [List.filter_eq_nil_iff.2 fun y hy => by simpa using hkept y hy, List.map_nil]
      · cases hlist'.symm.trans hcalm'
    · cases hlist.symm.trans hcalm
  · obtain ⟨rows, hstore, hsweeps⟩ | ⟨hstore, e', hvalue, hlist⟩ := hend
    · obtain ⟨hvalue, before, before', row, after, hvms, rfl, hall, hlive, hasked⟩ :=
        hsweeps.of_mem_errors hmem
      exact ⟨hvalue, .inr ⟨before, before', row, after, hvms, hlive, hasked, hall, hstore⟩⟩
    · rw [hlist] at hmem
      obtain ⟨⟩ := List.mem_singleton.1 hmem
      exact ⟨hvalue, .inl ⟨rfl, hstore⟩⟩

/-- Answers calls out of a world, faults aside. -/
def steady : Handler World := ⟨World.perform, World.now⟩

theorem isPlain_steady : steady.IsPlain := fun _ w => .inl ⟨w.now, rfl⟩

/-- Answers calls out of a world, but for one call, which fails. -/
def refusing (call : Call) (e : Error) : Handler World where
  answer c w := if c = call then (.error e, w) else World.perform c w
  now := World.now

theorem isPlain_refusing (call : Call) (e : Error) : (refusing call e).IsPlain := by
  intro c w
  by_cases hc : c = call
  · exact .inr ⟨e, if_pos hc⟩
  · exact .inl ⟨w.now, if_neg hc⟩

/-- Three rows, of which the second has a machine. -/
def halfVanished : World where
  store.vms := ["web-0", "web-1", "web-2"].zipIdx.map fun (name, i) =>
    { World.machineRow (3 + i) 2 "tenant-a" .poweredOn with vmName := name }
  cluster.vms := .single ⟨"tenant-a", "web-1"⟩ (World.stamped "tenant-a" .running)
  ids := ⟨fun n => .ofNat (10 + n), fun n => .ofNat (20 + n), 0, 0⟩
  now := ⟨0, 0⟩

/-- The look at the machine of the third row. -/
def lastLook : Call := .cluster (.getVirtualMachine "tenant-a" "web-2")

/-- The sweep that cannot look there has marked the first row. -/
theorem refused_sweep_marks_vanished :
    let h := refusing lastLook (.unreachable "down")
    let ran := sweep.run.run h halfVanished
    h.IsPlain ∧ halfVanished.store.Unique ∧ halfVanished.store.vms.Nodup ∧
    (lastLook, .unreachable "down") ∈ (sweep.run.log h halfVanished).errors ∧
    ran.value = .error (.unreachable "down") ∧
    (∃ before before' row after, halfVanished.store.vms = before ++ row :: after ∧
      row.IsAsked lastLook ∧ Vm.AllSwept halfVanished.cluster before before' ∧
      ran.state.store.vms = before' ++ row :: after) ∧
    ran.state.store.vms.map Vm.status = ["DELETED", "POWERED_ON", "POWERED_ON"] := by
  have hplain := isPlain_refusing lastLook (.unreachable "down")
  have hunique : halfVanished.store.Unique := by decide
  have hnodup : halfVanished.store.vms.Nodup := by decide
  have hfailed : (lastLook, Error.unreachable "down") ∈
      (sweep.run.log (refusing lastLook (.unreachable "down")) halfVanished).errors := by
    decide
  obtain ⟨-, -, hstopped⟩ := sweep_marks_vanished hplain hunique hnodup
  obtain ⟨hvalue, ⟨hlist, -⟩ | ⟨before, before', row, after, hvms, -, hasked, hall, hstore⟩⟩ :=
    hstopped _ _ hfailed
  · cases hlist
  · exact ⟨hplain, hunique, hnodup, hfailed, hvalue,
      ⟨before, before', row, after, hvms, hasked, hall, congrArg Store.vms hstore⟩, by decide⟩

end Reconcile

end TenantCloud
