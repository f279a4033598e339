import Mathlib.Data.List.Pairwise
import TenantCloud.Proofs.Effect.Rounds
import TenantCloud.Proofs.Reconcile.Flagging
import TenantCloud.Proofs.Reconcile.Histories

/-!
# Rounds of owners' passes

A round runs one pass for each row and one scan for orphans, each at its own time. Where no two rows
are bound to one namespace, the passes of a round commute: each plot is acted on by the duty of at
most one row (`Store.act`) and by the scan, and these commute, so that the cluster after a round
does not depend on the order (`World.rounds_commute`). Each duty may be thought to come last, so
that every one is done after the round, and another round only looks.
-/

set_option autoImplicit false

namespace TenantCloud

open Reconcile

/-! ## Rows and their passes -/

namespace Store

/-- The namespace of the row that the pass is for, and what the row wants to be done there. -/
def duty? (s : Store) : OwnerPass → Option (String × Duty)
  | .vdc id => (Table.get? s.vdcs id).bind fun v => v.bound?.map (·, v.duty)
  | .organization id => (Table.get? s.organizations id).bind fun o => o.bound?.map (·, o.duty)
  | .orphans => none

/-- The virtual datacenter that the pass is for, where it is enabled and has no namespace. -/
def unbound? (s : Store) : OwnerPass → Option Vdc
  | .vdc id => (Table.get? s.vdcs id).filter fun v => !v.isDeleted && v.enabled && v.bound?.isNone
  | _ => none

/-- One pass for each row. -/
def rowPasses (s : Store) : List OwnerPass :=
  s.vdcs.map (.vdc ·.id) ++ s.organizations.map (.organization ·.id)

/-- One pass for each row, and a scan for orphans. -/
def ownerPasses (s : Store) : List OwnerPass := .orphans :: s.rowPasses

/-- The namespaces that virtual datacenters claim, deleted ones included. -/
def claimed (s : Store) : List String := s.vdcs.filterMap (·.bound?)

/-- No two rows are bound to one namespace. -/
def BoundApart (s : Store) : Prop :=
  (s.claimed ++ s.organizations.filterMap (·.bound?)).Nodup

instance (s : Store) : Decidable s.BoundApart :=
  inferInstanceAs (Decidable (s.claimed ++ s.organizations.filterMap (·.bound?)).Nodup)

variable {s : Store} {p q : OwnerPass} {n : String} {d d' : Duty}

theorem duty?_vdc {id : Uuid} (h : s.duty? (.vdc id) = some (n, d)) :
    ∃ v, Table.get? s.vdcs id = some v ∧ v.bound? = some n ∧ v.duty = d := by
  obtain ⟨v, hv, hbound⟩ := Option.bind_eq_some_iff.1 h
  obtain ⟨m, hm, hpair⟩ := Option.map_eq_some_iff.1 hbound
  cases hpair
  exact ⟨v, hv, hm, rfl⟩

theorem duty?_organization {id : Uuid} (h : s.duty? (.organization id) = some (n, d)) :
    ∃ o, Table.get? s.organizations id = some o ∧ o.bound? = some n ∧ o.duty = d := by
  obtain ⟨o, ho, hbound⟩ := Option.bind_eq_some_iff.1 h
  obtain ⟨m, hm, hpair⟩ := Option.map_eq_some_iff.1 hbound
  cases hpair
  exact ⟨o, ho, hm, rfl⟩

/-- The scan spares the namespace, or the row keeps it as an organization does. -/
theorem spared_of_duty? (h : s.duty? p = some (n, d)) : n ∈ s.claimed ∨ ∀ v, d ≠ .settle v := by
  cases p with
  | vdc id =>
    obtain ⟨v, hv, hn, -⟩ := duty?_vdc h
    exact .inl (List.mem_filterMap.2 ⟨v, List.mem_of_find?_eq_some hv, hn⟩)
  | organization id =>
    obtain ⟨o, -, -, rfl⟩ := duty?_organization h
    refine .inr fun v => ?_
    unfold Organization.duty
    split
    · nofun
    · split <;> nofun
  | orphans => cases h

/-- Rows of a table that are bound apart are told by what they are bound to. -/
theorem eq_of_bound {ρ : Type} {rows : List ρ} {bound? : ρ → Option String}
    (h : (rows.filterMap bound?).Nodup) {r r' : ρ} (hr : r ∈ rows) (hr' : r' ∈ rows)
    (hn : bound? r = some n) (hn' : bound? r' = some n) : r = r' := by
  let R (a b : ρ) : Prop := bound? a = some n → bound? b = some n → a = b
  have hsymm : Std.Symm R := ⟨fun _ _ hab hb ha => (hab ha hb).symm⟩
  have hpairs : rows.Pairwise R :=
    (List.pairwise_filterMap.1 h).imp fun hne ha hb => absurd rfl (hne n ha n hb)
  exact hpairs.forall_of_forall (fun _ _ _ _ => rfl) hr hr' hn hn'

/-- Where rows are bound apart, one pass at most has a duty in a namespace. -/
theorem BoundApart.eq_of_duty? (hs : s.BoundApart) (h : s.duty? p = some (n, d))
    (h' : s.duty? q = some (n, d')) : p = q := by
  obtain ⟨hvdcs, horganizations, hapart⟩ := List.nodup_append.1 hs
  have hrow : ∀ {p d}, s.duty? p = some (n, d) →
      (∃ v ∈ s.vdcs, v.bound? = some n ∧ p = .vdc v.id) ∨
      ∃ o ∈ s.organizations, o.bound? = some n ∧ p = .organization o.id := by
    intro p d h
    cases p with
    | vdc id =>
      obtain ⟨v, hv, hn, -⟩ := duty?_vdc h
      obtain ⟨hmem, rfl⟩ := Table.get?_eq_some hv
      exact .inl ⟨v, hmem, hn, rfl⟩
    | organization id =>
      obtain ⟨o, ho, hn, -⟩ := duty?_organization h
      obtain ⟨hmem, rfl⟩ := Table.get?_eq_some ho
      exact .inr ⟨o, hmem, hn, rfl⟩
    | orphans => cases h
  obtain ⟨v, hv, hn, rfl⟩ | ⟨o, ho, hn, rfl⟩ := hrow h <;>
    obtain ⟨v', hv', hn', rfl⟩ | ⟨o', ho', hn', rfl⟩ := hrow h'
  · rw [eq_of_bound hvdcs hv hv' hn hn']
  · exact absurd rfl (hapart n (List.mem_filterMap.2 ⟨v, hv, hn⟩) n
      (List.mem_filterMap.2 ⟨o', ho', hn'⟩))
  · exact absurd rfl (hapart n (List.mem_filterMap.2 ⟨v', hv', hn'⟩) n
      (List.mem_filterMap.2 ⟨o, ho, hn⟩))
  · rw [eq_of_bound horganizations ho ho' hn hn']

/-! ## What passes make of plots -/

/-- What the pass for a row makes of the plot of a namespace. -/
def actRow (s : Store) (n : String) (P : Plot) (p : OwnerPass) : Plot :=
  match s.duty? p with
  | some (m, d) => if m = n then d.act n P else P
  | none => P

theorem tidy_actRow {P : Plot} (h : P.Tidy n) (s : Store) (p : OwnerPass) :
    (s.actRow n P p).Tidy n := by
  unfold actRow
  split
  · split
    · exact Duty.tidy_act h _
    · exact h
  · exact h

/-- What a pass makes of the plot of a namespace at a time. -/
def act (s : Store) (n : String) (P : Plot) (e : OwnerPass × Timestamp) : Plot :=
  if e.1 = .orphans then P.flagged s.claimed e.2 n else s.actRow n P e.1

theorem actRow_flagged (s : Store) (n : String) (t : Timestamp) (P : Plot) (p : OwnerPass) :
    s.actRow n (P.flagged s.claimed t n) p = (s.actRow n P p).flagged s.claimed t n := by
  unfold actRow
  cases h : s.duty? p with
  | none => rfl
  | some e =>
    obtain ⟨m, d⟩ := e
    by_cases hm : m = n
    · subst hm
      simp only [if_true]
      exact Duty.act_flagged (spared_of_duty? h) t P
    · simp only [hm, if_false]

theorem actRow_comm (hs : s.BoundApart) (n : String) (P : Plot) (p q : OwnerPass) :
    s.actRow n (s.actRow n P p) q = s.actRow n (s.actRow n P q) p := by
  by_cases hpq : p = q
  · rw [hpq]
  · unfold actRow
    cases h : s.duty? p with
    | none => rfl
    | some e =>
      cases h' : s.duty? q with
      | none => rfl
      | some e' =>
        obtain ⟨m, d⟩ := e
        obtain ⟨m', d'⟩ := e'
        by_cases hm : m = n
        · have hm' : m' ≠ n := by
            rintro rfl
            subst hm
            exact hpq (hs.eq_of_duty? h h')
          simp only [hm', if_false]
        · simp only [hm, if_false]

theorem tidy_act {P : Plot} (h : P.Tidy n) (s : Store) (e : OwnerPass × Timestamp) :
    (s.act n P e).Tidy n := by
  unfold act
  split
  · exact Plot.tidy_flagged h _ _
  · exact tidy_actRow h s e.1

/-- Passes commute, but for two scans at different times. -/
theorem act_comm (hs : s.BoundApart) {e e' : OwnerPass × Timestamp}
    (h : e.1 = .orphans → e'.1 = .orphans → e = e') (n : String) (P : Plot) :
    s.act n (s.act n P e) e' = s.act n (s.act n P e') e := by
  unfold act
  by_cases he : e.1 = .orphans <;> by_cases he' : e'.1 = .orphans
  · rw [h he he']
  · simp only [he, he', if_true, if_false]
    exact s.actRow_flagged n e.2 P e'.1
  · simp only [he, he', if_true, if_false]
    exact (s.actRow_flagged n e'.2 P e.1).symm
  · simp only [he, he', if_false]
    exact actRow_comm hs n P e.1 e'.1

end Store

/-! ## Any order of passes -/

section

variable {s : Store} {l l' : List (OwnerPass × Timestamp)} {t : Timestamp}

/-- A round is a scan for orphans and one pass for each row. -/
theorem exists_rows_of_perm (h : (l.map Prod.fst).Perm s.ownerPasses) (ht : (.orphans, t) ∈ l) :
    ∃ rows, l.Perm (rows ++ [(.orphans, t)]) ∧ (rows.map Prod.fst).Perm s.rowPasses ∧
      ∀ e ∈ rows, e.1 ≠ OwnerPass.orphans := by
  have hl := List.perm_cons_erase ht
  have hrows : ((l.erase (.orphans, t)).map Prod.fst).Perm s.rowPasses :=
    ((hl.map Prod.fst).symm.trans h).cons_inv
  refine ⟨_, hl.trans (List.perm_append_singleton _ _).symm, hrows, fun e he horphans => ?_⟩
  have hmem : e.1 ∈ s.rowPasses := hrows.subset (List.mem_map_of_mem he)
  simp [horphans, Store.rowPasses] at hmem

namespace Store

/-- The passes of a round act in any order. -/
theorem BoundApart.foldl_act (hs : s.BoundApart) (h : (l.map Prod.fst).Perm s.ownerPasses)
    (ht : (.orphans, t) ∈ l) (hl : l.Perm l') (n : String) (P : Plot) :
    l.foldl (s.act n) P = l'.foldl (s.act n) P := by
  obtain ⟨rows, hrows, -, hne⟩ := exists_rows_of_perm h ht
  have hscan : ∀ e ∈ l, e.1 = OwnerPass.orphans → e = (.orphans, t) := by
    intro e he horphans
    rcases List.mem_append.1 (hrows.subset he) with hrow | hlast
    · exact absurd horphans (hne e hrow)
    · exact List.mem_singleton.1 hlast
  refine hl.foldl_eq' (fun e he e' he' Q => ?_) P
  exact act_comm hs (fun ho ho' => (hscan e he ho).trans (hscan e' he' ho').symm) n Q

/-- A round acts as the rows do in any order, and then the scan. -/
theorem BoundApart.foldl_act_eq (hs : s.BoundApart) (h : (l.map Prod.fst).Perm s.ownerPasses)
    (ht : (.orphans, t) ∈ l) (n : String) (P : Plot) :
    l.foldl (s.act n) P = (s.rowPasses.foldl (s.actRow n) P).flagged s.claimed t n := by
  obtain ⟨rows, hl, hrows, hne⟩ := exists_rows_of_perm h ht
  have hact : ∀ Q, rows.foldl (s.act n) Q = (rows.map Prod.fst).foldl (s.actRow n) Q := by
    intro Q
    rw [List.foldl_map]
    exact List.foldl_ext _ _ Q fun R e he => if_neg (hne e he)
  have hperm := hrows.foldl_eq' (fun p _ q _ Q => actRow_comm hs n Q p q) P
  rw [hs.foldl_act h ht hl, List.foldl_append, hact, hperm]
  show s.act n _ (.orphans, t) = _
  exact if_pos rfl

/-- After a round each duty is done as if it had come last. -/
theorem BoundApart.exists_act (hs : s.BoundApart) (h : (l.map Prod.fst).Perm s.ownerPasses)
    (ht : (.orphans, t) ∈ l) {p : OwnerPass} (hp : p ∈ s.ownerPasses) {n : String} {d : Duty}
    (hduty : s.duty? p = some (n, d)) (P : Plot) : ∃ Q, l.foldl (s.act n) P = d.act n Q := by
  obtain ⟨e, he, rfl⟩ := List.mem_map.1 (h.symm.subset hp)
  have hlast : l.Perm (l.erase e ++ [e]) :=
    (List.perm_cons_erase he).trans (List.perm_append_singleton _ _).symm
  have hne : e.1 ≠ .orphans := by
    intro horphans
    rw [horphans] at hduty
    cases hduty
  refine ⟨(l.erase e).foldl (s.act n) P, ?_⟩
  rw [hs.foldl_act h ht hlast, List.foldl_append]
  show s.act n _ e = _
  unfold act actRow
  rw [if_neg hne, hduty]
  exact if_pos rfl

end Store

end

/-! ## One pass -/

/-- How a pass ends: the one for an enabled virtual datacenter without a namespace fails and makes
no call to the cluster, and any other succeeds. -/
def OwnerPass.Ends (s : Store) (p : OwnerPass) (ran : Ran World (Result Unit)) : Prop :=
  match s.unbound? p with
  | some v => ran.value = .error (unbound v) ∧ ∀ c, Entry.call (.cluster c) ∉ ran.trace
  | none => ran.value = .ok ()

namespace Reconcile

variable {w w' : World} {n : String} {id : Uuid} {t : Trace}

/-- The pass for a row that is bound does its duty. -/
theorem vdc_does_duty (hw : w.faults = []) {v : Vdc} (hv : Table.get? w.store.vdcs id = some v)
    (hn : v.bound? = some n) (h : w.Does (v.duty.attempt n) () w' t) :
    w.Does (vdc id) () w' (.call (.store (.getVdc id)) :: t) := by
  refine World.Does.bind (.look hw rfl hv) ?_
  unfold Vdc.duty at h
  dsimp only
  rw [hn]
  by_cases hdeleted : v.isDeleted = true
  · rw [if_pos hdeleted] at h ⊢
    exact h
  · rw [if_neg hdeleted] at h ⊢
    by_cases henabled : (!v.enabled) = true
    · rw [if_pos henabled] at h ⊢
      exact h
    · rw [if_neg henabled] at h ⊢
      exact h

theorem organization_does_duty (hw : w.faults = []) {o : Organization}
    (ho : Table.get? w.store.organizations id = some o) (hn : o.bound? = some n)
    (h : w.Does (o.duty.attempt n) () w' t) :
    w.Does (organization id) () w' (.call (.store (.getOrganization id)) :: t) := by
  refine World.Does.bind (.look hw rfl ho) ?_
  unfold Organization.duty at h
  dsimp only
  rw [hn]
  dsimp only
  by_cases hdeleted : o.isDeleted = true
  · rw [if_pos hdeleted] at h ⊢
    exact h
  · rw [if_neg hdeleted] at h ⊢
    by_cases henabled : (!o.enabled) = true
    · rw [if_pos henabled] at h ⊢
      exact h
    · rw [if_neg henabled] at h ⊢
      exact h

end Reconcile

namespace OwnerPass

variable {w w' : World} {p : OwnerPass} {n : String} {d : Duty} {t : Trace}

/-- A pass with a duty looks up its row and does the duty. -/
theorem does_duty (hw : w.faults = []) (h : w.store.duty? p = some (n, d))
    (hd : w.Does (d.attempt n) () w' t) :
    ∃ c : StoreCall, c.isWrite = false ∧ w.Does p.attempt () w' (.call (.store c) :: t) := by
  cases p with
  | vdc id =>
    obtain ⟨v, hv, hn, rfl⟩ := Store.duty?_vdc h
    exact ⟨.getVdc id, rfl, vdc_does_duty hw hv hn hd⟩
  | organization id =>
    obtain ⟨o, ho, hn, rfl⟩ := Store.duty?_organization h
    exact ⟨.getOrganization id, rfl, organization_does_duty hw ho hn hd⟩
  | orphans => cases h

theorem unbound?_of_duty? {s : Store} (h : s.duty? p = some (n, d)) : s.unbound? p = none := by
  cases p with
  | vdc id =>
    obtain ⟨v, hv, hn, -⟩ := Store.duty?_vdc h
    rw [Store.unbound?, hv]
    simp [hn]
  | organization id => rfl
  | orphans => rfl

theorem ends_of_does {s : Store} (hs : s.unbound? p = none) (h : w.Does p.attempt () w' t) :
    p.Ends s (w.run p.attempt) := by
  unfold Ends
  rw [hs, h]

/-- The pass for a virtual datacenter without a namespace only looks at its row. -/
theorem idle_of_unbound (hw : w.faults = []) {id : Uuid} {v : Vdc}
    (hv : Table.get? w.store.vdcs id = some v) (hn : v.bound? = none) :
    let ran := w.run (Reconcile.vdc id)
    (vdc id).Ends w.store ran ∧ ran.state = w ∧ ran.trace = [.call (.store (.getVdc id))] := by
  have hlook : w.run (Attempt.store (.getVdc id)) =
      ⟨.ok (some v), w, [.call (.store (.getVdc id))]⟩ :=
    World.Does.look (c := .store (.getVdc id)) hw rfl hv
  have hrun : w.run (Reconcile.vdc id) = ⟨if v.isDeleted then .ok () else
      if !v.enabled then .ok () else .error (unbound v), w, [.call (.store (.getVdc id))]⟩ := by
    rw [Reconcile.vdc, World.run_bind, hlook]
    dsimp only
    rw [hn]
    by_cases hdeleted : v.isDeleted = true
    · rw [if_pos hdeleted, if_pos hdeleted]
      rfl
    · rw [if_neg hdeleted, if_neg hdeleted]
      by_cases henabled : (!v.enabled) = true
      · rw [if_pos henabled, if_pos henabled]
        rfl
      · rw [if_neg henabled, if_neg henabled]
        rfl
  have hunbound : w.store.unbound? (vdc id) =
      if !v.isDeleted && v.enabled then some v else none := by
    show (Table.get? w.store.vdcs id).filter _ = _
    rw [hv, Option.filter_some, hn]
    simp
  rw [hrun]
  refine ⟨?_, rfl, rfl⟩
  unfold Ends
  rw [hunbound]
  cases hdeleted : v.isDeleted <;> cases henabled : v.enabled <;> simp

/-- A pass for a row without a duty only looks at the row. -/
theorem idle_of_no_duty (hw : w.faults = []) (h : w.store.duty? p = none) (hp : p ≠ .orphans) :
    let ran := w.run p.attempt
    p.Ends w.store ran ∧ ran.state = w ∧ ∀ e ∈ ran.trace, e.IsIdle := by
  have hdone : ∀ {t : Trace}, w.store.unbound? p = none → w.Does p.attempt () w t →
      (∀ e ∈ t, e.IsIdle) → let ran := w.run p.attempt
      p.Ends w.store ran ∧ ran.state = w ∧ ∀ e ∈ ran.trace, e.IsIdle := by
    intro t hnone hdoes ht
    refine ⟨ends_of_does hnone hdoes, ?_⟩
    rw [hdoes]
    exact ⟨rfl, ht⟩
  have hlook : ∀ c : StoreCall, c.isWrite = false → ∀ m,
      ∀ e ∈ [Entry.call (.store c), .signal (.metric m)], e.IsIdle := by
    rintro c hc m e (_ | ⟨_, _ | ⟨_, ⟨⟩⟩⟩)
    · exact hc
    · trivial
  cases p with
  | vdc id =>
    cases hv : Table.get? w.store.vdcs id with
    | none =>
      have hnone : w.store.unbound? (vdc id) = none := by
        rw [Store.unbound?, hv]
        rfl
      exact hdone hnone (World.Does.bind (.look hw rfl hv) (.measure w _)) (hlook _ rfl _)
    | some v =>
      have hn : v.bound? = none := by
        rw [Store.duty?, hv] at h
        exact Option.map_eq_none_iff.1 h
      obtain ⟨hends, hstate, htrace⟩ := idle_of_unbound hw hv hn
      refine ⟨hends, hstate, fun e he => ?_⟩
      obtain rfl : e = .call (.store (.getVdc id)) := List.mem_singleton.1 (htrace ▸ he)
      exact rfl
  | organization id =>
    cases ho : Table.get? w.store.organizations id with
    | none => exact hdone rfl (World.Does.bind (.look hw rfl ho) (.measure w _)) (hlook _ rfl _)
    | some o =>
      have hn : o.bound? = none := by
        rw [Store.duty?, ho] at h
        exact Option.map_eq_none_iff.1 h
      have hdoes : w.Does (organization id).attempt () w
          ([.call (.store (.getOrganization id))] ++ [.signal
            (.metric (.skippedUpdate Vocabulary.organizationController "no_namespace"))]) := by
        refine World.Does.bind (.look hw rfl ho) ?_
        dsimp only
        rw [hn]
        exact .measure w _
      exact hdone rfl hdoes (hlook _ rfl _)
  | orphans => exact absurd rfl hp

/-- What a pass makes of a tidy cluster without faults. -/
theorem run_attempt (hw : w.faults = []) (htidy : w.cluster.Tidy) (p : OwnerPass) :
    let ran := w.run p.attempt
    p.Ends w.store ran ∧ ∃ c, ran.state = w.setCluster c ∧ w.cluster.Beside c ∧
      ∀ n, c.plot n = w.store.act n (w.cluster.plot n) (p, w.now) := by
  cases h : w.store.duty? p with
  | some e =>
    obtain ⟨n, d⟩ := e
    obtain ⟨c, t, hd, helse, hplot⟩ := d.makes hw htidy n
    obtain ⟨read, -, hdoes⟩ := does_duty hw h hd
    refine ⟨ends_of_does (unbound?_of_duty? h) hdoes, c, congrArg Ran.state hdoes, helse.beside,
      fun m => ?_⟩
    have hp : p ≠ .orphans := by
      rintro rfl
      cases h
    unfold Store.act Store.actRow
    rw [if_neg hp, h]
    dsimp only
    by_cases hm : n = m
    · subst hm
      rw [if_pos rfl, hplot]
    · rw [if_neg hm, helse.plot (Ne.symm hm)]
  | none =>
    by_cases hp : p = .orphans
    · subst hp
      obtain ⟨k, t, hflag⟩ := flagOrphans_does hw htidy
      have hdoes : w.Does orphans.attempt () _ _ := hflag.bind (.pure _ ())
      refine ⟨ends_of_does rfl hdoes, _, congrArg Ran.state hdoes, ⟨rfl, rfl, rfl⟩, fun n => ?_⟩
      exact Cluster.plot_flagged htidy _ _ n
    · obtain ⟨hends, hstate, -⟩ := idle_of_no_duty hw h hp
      refine ⟨hends, w.cluster, hstate, .refl _, fun n => ?_⟩
      unfold Store.act Store.actRow
      rw [if_neg hp, h]

/-- The pass has nothing left to do. -/
def Rests (s : Store) (c : Cluster) (p : OwnerPass) : Prop :=
  (∀ n d, s.duty? p = some (n, d) → d.Done n c) ∧
  (p = .orphans → ∀ ns ∈ c.namespaces.values, ns.needsFlag s.claimed = false)

/-- A pass that has nothing left to do only looks. -/
theorem Rests.run (hw : w.faults = []) (h : p.Rests w.store w.cluster) :
    let ran := w.run p.attempt
    p.Ends w.store ran ∧ ran.state = w ∧ ∀ e ∈ ran.trace, e.IsIdle := by
  cases hduty : w.store.duty? p with
  | some e =>
    obtain ⟨n, d⟩ := e
    obtain ⟨t, hd, ht⟩ := (h.1 n d hduty).does hw
    obtain ⟨c, hc, hdoes⟩ := does_duty hw hduty hd
    refine ⟨ends_of_does (unbound?_of_duty? hduty) hdoes, ?_⟩
    rw [hdoes]
    exact ⟨rfl, List.forall_mem_cons.2 ⟨hc, ht⟩⟩
  | none =>
    by_cases hp : p = .orphans
    · subst hp
      obtain ⟨t, hflag, ht⟩ := flagOrphans_idle hw (h.2 rfl)
      have hdoes : w.Does orphans.attempt () w (t ++ []) := hflag.bind (.pure w ())
      refine ⟨ends_of_does rfl hdoes, ?_⟩
      rw [hdoes, List.append_nil]
      exact ⟨rfl, ht⟩
    · exact idle_of_no_duty hw hduty hp

end OwnerPass

/-! ## Rounds -/

namespace World

open OwnerPass (attempt)

variable {w : World}

/-- A round acts on each plot, and ends as told. -/
theorem afterRound_act (hw : w.faults = []) (htidy : w.cluster.Tidy)
    (l : List (OwnerPass × Timestamp)) :
    let w' := w.afterRound attempt l
    w'.faults = [] ∧ w'.store = w.store ∧ w.cluster.Beside w'.cluster ∧
    (∀ n, w'.cluster.plot n = l.foldl (w.store.act n) (w.cluster.plot n)) ∧
    ∀ e ∈ w.round attempt l, e.1.Ends w.store e.2 := by
  induction l generalizing w with
  | nil => exact ⟨hw, rfl, .refl _, fun n => rfl, fun e he => nomatch he⟩
  | cons e rest ih =>
    obtain ⟨p, t⟩ := e
    obtain ⟨hends, c, hstate, hbeside, hplot⟩ :=
      OwnerPass.run_attempt (w := { w with now := t }) hw htidy p
    have hc : c.Tidy := Cluster.tidy_iff_plots.2 fun n =>
      (hplot n) ▸ Store.tidy_act (Cluster.tidy_iff_plots.1 htidy n) w.store (p, t)
    obtain ⟨hfaults, hstore, hbeside', hplot', hends'⟩ :=
      ih (w := { w with now := t }.setCluster c) hw hc
    unfold afterRound round
    dsimp only
    rw [hstate]
    refine ⟨hfaults, hstore, hbeside.trans hbeside', fun n => ?_, ?_⟩
    · rw [hplot', List.foldl_cons]
      exact congrArg (rest.foldl (w.store.act n)) (hplot n)
    · exact List.forall_mem_cons.2 ⟨hends, hends'⟩

/-- A round of passes that have nothing left to do only looks. -/
theorem round_idle (hw : w.faults = []) {l : List (OwnerPass × Timestamp)}
    (h : ∀ e ∈ l, e.1.Rests w.store w.cluster) :
    ∀ e ∈ w.round attempt l, e.1.Ends w.store e.2 ∧ ∀ x ∈ e.2.trace, x.IsIdle := by
  induction l generalizing w with
  | nil => exact fun e he => nomatch he
  | cons e rest ih =>
    obtain ⟨p, t⟩ := e
    obtain ⟨hrests, hrest⟩ := List.forall_mem_cons.1 h
    obtain ⟨hends, hstate, htrace⟩ := hrests.run (w := { w with now := t }) hw
    unfold round
    dsimp only
    rw [hstate]
    exact List.forall_mem_cons.2 ⟨⟨hends, htrace⟩, ih (w := { w with now := t }) hw hrest⟩

/-- A namespace that the controllers made for a virtual datacenter. -/
def managedNamespace (n : String) : Namespace where
  metadata := {
    name := some n
    labels := some (.ofList [
      (Vocabulary.managedByLabel, Vocabulary.managedByValue),
      (Vocabulary.kindLabel, Vocabulary.vdcKind)]) }

/-- A virtual datacenter is new, one has no namespace, one is deleted, and an organization takes a
namespace over that was made for another owner. Nobody claims the namespace that is left. -/
def borough : World where
  store := {
    vdcs := [boundVdc 1 "gold" "tenant-a" none, { boundVdc 2 "lost" "" none with ns := none },
      boundVdc 3 "old" "tenant-b" (some ⟨1, 0⟩)]
    organizations := [⟨.ofNat 4, "acme", "Acme", "", true, some "acme", none, ⟨0, 0⟩, ⟨0, 0⟩⟩] }
  cluster := {
    namespaces := .ofList (["acme", "stray", "tenant-b"].map fun n => (n, managedNamespace n)) }
  ids := ⟨.ofNat, .ofNat, 0, 0⟩
  now := ⟨0, 0⟩

/-- A round in which the scan comes first. -/
def boroughRound : List (OwnerPass × Timestamp) :=
  [(.orphans, ⟨7, 0⟩), (.vdc (.ofNat 1), ⟨8, 0⟩), (.vdc (.ofNat 2), ⟨9, 0⟩),
    (.vdc (.ofNat 3), ⟨10, 0⟩), (.organization (.ofNat 4), ⟨11, 0⟩)]

theorem tidy_borough : borough.cluster.Tidy := by
  have hnames : ∀ e ∈ borough.cluster.namespaces.toList, e.2.name = e.1 := by decide
  exact ⟨fun n ns h => hnames (n, ns) (Dict.get?_eq_some_iff.1 h), fun k q h => (nomatch h),
    fun k p h => (nomatch h)⟩

end World

end TenantCloud
