import TenantCloud.Proofs.Reconcile.Sheltered

/-!
# Passes keep sites sheltered

Each step of an owner's pass is specified by `Attempt.Keeps`: every call is made at a sheltered
site, every failure leaves one, and every success has its postcondition as well. The specification
of a whole pass is `OwnerPass.attempt_keeps`.
-/

set_option autoImplicit false

namespace TenantCloud

/-- The site is sheltered, and its rows are those that the pass began with. -/
def Site.Holds (tidy : Prop) (rows : Store) (s : Site) : Prop :=
  s.Sheltered tidy ∧ s.world.store = rows

theorem Site.Holds.same {tidy : Prop} {rows : Store} {s s' : Site} (h : s.Holds tidy rows)
    (hsame : Same s s') : s'.Holds tidy rows :=
  ⟨h.1.same hsame, hsame.store.trans h.2⟩

namespace Attempt

variable {α β : Type} {p : OwnerPass} {tidy : Prop} {rows : Store} {s : Site}

/-- Each call is made at a site that is kept, every failure leaves one that is kept, and so does
every success, with its postcondition. -/
def Keeps (p : OwnerPass) (tidy : Prop) (rows : Store) (Q : α → Site → Prop) (a : Attempt α)
    (s : Site) : Prop :=
  a.Always (Site.Responds p) (fun _ s => s.Holds tidy rows) (fun v s => s.Holds tidy rows ∧ Q v s)
    (·.Holds tidy rows) s

namespace Keeps

theorem pure {Q : α → Site → Prop} {v : α} (hs : s.Holds tidy rows) (hq : Q v s) :
    (Pure.pure v : Attempt α).Keeps p tidy rows Q s := ⟨hs, hq⟩

theorem bind {Q : β → Site → Prop} {a : Attempt α} {f : α → Attempt β}
    (h : a.Keeps p tidy rows (fun v s => (f v).Keeps p tidy rows Q s) s) :
    (a >>= f).Keeps p tidy rows Q s :=
  Always.bind (h.mono fun _ _ hv => hv.2)

theorem mono {Q Q' : α → Site → Prop} {a : Attempt α} (h : a.Keeps p tidy rows Q s)
    (hq : ∀ v s, s.Holds tidy rows → Q v s → Q' v s) : a.Keeps p tidy rows Q' s :=
  Always.mono h fun v s hv => ⟨hv.1, hq v s hv.1 hv.2⟩

/-- A site is kept from the start. -/
theorem here {Q : α → Site → Prop} {a : Attempt α} (h : a.Keeps p tidy rows Q s) :
    s.Holds tidy rows := by
  refine Pass.Always.here h (fun _ _ h => h) fun r s hr => ?_
  cases r with
  | ok v => exact hr.1
  | error e => exact hr

theorem call {c : Call} {Q : c.Answer → Site → Prop} (hs : s.Holds tidy rows)
    (hc : (s.carry p c).Holds tidy rows)
    (hq : ∀ v, (World.perform c s.world).1 = .ok v → Q v (s.carry p c)) :
    (Attempt.call c).Keeps p tidy rows Q s := by
  refine Always.call hs fun r s' hr => ?_
  cases hr with
  | failed => exact hs
  | carried =>
    cases hv : (World.perform c s.world).1 with
    | ok v => exact ⟨hc, hq v hv⟩
    | error e => exact hc

/-- What each call keeps, the attempt keeps. -/
theorem of_makes {P : Call → Prop} {a : Attempt α} (h : a.Makes P) {J : Site → Prop}
    (hP : ∀ c (s : Site), P c → s.Holds tidy rows → J s →
      (s.carry p c).Holds tidy rows ∧ J (s.carry p c))
    (hs : s.Holds tidy rows) (hj : J s) : a.Keeps p tidy rows (fun _ s => J s) s := by
  have hstep : ∀ (c : Call) (s : Site) r (s' : Site), P c → s.Holds tidy rows ∧ J s →
      Site.Responds p c s r s' → s'.Holds tidy rows ∧ J s' := by
    rintro c s r s' hc ⟨hs, hj⟩ hr
    cases hr with
    | failed => exact ⟨hs, hj⟩
    | carried => exact hP c s hc hs hj
  refine Pass.Always.mono (Pass.Makes.always h hstep ⟨hs, hj⟩) (fun _ _ h => h.1) fun r s hr => ?_
  cases r with
  | ok v => exact hr
  | error e => exact hr.1

/-- Calls that leave everything alone keep what depends on nothing else. -/
theorem quiet {a : Attempt α} (h : a.Makes Call.IsQuiet) {J : Site → Prop}
    (hJ : ∀ s s', J s → Site.Same s s' → J s') (hs : s.Holds tidy rows) (hj : J s) :
    a.Keeps p tidy rows (fun _ s => J s) s := by
  refine of_makes h (fun c s hc hs hj => ?_) hs hj
  have hsame : Site.Same s (s.carry p c) := Site.same_carry hc
  exact ⟨hs.same hsame, hJ _ _ hj hsame⟩

end Keeps

end Attempt

/-! ## Steps of the pass for a virtual datacenter -/

namespace Site

/-- The namespace is there, has its policy and does not wait for it. -/
def Isolated (n : String) (s : Site) : Prop :=
  s.world.cluster.mark? n = some false ∧ (s.world.cluster.isolation? n).isSome

/-- The namespace is there and does not wait for its policy, and if a pass for a virtual datacenter
created it, it has the policy. -/
def Settled (n : String) (s : Site) : Prop :=
  s.world.cluster.mark? n = some false ∧
    (n ∈ s.made → (s.world.cluster.isolation? n).isSome)

theorem Sheltered.settled {tidy : Prop} {s : Site} {n : String} (hs : s.Sheltered tidy)
    (hn : s.world.cluster.mark? n = some false) : s.Settled n := by
  refine ⟨hn, fun hm => ?_⟩
  obtain ⟨b, hb, h⟩ := hs.marked n hm
  rw [hn] at hb
  cases hb
  exact h.resolve_left Bool.noConfusion

end Site

namespace Reconcile

open Attempt

variable {p : OwnerPass} {tidy : Prop} {rows : Store} {s : Site}

theorem completeIsolation_keeps {n : String} (hs : s.Holds tidy rows)
    (hn : (s.world.cluster.mark? n).isSome) :
    (completeIsolation n).Keeps p tidy rows (fun _ s => s.Isolated n) s := by
  have hpolicy := Site.isolation?_createPolicy (p := p) (s := s) n
  have hs' : (s.carry p (.cluster (.createNetworkPolicy n .defaultDeny))).Holds tidy rows :=
    ⟨hs.1.createPolicy hn, hs.2⟩
  refine .bind (.call hs hs' fun _ _ => ?_)
  refine .call hs' ⟨hs'.1.unmark hpolicy, (Site.store_carry _).trans hs'.2⟩ fun _ _ => ⟨?_, ?_⟩
  · obtain ⟨b, hb⟩ := Option.isSome_iff_exists.1 hn
    refine (Site.mark?_unmark n n).trans ?_
    rw [if_pos rfl]
    exact congrArg (Option.map _) hb
  · exact (congrArg Option.isSome (Site.isolation?_unmark n n)).trans hpolicy

theorem isPending_pendingNamespace (n : String) (m : NamespaceMeta) :
    (pendingNamespace n m).isPending = true := by
  show ((m.annotations.insert _ _).get? _).isSome = true
  rw [Dict.get?_insert, if_pos rfl]
  rfl

theorem createIsolated_keeps {id : Uuid} {n : String} {m : NamespaceMeta}
    {hard : Dict String String} (hs : s.Holds tidy rows) :
    (createIsolated n m hard).Keeps (.vdc id) tidy rows (fun _ s => s.Isolated n) s := by
  have hs' : (s.carry (.vdc id) (.cluster (.createNamespace (pendingNamespace n m)))).Holds
      tidy rows :=
    ⟨hs.1.createNamespace fun _ _ => isPending_pendingNamespace n m, hs.2⟩
  have hmark : ((s.carry (.vdc id)
      (.cluster (.createNamespace (pendingNamespace n m)))).world.cluster.mark? n).isSome := by
    refine (congrArg Option.isSome (Cluster.mark?_createNamespace _ n)).trans ?_
    have hname : (pendingNamespace n m).name = n := rfl
    rw [hname, if_pos rfl]
    cases s.world.cluster.mark? n <;> rfl
  refine .bind (.call hs hs' fun _ _ => ?_)
  have hquota : ∀ q, (Attempt.cluster (.createResourceQuota n q)).Makes Call.IsQuiet :=
    fun _ => .call trivial
  refine .bind (Keeps.mono (.quiet (hquota _) (J := fun s => (s.world.cluster.mark? n).isSome)
    (fun s s' h hsame => (congrArg Option.isSome (hsame.mark n)).trans h) hs' hmark) ?_)
  exact fun _ s hs hn => completeIsolation_keeps hs hn

theorem convergeMetadata_quiet {ns : Namespace} {m : NamespaceMeta}
    (hm : m.annotations.get? Vocabulary.isolationPendingAnnotation = none) :
    (convergeMetadata ns m).Makes Call.IsQuiet := by
  refine (convergeMetadata_makes ns m).mono ?_
  rintro _ rfl
  exact NamespaceMeta.get?_annotationPatch ns hm (by decide)

theorem vdc_wants_no_mark (v : Vdc) :
    v.namespaceMeta.annotations.get? Vocabulary.isolationPendingAnnotation = none := by
  have hne : Vocabulary.isolationPendingAnnotation ≠ Vocabulary.vdcNameAnnotation := by decide
  exact Dict.get?_ofList_of_not_mem (mt List.mem_singleton.1 hne)

theorem organization_wants_no_mark (o : Organization) :
    o.namespaceMeta.annotations.get? Vocabulary.isolationPendingAnnotation = none := by
  have hne : Vocabulary.isolationPendingAnnotation ≠ Vocabulary.organizationNameAnnotation := by
    decide
  exact Dict.get?_ofList_of_not_mem (mt List.mem_singleton.1 hne)

theorem convergeQuota_quiet (n : String) (hard : Dict String String) :
    (convergeQuota n hard).Makes Call.IsQuiet :=
  (convergeQuota_makes n hard).mono <| by rintro _ (rfl | rfl | rfl) <;> trivial

theorem convergeVdc_keeps {id : Uuid} {v : Vdc} {n : String} (hs : s.Holds tidy rows) :
    (convergeVdc v n).Keeps (.vdc id) tidy rows (fun _ s => s.Settled n) s := by
  refine .bind (.call hs hs fun found hfound => ?_)
  cases found with
  | none => exact (createIsolated_keeps hs).mono fun _ _ hs hn => hs.1.settled hn.1
  | some ns =>
    -- The mark that was found stays until the isolation is completed.
    have hmark : s.world.cluster.mark? n = some ns.isPending :=
      congrArg (Option.map Namespace.isPending) (Except.ok.inj hfound)
    have hsame : ∀ s s' : Site, s.world.cluster.mark? n = some ns.isPending → Site.Same s s' →
        s'.world.cluster.mark? n = some ns.isPending :=
      fun s s' h hsame => (hsame.mark n).trans h
    refine .bind (Keeps.mono (.quiet (convergeMetadata_quiet (vdc_wants_no_mark v)) hsame hs hmark)
      fun _ s hs hmark => ?_)
    refine .bind (Keeps.mono (.quiet (convergeQuota_quiet n _) hsame hs hmark)
      fun _ s hs hmark => ?_)
    split
    · refine (completeIsolation_keeps hs ?_).mono fun _ _ hs hn => hs.1.settled hn.1
      rw [hmark]
      rfl
    · rename_i hpend
      refine .pure hs (hs.1.settled ?_)
      rw [hmark]
      exact congrArg some (Bool.not_eq_true _ ▸ hpend)

/-! ## Passes -/

/-- The call is quiet or deletes a namespace. -/
def Removes (c : Call) : Prop := c.IsQuiet ∨ ∃ n, c = .cluster (.deleteNamespace n)

theorem carry_removes {c : Call} (hc : Removes c) (hs : s.Holds tidy rows) :
    (s.carry p c).Holds tidy rows := by
  rcases hc with hc | ⟨n, rfl⟩
  · exact hs.same (Site.same_carry hc)
  · exact ⟨hs.1.deleteNamespace n, hs.2⟩

theorem keeps_of_removes {α : Type} {a : Attempt α} (h : a.Makes Removes)
    (hs : s.Holds tidy rows) : a.Keeps p tidy rows (fun _ _ => True) s :=
  .of_makes h (fun _ _ hc hs _ => ⟨carry_removes hc hs, trivial⟩) hs trivial

theorem ensureAbsent_removes (n : String) : (ensureAbsent n).Makes Removes :=
  (ensureAbsent_makes n).mono <| by
    rintro _ (rfl | rfl)
    · exact .inl trivial
    · exact .inr ⟨n, rfl⟩

theorem markDisabled_quiet (n : String) : (markDisabled n).Makes Call.IsQuiet :=
  (markDisabled_makes n).mono <| by
    rintro _ (rfl | rfl)
    · trivial
    · show Dict.get? (Dict.single _ _) _ = none
      decide

/-- After a success for a row that is enabled and not deleted, its namespace is settled. -/
theorem vdc_keeps {id : Uuid} (hs : s.Holds tidy rows) :
    (vdc id).Keeps (.vdc id) tidy rows (fun _ s => ∀ v, Table.get? rows.vdcs id = some v →
      v.isDeleted = false → v.enabled = true → ∃ n, v.bound? = some n ∧ s.Settled n) s := by
  refine .bind (.call hs hs fun found hfound => ?_)
  have hrow : Table.get? rows.vdcs id = found := hs.2 ▸ Except.ok.inj hfound
  cases found with
  | none =>
    refine Keeps.mono (keeps_of_removes (.measure _) hs) ?_
    intro _ s _ _ v hv
    rw [hrow] at hv
    cases hv
  | some v =>
    have hv : ∀ v', Table.get? rows.vdcs id = some v' → v' = v := fun v' h =>
      (Option.some.inj (hrow.symm.trans h)).symm
    dsimp only
    split
    · rename_i hdel
      refine Keeps.mono (Q := fun _ _ => True) ?_ fun _ s _ _ v' h hdel' => ?_
      · split
        · exact keeps_of_removes (.bind (ensureAbsent_removes _) fun _ => .pure _) hs
        · exact .pure hs trivial
      · rw [hv v' h, hdel] at hdel'
        cases hdel'
    · split
      · rename_i hoff
        refine Keeps.mono (Q := fun _ _ => True) ?_ fun _ s _ _ v' h _ hon => ?_
        · split
          · exact keeps_of_removes (.bind ((markDisabled_quiet _).mono fun _ => .inl)
            fun _ => .pure _) hs
          · exact .pure hs trivial
        · rw [hv v' h] at hon
          rw [hon] at hoff
          cases hoff
      · split
        · rename_i n hn
          refine (convergeVdc_keeps hs).mono fun _ s _ hset v' h _ _ => ?_
          rw [hv v' h]
          exact ⟨n, hn, hset⟩
        · exact Always.throw hs

/-- The call is quiet, or creates or deletes a namespace. -/
def Replaces (c : Call) : Prop := Removes c ∨ ∃ ns, c = .cluster (.createNamespace ns)

theorem organization_replaces (id : Uuid) : (organization id).Makes Replaces := by
  refine .bind (.call (.inl (.inl rfl))) fun found => ?_
  cases found with
  | none => exact .measure _
  | some o =>
    dsimp only
    split
    · exact .measure _
    · split
      · exact .bind ((ensureAbsent_removes _).mono fun _ => .inl) fun _ => .pure _
      · split
        · exact .bind ((markDisabled_quiet _).mono fun _ hc => .inl (.inl hc)) fun _ => .pure _
        · refine .bind (.call (.inl (.inl trivial))) fun found => ?_
          cases found with
          | none => exact .call (.inr ⟨_, rfl⟩)
          | some ns =>
            exact .bind ((convergeMetadata_quiet (organization_wants_no_mark o)).mono
              fun _ hc => .inl (.inl hc)) fun _ => .pure _

theorem organization_keeps {id : Uuid} (hs : s.Holds tidy rows) :
    (organization id).Keeps (.organization id) tidy rows (fun _ _ => True) s := by
  refine .of_makes (organization_replaces id) (fun c s hc hs _ => ⟨?_, trivial⟩) hs trivial
  rcases hc with hc | ⟨ns, rfl⟩
  · exact carry_removes hc hs
  · exact ⟨hs.1.createNamespace (fun _ h => by cases h), hs.2⟩

theorem flagOrphans_quiet : flagOrphans.Makes Call.IsQuiet := by
  refine .bind (.call rfl) fun _ => .bind (.call trivial) fun _ => ?_
  refine (flagEach_makes _).mono ?_
  rintro _ ⟨ns, -, t, rfl⟩
  show Dict.get? (Dict.single _ _) _ = none
  rw [Dict.get?_single, if_neg (by decide)]

end Reconcile

namespace OwnerPass

/-- What a success of the pass brings about. -/
def Achieves (p : OwnerPass) (rows : Store) (s : Site) : Prop :=
  ∀ id v, p = .vdc id → Table.get? rows.vdcs id = some v → v.isDeleted = false →
    v.enabled = true → ∃ n, v.bound? = some n ∧ s.Settled n

theorem attempt_keeps {p : OwnerPass} {tidy : Prop} {rows : Store} {s : Site}
    (hs : s.Holds tidy rows) : p.attempt.Keeps p tidy rows (fun _ => p.Achieves rows) s := by
  cases p with
  | vdc id =>
    refine (Reconcile.vdc_keeps hs).mono fun _ s _ h id' v he => ?_
    cases he
    exact h v
  | organization id =>
    exact (Reconcile.organization_keeps hs).mono fun _ _ _ _ _ _ he => by cases he
  | orphans =>
    refine Attempt.Keeps.mono (Reconcile.keeps_of_removes
      (.bind (Reconcile.flagOrphans_quiet.mono fun _ => .inl) fun _ => .pure _) hs) ?_
    exact fun _ _ _ _ _ _ he => by cases he

end OwnerPass

end TenantCloud
