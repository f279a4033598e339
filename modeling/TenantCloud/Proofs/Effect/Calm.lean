import TenantCloud.Proofs.Cluster.Elsewhere
import TenantCloud.Proofs.Effect.Always
import TenantCloud.Proofs.Effect.Runs

/-!
# Runs that succeed

`World.Does` says all of a run that succeeds: its value, the world it leaves, and its trace. In a
world without faults each call that the store and the cluster answer well is such a run
(`World.Does.call`), and they follow one another (`World.Does.bind`). `World.Grants` says of a run
what it leaves if it succeeds. For the calls that change the cluster, what they make of it.
-/

set_option autoImplicit false

namespace TenantCloud

namespace World

variable {α β : Type} {w w' w'' : World} {t t' : Trace}

/-- The world with another cluster. -/
def setCluster (w : World) (c : Cluster) : World := { w with cluster := c }

/-- The attempt succeeds with this value, leaves this world and does these things. -/
def Does (w : World) (a : Attempt α) (v : α) (w' : World) (t : Trace) : Prop :=
  w.run a = ⟨.ok v, w', t⟩

theorem Does.pure (w : World) (v : α) : w.Does (pure v) v w [] := rfl

theorem Does.measure (w : World) (m : Measurement) :
    w.Does (Attempt.measure m) () w [.signal (.metric m)] := rfl

theorem Does.publish (w : World) (object : ObjectReference) (event : Event) :
    w.Does (Attempt.publish object event) () w [.signal (.event object event)] := rfl

theorem Does.bind {a : Attempt α} {f : α → Attempt β} {v : α} {b : β} (h : w.Does a v w' t)
    (h' : w'.Does (f v) b w'' t') : w.Does (a >>= f) b w'' (t ++ t') := by
  unfold Does at *
  rw [run_bind, h]
  dsimp only
  rw [h']

section

variable {a b : Attempt α} {v : α} {p : Prop} [Decidable p]

theorem Does.ite_pos (hp : p) (h : w.Does a v w' t) : w.Does (if p then a else b) v w' t := by
  rw [if_pos hp]
  exact h

theorem Does.ite_neg (hp : ¬p) (h : w.Does b v w' t) : w.Does (if p then a else b) v w' t := by
  rw [if_neg hp]
  exact h

end

theorem answer_of_calm (hw : w.faults = []) (c : Call) : answer c w = perform c w := by
  obtain ⟨store, cluster, ids, faults, now⟩ := w
  subst hw
  rfl

/-- What the store and the cluster answer leaves the faults and the time alone. -/
theorem perform_cases (c : Call) (w : World) :
    ∃ store cluster ids, (perform c w).2 = { w with store, cluster, ids } := by
  have hchange : ∀ r, ∃ store cluster ids,
      (w.changeCluster r).2 = { w with store, cluster, ids } := by
    rintro (e | cluster)
    · exact ⟨w.store, w.cluster, w.ids, rfl⟩
    · exact ⟨w.store, cluster, w.ids, rfl⟩
  cases c with
  | cluster c => cases c <;> first | exact hchange _ | exact ⟨w.store, w.cluster, w.ids, rfl⟩
  | store c =>
    cases c with
    | createVApp new =>
      show ∃ store cluster ids,
        (w.performStore (.createVApp new)).2 = { w with store, cluster, ids }
      unfold performStore
      dsimp only
      split <;> exact ⟨_, _, _, rfl⟩
    | createVm new =>
      show ∃ store cluster ids, (w.performStore (.createVm new)).2 = { w with store, cluster, ids }
      unfold performStore
      dsimp only
      split <;> exact ⟨_, _, _, rfl⟩
    | _ => exact ⟨_, w.cluster, w.ids, rfl⟩

theorem faults_perform (c : Call) (w : World) : (perform c w).2.faults = w.faults := by
  obtain ⟨store, cluster, ids, h⟩ := perform_cases c w
  rw [h]

/-- Where there are no faults, none come up, and it is the same time after a run. -/
theorem run_calm (hw : w.faults = []) (a : Attempt α) :
    (w.run a).state.faults = [] ∧ (w.run a).state.now = w.now := by
  have hrun : ∀ (p : Pass (Result α)) (w : World), w.faults = [] →
      (p.run handler w).state.faults = [] ∧ (p.run handler w).state.now = w.now := by
    intro p
    induction p with
    | done r => exact fun w hw => ⟨hw, rfl⟩
    | ask c next ih =>
      intro w hw
      obtain ⟨store, cluster, ids, hstate⟩ := perform_cases c w
      rw [← answer_of_calm hw] at hstate
      obtain ⟨hfaults, hnow⟩ := ih (answer c w).1 (answer c w).2 (by rw [hstate, hw])
      exact ⟨hfaults, hnow.trans (by rw [hstate])⟩
    | tell signal next ih => exact ih
    | clock next ih => exact fun w hw => ih _ w hw
  exact hrun a.run w hw

theorem Does.call {c : Call} {a : c.Answer} (hw : w.faults = [])
    (h : perform c w = (.ok a, w')) : w.Does (Attempt.call c) a w' [.call c] := by
  unfold Does
  rw [run_call, answer_of_calm hw, h]

/-- A call that only looks, and what it finds. -/
theorem Does.look {c : Call} {a b : c.Answer} (hw : w.faults = []) (h : perform c w = (.ok a, w))
    (hab : a = b) : w.Does (Attempt.call c) b w [.call c] :=
  .call hw (hab ▸ h)

/-- A call whose failure is looked at. -/
theorem Does.tried {c : Call} {r : Result c.Answer} (hw : w.faults = [])
    (h : perform c w = (r, w')) : w.Does (Attempt.outcome (Attempt.call c)) r w' [.call c] := by
  have hanswer : answer c w = (r, w') := (answer_of_calm hw c).trans h
  have hrun : w.run (Attempt.outcome (Attempt.call c)) =
      ⟨.ok (answer c w).1, (answer c w).2, [.call c]⟩ := rfl
  rw [Does, hrun, hanswer]

/-! ## What successes leave -/

/-- Every success of the attempt satisfies `Q`. -/
def Grants (w : World) (Q : α → World → Prop) (a : Attempt α) : Prop :=
  ∀ v, (w.run a).value = .ok v → Q v (w.run a).state

namespace Grants

variable {Q Q' : α → World → Prop}

theorem pure {v : α} (h : Q v w) : w.Grants Q (Pure.pure v) := by
  rintro _ ⟨⟩
  exact h

theorem throw (e : Error) : w.Grants Q (throw e : Attempt α) := nofun

theorem measure {Q : Unit → World → Prop} (m : Measurement) (h : Q () w) :
    w.Grants Q (Attempt.measure m) := fun _ _ => h

theorem publish {Q : Unit → World → Prop} (object : ObjectReference) (event : Event)
    (h : Q () w) : w.Grants Q (Attempt.publish object event) := fun _ _ => h

theorem mono {a : Attempt α} (h : w.Grants Q a) (hq : ∀ v w, Q v w → Q' v w) : w.Grants Q' a :=
  fun v hv => hq v _ (h v hv)

theorem bind {Q : β → World → Prop} {a : Attempt α} {f : α → Attempt β}
    (h : w.Grants (fun v w' => w'.Grants Q (f v)) a) : w.Grants Q (a >>= f) := by
  intro b hb
  obtain ⟨v, hv, hb⟩ := value_bind hb
  rw [run_bind_of_ok hv]
  exact h v hv b hb

theorem of_does {a : Attempt α} {v : α} (h : w.Does a v w' t) (hq : Q v w') : w.Grants Q a := by
  intro v' hv'
  rw [h] at hv' ⊢
  cases hv'
  exact hq

/-- A call that is answered by the store and the cluster. -/
theorem call {c : Call} {Q : c.Answer → World → Prop} (hw : w.faults = [])
    (h : ∀ v, (perform c w).1 = .ok v → Q v (perform c w).2) : w.Grants Q (Attempt.call c) := by
  rw [← answer_of_calm hw] at h
  exact h

/-- Its failure is looked at. -/
theorem tried {c : Call} {Q : Result c.Answer → World → Prop} (hw : w.faults = [])
    (h : Q (perform c w).1 (perform c w).2) :
    w.Grants Q (Attempt.outcome (Attempt.call c)) :=
  of_does (.tried hw rfl) h

/-- What none of its calls breaks is left. -/
theorem of_makes {P : Call → Prop} {I : World → Prop} {a : Attempt α} (h : a.Makes P)
    (hI : ∀ c w, P c → I w → I (answer c w).2) (hw : I w) : w.Grants (fun _ => I) a :=
  fun _ _ => Pass.Makes.keeps h hI hw

end Grants

/-- The world with another store. -/
def setStore (w : World) (s : Store) : World := { w with store := s }

/-! ## Changes of the cluster -/

theorem Does.change {c : ClusterCall} {a : c.Answer} {cluster : Cluster} (hw : w.faults = [])
    (h : w.performCluster c = (.ok a, w.setCluster cluster)) :
    w.Does (Attempt.cluster c) a (w.setCluster cluster) [.call (.cluster c)] :=
  .call hw h

section

variable {n : String}

theorem does_patchNamespace (hw : w.faults = []) {ns : Namespace}
    (h : w.cluster.namespaces.get? n = some ns) (l a : LabelPatch) :
    w.Does (Attempt.cluster (.patchNamespaceMetadata n l a)) ()
      (w.setCluster (w.cluster.setNamespace n (ns.patched l a)))
      [.call (.cluster (.patchNamespaceMetadata n l a))] := by
  refine .change hw ?_
  rw [performCluster, Cluster.patchNamespace_of_get? h]
  rfl

theorem does_createNamespace (hw : w.faults = []) {ns : Namespace}
    (h : w.cluster.namespaces.get? ns.name = none) :
    w.Does (Attempt.cluster (.createNamespace ns)) ()
      (w.setCluster (w.cluster.setNamespace ns.name ns))
      [.call (.cluster (.createNamespace ns))] := by
  refine .change hw ?_
  rw [performCluster, Cluster.createNamespace_of_missing h]
  rfl

theorem does_createQuota (hw : w.faults = []) {q : ResourceQuota}
    (h : w.cluster.quotas.get? ⟨n, q.metadata.objectName⟩ = none) :
    w.Does (Attempt.cluster (.createResourceQuota n q)) ()
      (w.setCluster (w.cluster.setQuota ⟨n, q.metadata.objectName⟩ q))
      [.call (.cluster (.createResourceQuota n q))] := by
  refine .change hw ?_
  rw [performCluster, Cluster.createQuota_of_missing h]
  rfl

theorem does_replaceQuotaHard (hw : w.faults = []) {name : String} {q : ResourceQuota}
    (h : w.cluster.quotas.get? ⟨n, name⟩ = some q) (hard : Dict String String) :
    w.Does (Attempt.cluster (.replaceResourceQuotaHard n name hard)) ()
      (w.setCluster (w.cluster.setQuota ⟨n, name⟩ (q.setHard hard)))
      [.call (.cluster (.replaceResourceQuotaHard n name hard))] := by
  refine .change hw ?_
  rw [performCluster, Cluster.replaceQuotaHard_of_get? h]
  rfl

theorem does_createPolicy (hw : w.faults = []) (p : NetworkPolicy) :
    w.Does (Attempt.cluster (.createNetworkPolicy n p)) ()
      (w.setCluster (w.cluster.createPolicy n p)) [.call (.cluster (.createNetworkPolicy n p))] :=
  .change hw rfl

end

end World

end TenantCloud
