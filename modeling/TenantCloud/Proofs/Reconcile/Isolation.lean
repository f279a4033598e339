import TenantCloud.Proofs.Reconcile.Keeping

/-!
# Isolation survives interruption

A run goes from pass to pass, with other rows in between and passes that break off at any point
(`Moment.Next`). At every moment of it a namespace that a pass for a virtual datacenter created
waits for its policy or has it, and where such a pass succeeds its namespace has the policy and
waits no longer (`Moment.isolation_survives_interruption`).
-/

set_option autoImplicit false

namespace TenantCloud

/-- A moment of a run: between passes, or in a pass, with what is left of it. -/
inductive Moment
  | idle (s : Site)
  | busy (p : OwnerPass) (rest : Pass (Result Unit)) (s : Site)

namespace Moment

/-- Where the run has come to. -/
def site : Moment → Site
  | idle s | busy _ _ s => s

/-- Rows change between passes only, and a pass may break off anywhere. -/
inductive Next : Moment → Moment → Prop
  | edit {s : Site} (rows : Store) : Next (idle s) (idle { s with world.store := rows })
  | start {s : Site} (p : OwnerPass) : Next (idle s) (busy p p.attempt.run s)
  | go {p : OwnerPass} {rest rest' : Pass (Result Unit)} {s s' : Site} :
      Pass.Step (Site.Responds p) (rest, s) (rest', s') → Next (busy p rest s) (busy p rest' s')
  | stop {p : OwnerPass} {rest : Pass (Result Unit)} {s : Site} : Next (busy p rest s) (idle s)

/-- A run: what can come of a world in which nothing is made yet. -/
def Reaches (w : World) : Moment → Prop := Relation.ReflTransGen Next (idle { world := w })

/-- The site is sheltered, and what is left of a pass keeps it so. -/
def Safe (tidy : Prop) : Moment → Prop
  | idle s => s.Sheltered tidy
  | busy p rest s => ∃ rows,
      Attempt.Keeps p tidy rows (fun _ => p.Achieves rows) (ExceptT.mk rest) s

theorem Safe.sheltered {tidy : Prop} {m : Moment} (h : m.Safe tidy) : m.site.Sheltered tidy := by
  cases m with
  | idle s => exact h
  | busy p rest s =>
    obtain ⟨rows, h⟩ := h
    exact h.here.1

theorem Safe.next {tidy : Prop} {m m' : Moment} (h : m.Safe tidy) (hn : Next m m') :
    m'.Safe tidy := by
  cases hn with
  | edit rows => exact ⟨h.marked, h.housed, h.denied⟩
  | start p => exact ⟨_, OwnerPass.attempt_keeps ⟨h, rfl⟩⟩
  | go hstep =>
    obtain ⟨rows, h⟩ := h
    exact ⟨rows, Pass.Always.step h hstep⟩
  | stop => exact h.sheltered

theorem Reaches.safe {w : World} {m : Moment} (h : Reaches w m) : m.Safe w.cluster.Housed := by
  induction h with
  | refl =>
    exact ⟨fun _ h => absurd h List.not_mem_nil, id, fun _ _ h => absurd h List.not_mem_nil⟩
  | tail _ hn ih => exact ih.next hn

/-- **Isolation survives interruption.** Wherever calls fail and passes break off, a namespace that
a pass for a virtual datacenter created and that was not deleted since waits for its policy or has
it; and when such a pass succeeds for a row that is enabled and not deleted, the namespace of the
row has the policy and waits no longer. The policy lets nothing in, unless a policy of that name
lay about before the run in a namespace that was not there. -/
theorem isolation_survives_interruption {w : World} {m : Moment} (h : Reaches w m) :
    (∀ n ∈ m.site.made, ∃ ns, m.site.world.cluster.namespaces.get? n = some ns ∧
      (ns.hasAnnotation Vocabulary.isolationPendingAnnotation = true ∨
        ∃ q, m.site.world.cluster.policies.get? ⟨n, Vocabulary.policyName⟩ = some q ∧
          (w.cluster.Housed → q = .defaultDeny))) ∧
    ∀ id s v, m = busy (.vdc id) (.done (.ok ())) s → Table.get? s.world.store.vdcs id = some v →
      v.isDeleted = false → v.enabled = true → ∃ n ns, v.bound? = some n ∧
        s.world.cluster.namespaces.get? n = some ns ∧
        ns.hasAnnotation Vocabulary.isolationPendingAnnotation = false ∧
        (n ∈ s.made → ∃ q, s.world.cluster.policies.get? ⟨n, Vocabulary.policyName⟩ = some q ∧
          (w.cluster.Housed → q = .defaultDeny)) := by
  have hs := h.safe.sheltered
  refine ⟨fun n hn => ?_, fun id s v hm hv hdel hon => ?_⟩
  · obtain ⟨pending, hmark, hor⟩ := hs.marked n hn
    obtain ⟨ns, hns, rfl⟩ := Option.map_eq_some_iff.1 hmark
    refine ⟨ns, hns, hor.imp_right fun hq => ?_⟩
    obtain ⟨q, hq⟩ := Option.isSome_iff_exists.1 hq
    exact ⟨q, hq, fun ht => hs.denied ht n hn q hq⟩
  · subst hm
    obtain ⟨rows, hdone⟩ := h.safe
    obtain ⟨⟨-, rfl⟩, hach⟩ := hdone
    obtain ⟨n, hn, hmark, hpol⟩ := hach id v rfl hv hdel hon
    obtain ⟨ns, hns, hpend⟩ := Option.map_eq_some_iff.1 hmark
    refine ⟨n, ns, hn, hns, hpend, fun hmade => ?_⟩
    obtain ⟨q, hq⟩ := Option.isSome_iff_exists.1 (hpol hmade)
    exact ⟨q, hq, fun ht => hs.denied ht n hmade q hq⟩

/-! ## A creation that breaks off -/

/-- Carry out the calls of a pass but those that are to fail. -/
def carryOut (p : OwnerPass) (fails : Call → Bool) : Handler Site where
  answer c s :=
    if fails c then (.error (.malformed "broken"), s)
    else ((World.perform c s.world).1, s.carry p c)
  now s := s.world.now

/-- A pass against chosen failures is a part of a run. -/
theorem Reaches.pass {w : World} {s : Site} (h : Reaches w (idle s)) (p : OwnerPass)
    (fails : Call → Bool) :
    Reaches w (busy p (.done (p.attempt.run.run (carryOut p fails) s).value)
      (p.attempt.run.run (carryOut p fails) s).state) := by
  have hresponds : ∀ c s,
      Site.Responds p c s ((carryOut p fails).answer c s).1 ((carryOut p fails).answer c s).2 := by
    intro c s
    show Site.Responds p c s (if _ then _ else _ : _ × _).1 (if _ then _ else _ : _ × _).2
    split
    · exact .failed c s _
    · exact .carried c s
  have hwalk := Pass.steps_run hresponds p.attempt.run s
  exact (h.tail (.start p)).trans (hwalk.lift (fun x => busy p x.1 x.2) fun _ _ => .go)

/-- An enabled virtual datacenter. -/
def gold : Vdc := World.boundVdc 1 "gold" "tenant-a" none

/-- A world where its namespace is not there yet. -/
def newTenant : World where
  store.vdcs := [gold]
  ids := ⟨.ofNat, .ofNat, 0, 0⟩
  now := ⟨0, 0⟩

/-- The pass in which the policy cannot be written. -/
def brokenPass : Ran Site (Result Unit) :=
  (OwnerPass.vdc gold.id).attempt.run.run
    (carryOut (.vdc gold.id) (·.name == "create_network_policy")) { world := newTenant }

/-- The pass after it. -/
def nextPass : Ran Site (Result Unit) :=
  (OwnerPass.vdc gold.id).attempt.run.run (carryOut (.vdc gold.id) fun _ => false) brokenPass.state

theorem reaches_brokenPass :
    Reaches newTenant (busy (.vdc gold.id) (.done brokenPass.value) brokenPass.state) :=
  Reaches.pass .refl _ _

theorem reaches_nextPass :
    Reaches newTenant (busy (.vdc gold.id) (.done (.ok ())) nextPass.state) := by
  have hok : nextPass.value.isOk = true := by decide
  cases h : nextPass.value with
  | ok u =>
    rw [← h]
    exact Reaches.pass (reaches_brokenPass.tail .stop) _ _
  | error e =>
    rw [h] at hok
    cases hok

/-- The first pass leaves a namespace that is marked, and the second one isolates it. -/
theorem interrupted_creation_is_isolated :
    ("tenant-a" ∈ brokenPass.state.made ∧
      ∃ ns, brokenPass.state.world.cluster.namespaces.get? "tenant-a" = some ns ∧
        (ns.hasAnnotation Vocabulary.isolationPendingAnnotation = true ∨
          ∃ q, brokenPass.state.world.cluster.policies.get? ⟨"tenant-a", Vocabulary.policyName⟩ =
            some q ∧ (newTenant.cluster.Housed → q = .defaultDeny))) ∧
    "tenant-a" ∈ nextPass.state.made ∧
      ∃ n ns, gold.bound? = some n ∧ nextPass.state.world.cluster.namespaces.get? n = some ns ∧
        ns.hasAnnotation Vocabulary.isolationPendingAnnotation = false ∧
        (n ∈ nextPass.state.made →
          ∃ q, nextPass.state.world.cluster.policies.get? ⟨n, Vocabulary.policyName⟩ = some q ∧
            (newTenant.cluster.Housed → q = .defaultDeny)) :=
  ⟨⟨by decide, (isolation_survives_interruption reaches_brokenPass).1 "tenant-a" (by decide)⟩,
    by decide, (isolation_survives_interruption reaches_nextPass).2 gold.id _ gold rfl
      (by decide) rfl rfl⟩

end Moment

end TenantCloud
