import TenantCloud.Proofs.Cluster.Elsewhere
import TenantCloud.Proofs.Effect.Runs
import TenantCloud.Proofs.Effect.Trying
import TenantCloud.Proofs.Quantity
import TenantCloud.Proofs.Quantity.Spelling
import TenantCloud.Reconcile.Vdc

/-!
# Limits of a virtual datacenter

The limits on a row are read back from the quota as the amounts that they are (`Vdc.allowance`,
`Vdc.milli?_hardLimits`). A quota that grants them, however it spells them, is left alone, and any
other one is written once (`Reconcile.QuotaWrites`, `Reconcile.convergeQuota_writes`). After that
it is left alone, even where it is spelled anew (`Vdc.limits_never_drift`).
-/

set_option autoImplicit false

namespace TenantCloud

namespace Vdc

variable {v : Vdc}

/-- The limits fit the columns of the store, which have 64 signed bits. -/
structure IsStorable (v : Vdc) : Prop where
  cpu : ∀ n ∈ v.cpuLimit, -2 ^ 63 ≤ n ∧ n < 2 ^ 63
  memory : ∀ n ∈ v.memoryLimit, -2 ^ 63 ≤ n ∧ n < 2 ^ 63
  storage : ∀ n ∈ v.storageLimit, -2 ^ 63 ≤ n ∧ n < 2 ^ 63

/-- The amount under a key of the quota, in thousandths of a processor or a byte: none where the
limit is absent, zero or negative. -/
def allowance (v : Vdc) (key : String) : Option Int :=
  let positive (limit : Option Int) (unit : Int) := (limit.filter (0 < ·)).map (· * unit * 1000)
  if key = "limits.cpu" then positive v.cpuLimit 1
  else if key = "limits.memory" then positive v.memoryLimit (2 ^ 20)
  else if key = "requests.storage" then positive v.storageLimit (2 ^ 30)
  else none

/-- A limit adds one key, where it is positive. -/
theorem get?_ofList_limit (l : List (String × String)) (key : String) (n : Option Int)
    (unit key' : String) : (Dict.ofList (l ++ limit key n unit)).get? key' =
      if key' = key then (n.filter (0 < ·)).map (toString · ++ unit) <|> (Dict.ofList l).get? key'
      else (Dict.ofList l).get? key' := by
  unfold limit Dict.ofList
  rw [List.foldl_append]
  cases n.filter (0 < ·) with
  | none => simp
  | some n =>
    show (Dict.insert _ key (toString n ++ unit)).get? key' = _
    rw [Dict.get?_insert]
    rfl

theorem get?_hardLimits (v : Vdc) (key : String) : v.hardLimits.get? key =
    if key = "limits.cpu" then (v.cpuLimit.filter (0 < ·)).map (toString · ++ "")
    else if key = "limits.memory" then (v.memoryLimit.filter (0 < ·)).map (toString · ++ "Mi")
    else if key = "requests.storage" then (v.storageLimit.filter (0 < ·)).map (toString · ++ "Gi")
    else none := by
  have hnone : (Dict.ofList ([] : List (String × String))).get? key = none := rfl
  unfold hardLimits
  rw [get?_ofList_limit, get?_ofList_limit, ← List.nil_append (limit "limits.cpu" _ _),
    get?_ofList_limit, hnone]
  by_cases hcpu : key = "limits.cpu"
  · simp [hcpu]
  · by_cases hmemory : key = "limits.memory"
    · simp [hmemory]
    · simp [hcpu, hmemory]

/-- A positive limit is read back. -/
theorem milli?_limit {limit : Option Int} (hlimit : ∀ n ∈ limit, -2 ^ 63 ≤ n ∧ n < 2 ^ 63)
    {factor : Nat} {unit : String} (hunit : Quantity.scale? unit.toList = some ⟨factor, 0⟩)
    (hblank : unit.toList.any Text.isBlank = false) (hfactor : 0 < factor ∧ factor ≤ 2 ^ 30) :
    ((limit.filter (0 < ·)).map (toString · ++ unit)).map Quantity.milli? =
      ((limit.filter (0 < ·)).map (· * (factor : Int) * 1000)).map some := by
  cases h : limit.filter (0 < ·) with
  | none => rfl
  | some n =>
    obtain ⟨hn, hpos⟩ := Option.filter_eq_some_iff.1 h
    obtain ⟨-, hbound⟩ := hlimit n hn
    obtain ⟨n, rfl⟩ := Int.eq_ofNat_of_zero_le (Int.le_of_lt (of_decide_eq_true hpos))
    have hread : Quantity.milli? (toString n ++ unit) = some ((n * 1000 * factor : Nat) : Int) := by
      refine Quantity.milli?_whole hunit hblank hfactor.1 ?_
      calc
        n * 1000 * factor ≤ 2 ^ 63 * 1000 * 2 ^ 30 :=
          Nat.mul_le_mul (Nat.mul_le_mul_right _ (by omega)) hfactor.2
        _ ≤ Quantity.maxMagnitude := by decide
    rw [Option.map_some, Option.map_some, Option.map_some, Option.map_some]
    refine congrArg some (hread.trans (congrArg some ?_))
    push_cast
    ring

/-- The limits are read back as the amounts that they are. -/
theorem milli?_hardLimits (hv : v.IsStorable) (key : String) :
    (v.hardLimits.get? key).map Quantity.milli? = (v.allowance key).map some := by
  rw [get?_hardLimits]
  unfold allowance
  dsimp only
  split
  · exact milli?_limit hv.cpu (by decide) (by decide) (by decide)
  · split
    · exact milli?_limit hv.memory (by decide) (by decide) (by decide)
    · split
      · exact milli?_limit hv.storage (by decide) (by decide) (by decide)
      · rfl

theorem isSome_milli?_hardLimits (hv : v.IsStorable) (key text : String)
    (h : v.hardLimits.get? key = some text) : (Quantity.milli? text).isSome = true := by
  have hread := milli?_hardLimits hv key
  rw [h, Option.map_some] at hread
  obtain ⟨m, -, hm⟩ := Option.map_eq_some_iff.1 hread.symm
  rw [← hm]
  rfl

end Vdc

/-! ## The quota -/

namespace Reconcile

open Attempt

/-- The look at the quota of a namespace. -/
abbrev quotaLook (ns : String) : Call := .cluster (.getResourceQuota ns Vocabulary.quotaName)

/-- What is to be written after the look at the quota: a quota that is missing as a whole, all the
limits where the ones found do not agree, and nothing otherwise. -/
inductive QuotaWrites (ns : String) (hard : Dict String String) :
    Result (Option ResourceQuota) → Trace → Prop
  | failed (e : Error) : QuotaWrites ns hard (.error e) []
  | missing : QuotaWrites ns hard (.ok none)
      [.call (.cluster (.createResourceQuota ns (.ofHard hard)))]
  | agreeing {q : ResourceQuota} : Quantity.Agree q.hard hard →
      QuotaWrites ns hard (.ok (some q)) []
  | drifted {q : ResourceQuota} : ¬ Quantity.Agree q.hard hard →
      QuotaWrites ns hard (.ok (some q))
        [.call (.cluster (.replaceResourceQuotaHard ns Vocabulary.quotaName hard))]

variable {σ : Type} {ns : String} {hard : Dict String String}

theorem convergeQuota_writes
    (hhard : ∀ key text, hard.get? key = some text → (Quantity.milli? text).isSome = true)
    (ns : String) (h : Handler σ) (s : σ) :
    ∃ writes, ((convergeQuota ns hard).run.run h s).trace = .call (quotaLook ns) :: writes ∧
      QuotaWrites ns hard (h.answer (quotaLook ns) s).1 writes := by
  -- A write is the last call, however it is answered.
  have hlast : ∀ (c : Call) (s : σ),
      ((do let _ ← Attempt.call c; return true : Attempt Bool).run.run h s).trace = [.call c] := by
    intro c s
    show (Pass.run h (.ask c _) s).trace = _
    rw [Pass.run_ask]
    cases (h.answer c s).1 <;> rfl
  have hlimits : ∀ (q : ResourceQuota) (s : σ), ∃ writes,
      ((if Quantity.sameLimits q.hard hard then return false else do
        let _ ← cluster (.replaceResourceQuotaHard ns Vocabulary.quotaName hard)
        return true : Attempt Bool).run.run h s).trace = writes ∧
      QuotaWrites ns hard (.ok (some q)) writes := by
    intro q s
    have hagree : Quantity.sameLimits q.hard hard = true ↔ Quantity.Agree q.hard hard :=
      Quantity.sameLimits_iff_agree hhard
    split
    · rename_i hsame
      exact ⟨[], rfl, .agreeing (hagree.1 hsame)⟩
    · rename_i hsame
      exact ⟨_, hlast _ s, .drifted fun h => hsame (hagree.2 h)⟩
  show ∃ writes, (Pass.run h (.ask (quotaLook ns) _) s).trace = _ ∧ _
  rw [Pass.run_ask]
  generalize h.answer (quotaLook ns) s = answered
  obtain ⟨e | _ | q, s'⟩ := answered
  · exact ⟨[], rfl, .failed e⟩
  · exact ⟨_, congrArg (Entry.call (quotaLook ns) :: ·) (hlast _ s'), .missing⟩
  · obtain ⟨writes, htrace, hwrites⟩ := hlimits q s'
    exact ⟨writes, congrArg (Entry.call (quotaLook ns) :: ·) htrace, hwrites⟩

theorem convergeQuota_tries (ns : String) (hard : Dict String String) (w : World) :
    (convergeQuota ns hard).Tries True
    (fun _ w => ∃ q, w.cluster.quotas.get? ⟨ns, Vocabulary.quotaName⟩ = some q ∧
      Quantity.sameLimits q.hard hard = true) (fun _ => True) w := by
  refine .bind (.look (fun _ => rfl) (fun now => ?_) fun _ => trivial)
  dsimp only
  cases hq : w.cluster.quotas.get? ⟨ns, Vocabulary.quotaName⟩ with
  | none =>
    refine .bind (.call (fun now' => ⟨(), _, rfl, ?_⟩) fun _ => trivial)
    refine .pure ⟨.ofHard hard, ?_, Quantity.sameLimits_self hard⟩
    have hcreate : w.cluster.createQuota ns (.ofHard hard) =
        w.cluster.setQuota ⟨ns, Vocabulary.quotaName⟩ (.ofHard hard) :=
      Cluster.createQuota_of_missing hq
    show (w.cluster.createQuota ns (.ofHard hard)).quotas.get? _ = _
    rw [hcreate, Cluster.get?_setQuota]
  | some quota =>
    dsimp only
    split
    · rename_i hsame
      exact .pure ⟨quota, hq, hsame⟩
    · have hreplace := Cluster.replaceQuotaHard_of_get? hq hard
      refine .bind (.call (fun now' => ⟨(), _, congrArg (World.changeCluster _) hreplace, ?_⟩)
        fun _ => trivial)
      exact .pure ⟨_, Cluster.get?_setQuota _ _ _, Quantity.sameLimits_self hard⟩

end Reconcile

/-- Calls are carried out, or they fail and change nothing. -/
def World.IsFaithful (h : Handler World) : Prop :=
  ∀ c w, World.Responds True c w (h.answer c w).1 (h.answer c w).2

namespace Reconcile

variable {ns : String} {hard : Dict String String} {w : World} {q : ResourceQuota}

/-- After a success the quota has the limits. -/
theorem convergeQuota_reaches {h : Handler World} (hh : World.IsFaithful h) {b : Bool}
    (hok : ((convergeQuota ns hard).run.run h w).value = .ok b) :
    ∃ q, ((convergeQuota ns hard).run.run h w).state.cluster.quotas.get?
        ⟨ns, Vocabulary.quotaName⟩ = some q ∧ Quantity.sameLimits q.hard hard = true := by
  have hend := (convergeQuota_tries ns hard w).walk (Pass.steps_run hh _ w)
  rw [hok] at hend
  exact hend

/-- A quota that agrees with the limits is only looked at. -/
theorem convergeQuota_of_agree
    (hhard : ∀ key text, hard.get? key = some text → (Quantity.milli? text).isSome = true)
    {h : Handler World} (hh : World.IsFaithful h)
    (hq : w.cluster.quotas.get? ⟨ns, Vocabulary.quotaName⟩ = some q)
    (hagree : Quantity.Agree q.hard hard) :
    ((convergeQuota ns hard).run.run h w).trace = [.call (quotaLook ns)] := by
  obtain ⟨writes, htrace, hwrites⟩ := convergeQuota_writes hhard ns h w
  have hnone : writes = [] := by
    have hreply := hh (quotaLook ns) w
    generalize (h.answer (quotaLook ns) w).1 = r at hreply hwrites
    generalize (h.answer (quotaLook ns) w).2 = w' at hreply
    cases hreply with
    | failed =>
      cases hwrites
      rfl
    | carried =>
      change QuotaWrites ns hard (.ok (w.cluster.quotas.get? _)) writes at hwrites
      rw [hq] at hwrites
      cases hwrites with
      | agreeing => rfl
      | drifted hno => exact absurd hagree hno
  rw [htrace, hnone]

end Reconcile

namespace Vdc

open Reconcile

/-- **Limits neither drift nor overflow.** The limits of a row are read back as the amounts that they
are. A pass writes the quota where it is missing, replaces all limits where the ones found do not
agree, and writes nothing otherwise. Once it has succeeded it writes nothing any more, even where
the limits were spelled anew in between. -/
theorem limits_never_drift {v : Vdc} (hv : v.IsStorable) (ns : String) :
    (∀ key, (v.hardLimits.get? key).map Quantity.milli? = (v.allowance key).map some) ∧
    (∀ {σ : Type} (h : Handler σ) (s : σ), ∃ writes,
      ((convergeQuota ns v.hardLimits).run.run h s).trace = .call (quotaLook ns) :: writes ∧
      QuotaWrites ns v.hardLimits (h.answer (quotaLook ns) s).1 writes) ∧
    ∀ (h h' : Handler World), World.IsFaithful h → World.IsFaithful h' → ∀ w b,
      ((convergeQuota ns v.hardLimits).run.run h w).value = .ok b →
      ∃ q, ((convergeQuota ns v.hardLimits).run.run h w).state.cluster.quotas.get?
          ⟨ns, Vocabulary.quotaName⟩ = some q ∧ Quantity.Agree q.hard v.hardLimits ∧
        ∀ w' q', w'.cluster.quotas.get? ⟨ns, Vocabulary.quotaName⟩ = some q' →
          Quantity.Agree q'.hard q.hard →
          ((convergeQuota ns v.hardLimits).run.run h' w').trace = [.call (quotaLook ns)] := by
  have hhard := isSome_milli?_hardLimits hv
  refine ⟨milli?_hardLimits hv, fun h s => convergeQuota_writes hhard ns h s, ?_⟩
  intro h h' hh hh' w b hok
  obtain ⟨q, hq, hsame⟩ := convergeQuota_reaches hh hok
  have hagree := (Quantity.sameLimits_iff_agree hhard).1 hsame
  refine ⟨q, hq, hagree, fun w' q' hq' hspelled => ?_⟩
  exact convergeQuota_of_agree hhard hh' hq' fun key => (hspelled key).trans (hagree key)

/-- A virtual datacenter with 4096 mebibytes of memory and all the storage that a row can name. -/
def roomy : Vdc :=
  { World.boundVdc 1 "gold" "tenant-a" none with
    memoryLimit := some 4096
    storageLimit := some (2 ^ 63 - 1) }

/-- Its quota, with the memory spelled in gibibytes. -/
def respelledQuota : ResourceQuota :=
  .ofHard (.ofList [("limits.memory", "4Gi"), ("requests.storage", "9223372036854775807Gi")])

/-- A world with quotas and nothing else. -/
def quotaWorld (quotas : Dict ObjectKey ResourceQuota) : World where
  store := {}
  cluster := { quotas }
  ids := ⟨fun n => .ofNat n, fun n => .ofNat n, 0, 0⟩
  faults := []
  now := ⟨0, 0⟩

/-- The largest limit is read back. The quota is created, and once it is spelled anew it is only
looked at. -/
theorem limits_never_drift_respelled :
    let h : Handler World := ⟨World.perform, World.now⟩
    let pass := (convergeQuota "tenant-a" roomy.hardLimits).run
    let respelled := quotaWorld (.single ⟨"tenant-a", Vocabulary.quotaName⟩ respelledQuota)
    roomy.IsStorable ∧ World.IsFaithful h ∧
      (roomy.hardLimits.get? "requests.storage").map Quantity.milli? =
        some (some ((2 ^ 63 - 1) * 2 ^ 30 * 1000)) ∧
      (pass.run h (quotaWorld ∅)).value = .ok true ∧
      (pass.run h respelled).trace = [.call (quotaLook "tenant-a")] := by
  intro h pass respelled
  have hstorable : roomy.IsStorable := ⟨nofun, by decide, by decide⟩
  have hfaithful : World.IsFaithful h := fun c w => .carried c w w.now
  have hcreated : (pass.run h (quotaWorld ∅)).value = .ok true := rfl
  obtain ⟨hread, -, hstays⟩ := limits_never_drift hstorable "tenant-a"
  obtain ⟨q, -, hagree, hstays⟩ := hstays h h hfaithful hfaithful (quotaWorld ∅) true hcreated
  have hspelled : Quantity.Agree respelledQuota.hard roomy.hardLimits :=
    (Quantity.sameLimits_iff_agree (isSome_milli?_hardLimits hstorable)).1 (by decide)
  refine ⟨hstorable, hfaithful, hread "requests.storage", hcreated, ?_⟩
  exact hstays respelled respelledQuota rfl fun key => (hspelled key).trans (hagree key).symm

end Vdc

end TenantCloud
