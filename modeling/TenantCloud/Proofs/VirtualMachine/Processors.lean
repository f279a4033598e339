import Mathlib.Algebra.BigOperators.Group.List.Basic
import Mathlib.Data.Option.Basic
import TenantCloud.Object.VirtualMachine

/-!
# How many processors a topology makes

`CpuTopology.product` is the true product of the three fields. A product that fits fits at each step
on the way (`CpuTopology.steps_le`), so that the count is known exactly if a field is set and the
true product can be stored (`CpuTopology.vcpus_exact`).
-/

set_option autoImplicit false

namespace TenantCloud.CpuTopology

variable {t : CpuTopology} {a b c n p : Nat}

/-- The three fields. -/
def fields (t : CpuTopology) : List (Option Nat) := [t.cores, t.sockets, t.threads]

/-- A field is set. -/
def IsSet (t : CpuTopology) : Prop := ∃ n, some n ∈ t.fields

/-- The product of the fields, where a missing one and a zero count as 1. -/
def product (t : CpuTopology) : Nat := (t.fields.map fun field => max 1 (field.getD 0)).prod

theorem bounded?_eq_some_iff : bounded? n = some p ↔ n ≤ maxCount ∧ p = n := by
  unfold bounded?
  split
  · rename_i h
    simp [h, eq_comm]
  · rename_i h
    simp [h]

theorem factor_eq (field : Option Nat) : factor field = max 1 (field.getD 0) := by
  cases field with
  | none => rfl
  | some n =>
    cases n with
    | zero => rfl
    | succ n =>
      simp [factor, Option.filter]

theorem factor_pos (field : Option Nat) : 0 < factor field := by
  rw [factor_eq]
  omega

theorem product_eq (t : CpuTopology) :
    t.product = factor t.cores * factor t.sockets * factor t.threads := by
  simp [product, fields, factor_eq, Nat.mul_assoc]

theorem product_pos (t : CpuTopology) : 0 < t.product := by
  rw [product_eq]
  exact Nat.mul_pos (Nat.mul_pos (factor_pos _) (factor_pos _)) (factor_pos _)

theorem isSet_iff :
    t.IsSet ↔ (t.cores.isSome || t.sockets.isSome || t.threads.isSome) = true := by
  obtain ⟨cores, sockets, threads⟩ := t
  cases cores <;> cases sockets <;> cases threads <;> simp [IsSet, fields]

/-- No factor and no product on the way is larger than the product of them all. -/
theorem steps_le (ha : 0 < a) (hb : 0 < b) (hc : 0 < c) :
    a ≤ a * b * c ∧ b ≤ a * b * c ∧ c ≤ a * b * c ∧ a * b ≤ a * b * c := by
  have hpair : a * b ≤ a * b * c := Nat.le_mul_of_pos_right _ hc
  refine ⟨?_, ?_, ?_, hpair⟩
  · exact Nat.le_trans (Nat.le_mul_of_pos_right a hb) hpair
  · exact Nat.le_trans (Nat.le_mul_of_pos_left b ha) hpair
  · exact Nat.le_mul_of_pos_left c (Nat.mul_pos ha hb)

/-- Where the product can be stored, no step on the way refuses. -/
theorem vcpus_eq_some_iff : t.vcpus = some p ↔ t.IsSet ∧ t.product ≤ maxCount ∧ p = t.product := by
  obtain ⟨hcores, hsockets, hthreads, hpair⟩ :=
    steps_le (factor_pos t.cores) (factor_pos t.sockets) (factor_pos t.threads)
  rw [← product_eq] at hcores hsockets hthreads hpair
  rw [isSet_iff]
  constructor
  · intro h
    simp only [vcpus, Option.bind_eq_bind, Option.bind_eq_some_iff, bounded?_eq_some_iff,
      Option.guard_eq_some'] at h
    obtain ⟨-, hset, _, ⟨-, rfl⟩, _, ⟨-, rfl⟩, _, ⟨-, rfl⟩, _, ⟨-, rfl⟩, hp, rfl⟩ := h
    rw [← product_eq] at hp ⊢
    exact ⟨hset, hp, rfl⟩
  · rintro ⟨hset, hp, rfl⟩
    simp only [vcpus, Option.bind_eq_bind, Option.bind_eq_some_iff, bounded?_eq_some_iff,
      Option.guard_eq_some']
    refine ⟨(), hset, _, ⟨by omega, rfl⟩, _, ⟨by omega, rfl⟩, _, ⟨by omega, rfl⟩,
      _, ⟨by omega, rfl⟩, ?_⟩
    rw [← product_eq]
    exact ⟨hp, rfl⟩

section Permuted

variable {t' : CpuTopology}

theorem isSet_congr (h : t'.fields.Perm t.fields) : t'.IsSet ↔ t.IsSet := by
  simp [IsSet, h.mem_iff]

theorem product_congr (h : t'.fields.Perm t.fields) : t'.product = t.product :=
  (h.map _).prod_eq

/-- Which field has which value does not count. -/
theorem vcpus_congr (h : t'.fields.Perm t.fields) : t'.vcpus = t.vcpus := by
  apply Option.ext
  intro p
  rw [vcpus_eq_some_iff, vcpus_eq_some_iff, isSet_congr h, product_congr h]

end Permuted

/-- The count of processors is the true product of the fields. It is known exactly if a field is set
and 31 bits hold the product, whichever field has which value, and it is never zero. -/
theorem vcpus_exact (t : CpuTopology) :
    (∀ p, t.vcpus = some p ↔ t.IsSet ∧ t.product ≤ 2 ^ 31 - 1 ∧ p = t.product) ∧
    (∀ t' : CpuTopology, t'.fields.Perm t.fields → t'.vcpus = t.vcpus) ∧
    ∀ p, t.vcpus = some p → 0 < p := by
  refine ⟨fun p => vcpus_eq_some_iff, fun t' h => vcpus_congr h, fun p hp => ?_⟩
  obtain ⟨-, -, rfl⟩ := vcpus_eq_some_iff.1 hp
  exact t.product_pos

/-- The largest count, from one field beside a zero and a missing one. -/
theorem vcpus_exact_largest :
    let t : CpuTopology := ⟨some 2147483647, some 0, none⟩
    let t' : CpuTopology := ⟨none, some 2147483647, some 0⟩
    t.vcpus = some 2147483647 ∧ t'.fields.Perm t.fields ∧ t'.vcpus = t.vcpus ∧
      0 < 2147483647 := by
  intro t t'
  have hcount : t.vcpus = some 2147483647 :=
    ((vcpus_exact t).1 2147483647).2 ⟨⟨0, by decide⟩, by decide, by decide⟩
  have hperm : t'.fields.Perm t.fields := by decide
  exact ⟨hcount, hperm, (vcpus_exact t).2.1 t' hperm, (vcpus_exact t).2.2 _ hcount⟩

end TenantCloud.CpuTopology
