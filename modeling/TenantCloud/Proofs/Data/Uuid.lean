import Mathlib.Algebra.GroupWithZero.Nat
import TenantCloud.Data.Uuid

/-!
# The text of an identity

What an identity is written as is read back as that identity (`Uuid.parse?_render`): its digits
spell its number, and groups that were joined come apart again.
-/

set_option autoImplicit false

namespace TenantCloud.Uuid

theorem hexValue?_digitChar : ∀ d < 16, hexValue? (Nat.digitChar d) = some d := by decide

theorem readHex?_concat (cs : List Char) (c : Char) :
    readHex? (cs ++ [c]) = (readHex? cs).bind fun n => (hexValue? c).map (n * 16 + ·) := by
  unfold readHex?
  rw [List.foldlM_append]
  cases cs.foldlM (fun acc c => (hexValue? c).map (acc * 16 + ·)) 0 with
  | none => rfl
  | some n =>
    show List.foldlM (fun acc c => (hexValue? c).map (acc * 16 + ·)) n [c] = _
    rw [List.foldlM_cons]
    exact bind_pure _

/-- The digits of a number spell it. -/
theorem readHex?_toDigits (n : Nat) : readHex? (Nat.toDigits 16 n) = some n := by
  induction n using Nat.strongRecOn with
  | ind n ih =>
    rw [Nat.toDigits_eq_if (by omega)]
    split
    · rename_i hn
      have hdigit := hexValue?_digitChar n hn
      simp [readHex?, hdigit]
    · rename_i hn
      have hdigit := hexValue?_digitChar (n % 16) (Nat.mod_lt _ (by omega))
      rw [readHex?_concat, ih (n / 16) (by omega), hdigit]
      simp only [Option.bind_some, Option.map_some, Option.some.injEq]
      omega

theorem readHex?_replicate (k : Nat) (cs : List Char) :
    readHex? (List.replicate k '0' ++ cs) = readHex? cs := by
  induction k with
  | zero => rfl
  | succ k ih => exact ih

theorem length_digits (u : Uuid) : u.digits.length = 32 := by
  have hbound : u.bits.toNat < 16 ^ 32 := u.bits.isLt
  have hlen := (Nat.length_toDigits_le_iff (by omega) (by omega)).2 hbound
  unfold digits
  rw [List.length_append, List.length_replicate]
  omega

theorem readHex?_digits (u : Uuid) : readHex? u.digits = some u.bits.toNat :=
  (readHex?_replicate _ _).trans (readHex?_toDigits _)

/-- Groups that were joined come apart again. -/
theorem ungroup?_group (n : Nat) (ns : List Nat) {cs : List Char} (h : cs.length = (n :: ns).sum) :
    ungroup? (n :: ns) (group (n :: ns) cs) = some cs := by
  induction ns generalizing n cs with
  | nil =>
    simp only [List.sum_cons, List.sum_nil, Nat.add_zero] at h
    exact if_pos h
  | cons m ns ih =>
    have hsum : (n :: m :: ns).sum = n + (m :: ns).sum := List.sum_cons
    rw [hsum] at h
    have htake : (cs.take n).length = n := by
      rw [List.length_take]
      omega
    have hdrop : (cs.drop n).length = (m :: ns).sum := by
      rw [List.length_drop]
      omega
    have hrest := ih m hdrop
    rw [group, ungroup?]
    · rw [List.drop_left' htake, List.take_left' htake]
      show (ungroup? (m :: ns) (group (m :: ns) (cs.drop n))).map (cs.take n ++ ·) = some cs
      rw [hrest, Option.map_some, List.take_append_drop]
    · simp
    · simp

theorem length_group (n : Nat) (ns : List Nat) {cs : List Char} (h : cs.length = (n :: ns).sum) :
    (group (n :: ns) cs).length = cs.length + ns.length := by
  induction ns generalizing n cs with
  | nil => rfl
  | cons m ns ih =>
    have hsum : (n :: m :: ns).sum = n + (m :: ns).sum := List.sum_cons
    rw [hsum] at h
    have hdrop : (cs.drop n).length = (m :: ns).sum := by
      rw [List.length_drop]
      omega
    have hrest := ih m hdrop
    rw [List.length_drop] at hrest
    rw [group, List.length_append, List.length_cons, hrest, List.length_take, List.length_cons]
    · omega
    · simp

/-- What an identity is written as is read as that identity. -/
theorem parse?_render (u : Uuid) : parse? u.render = some u := by
  have hlen : u.digits.length = groups.sum := u.length_digits
  have hgroup : (group groups u.digits).length = 36 := by
    rw [groups, length_group _ _ hlen, u.length_digits]
    rfl
  have hungroup : ungroup? groups (group groups u.digits) = some u.digits :=
    ungroup?_group _ _ hlen
  have hbare : ofBare? u.digits = some u := by
    rw [ofBare?, if_pos u.length_digits, readHex?_digits, Option.map_some, ofNat,
      BitVec.ofNat_toNat, BitVec.setWidth_eq]
  unfold parse? render
  dsimp only
  rw [String.toList_ofList, hgroup]
  show ofHyphenated? (group groups u.digits) = some u
  rw [ofHyphenated?, hungroup, Option.bind_some, hbare]

end TenantCloud.Uuid
