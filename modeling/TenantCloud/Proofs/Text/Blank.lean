import Mathlib.Data.List.DropRight
import TenantCloud.Text.Blank

/-!
# Texts without blanks at their ends

Taking blanks off leaves no blank at either end (`Text.trimmed_trimChars`), and a text that has none
there stays as it is (`Text.Trimmed.trimChars_eq`). Nothing is added (`Text.length_trimChars`).
-/

set_option autoImplicit false

namespace TenantCloud.Text

variable {cs : List Char}

/-- Neither end is blank. -/
structure Trimmed (cs : List Char) : Prop where
  head : ∀ c, cs.head? = some c → isBlank c = false
  last : ∀ c, cs.getLast? = some c → isBlank c = false

theorem dropWhile_isBlank (h : ∀ c, cs.head? = some c → isBlank c = false) :
    cs.dropWhile isBlank = cs := by
  cases cs with
  | nil => rfl
  | cons c cs =>
    apply List.dropWhile_cons_of_neg
    simp [h c rfl]

theorem Trimmed.trimChars_eq (h : Trimmed cs) : trimChars cs = cs := by
  have hreverse : ∀ c, cs.reverse.head? = some c → isBlank c = false := by
    intro c hc
    rw [List.head?_reverse] at hc
    exact h.last c hc
  unfold trimChars
  rw [dropWhile_isBlank h.head, dropWhile_isBlank hreverse, List.reverse_reverse]

theorem trimmed_trimChars (cs : List Char) : Trimmed (trimChars cs) := by
  have hhead : ∀ (cs : List Char) c, (cs.dropWhile isBlank).head? = some c →
      isBlank c = false := by
    intro cs c hc
    have hnot := List.head?_dropWhile_not isBlank cs
    rwa [hc] at hnot
  refine ⟨fun c hc => ?_, fun c hc => ?_⟩
  · -- What is left starts as it did before the blanks at its end were taken off.
    obtain ⟨ends, hends⟩ := List.rdropWhile_prefix isBlank (cs.dropWhile isBlank)
    apply hhead cs c
    rw [← hends, List.head?_append]
    show (trimChars cs).head?.or _ = _
    rw [hc]
    rfl
  · unfold trimChars at hc
    rw [List.getLast?_reverse] at hc
    exact hhead _ c hc

theorem length_trimChars (cs : List Char) : (trimChars cs).length ≤ cs.length := by
  have hends := (List.rdropWhile_prefix isBlank (cs.dropWhile isBlank)).length_le
  exact hends.trans (List.dropWhile_sublist isBlank).length_le

end TenantCloud.Text
