import TenantCloud.VApp.Lifecycle

/-!
# What the status of a vApp says

`VAppSignals.status` tries its rules one after the other. Here each verdict is told on its own
(`VAppSignals.Decides`), by what is so of the flags and by which statuses some machine has. Nothing
else of the list of statuses counts, neither its order nor how often a status is there
(`VAppSignals.status_congr`), and a further machine takes no verdict back that a machine brought
about (`VAppSignals.status_of_deleting`, `VAppSignals.status_of_unsettled`).
-/

set_option autoImplicit false

namespace TenantCloud.VAppSignals

variable {s : VAppSignals} {statuses : List String}

/-- Nothing is known of some machine. -/
def HasUnsettled (s : VAppSignals) : Prop :=
  ∃ x ∈ s.statuses, x = "" ∨ x = VmStatus.unresolved.word

/-- Some machine goes or is gone. -/
def HasGoing (s : VAppSignals) : Prop :=
  ∃ x ∈ s.statuses, x = VmStatus.deleting.word ∨ x = VmStatus.deleted.word

/-- The instance is not ready, or there is no machine, or nothing is known of one. -/
def Waits (s : VAppSignals) : Prop := s.ready = false ∨ s.hasVms = false ∨ s.HasUnsettled

/-- When a vApp should have each status. -/
structure Decides (s : VAppSignals) (verdict : VAppStatus) : Prop where
  failed : verdict = .failed ↔ s.failed = true
  instantiating : verdict = .instantiating ↔ s.failed = false ∧ s.Waits
  deleting : verdict = .deleting ↔ s.failed = false ∧ ¬s.Waits ∧ s.HasGoing
  deployed : verdict = .deployed ↔ s.failed = false ∧ ¬s.Waits ∧ ¬s.HasGoing
  deleted : verdict ≠ .deleted

/-! ## One rule at a time -/

theorem any_isUnsettled : s.statuses.any isUnsettled = true ↔ s.HasUnsettled := by
  simp [HasUnsettled, isUnsettled]

theorem any_isGoing : s.statuses.any isGoing = true ↔ s.HasGoing := by
  simp [HasGoing, isGoing]

theorem status_of_failed (h : s.failed = true) : s.status = .failed := by
  simp [status, h]

theorem status_of_waits (hfailed : s.failed = false) (h : s.Waits) :
    s.status = .instantiating := by
  simp only [status, hfailed, Bool.false_eq_true, if_false]
  rcases h with h | h | h
  · simp [h]
  · simp [h]
  · rw [if_pos (any_isUnsettled.2 h), ite_self]

theorem status_of_not_waits (hfailed : s.failed = false) (h : ¬s.Waits) :
    s.status = if s.statuses.any isGoing then .deleting else .deployed := by
  simp only [Waits, not_or, Bool.not_eq_false] at h
  obtain ⟨hready, hvms, hsettled⟩ := h
  simp only [status, hfailed, hready, hvms, Bool.not_true, Bool.or_self, Bool.false_eq_true,
    if_false]
  exact if_neg (mt any_isUnsettled.1 hsettled)

theorem status_of_hasGoing (hfailed : s.failed = false) (hwaits : ¬s.Waits) (h : s.HasGoing) :
    s.status = .deleting := by
  rw [status_of_not_waits hfailed hwaits]
  exact if_pos (any_isGoing.2 h)

theorem status_of_stable (hfailed : s.failed = false) (hwaits : ¬s.Waits) (h : ¬s.HasGoing) :
    s.status = .deployed := by
  rw [status_of_not_waits hfailed hwaits]
  exact if_neg (mt any_isGoing.1 h)

theorem decides_status (s : VAppSignals) : s.Decides s.status := by
  cases hfailed : s.failed with
  | true =>
    rw [status_of_failed hfailed]
    constructor <;> simp [hfailed]
  | false =>
    by_cases hwaits : s.Waits
    · rw [status_of_waits hfailed hwaits]
      constructor <;> simp [hfailed, hwaits]
    · by_cases hgoing : s.HasGoing
      · rw [status_of_hasGoing hfailed hwaits hgoing]
        constructor <;> simp [hfailed, hwaits, hgoing]
      · rw [status_of_stable hfailed hwaits hgoing]
        constructor <;> simp [hfailed, hwaits, hgoing]

/-! ## Other machines -/

theorem HasUnsettled.mono (h : s.HasUnsettled) (hsub : s.statuses ⊆ statuses) :
    HasUnsettled { s with statuses } := by
  obtain ⟨x, hx, hword⟩ := h
  exact ⟨x, hsub hx, hword⟩

theorem HasGoing.mono (h : s.HasGoing) (hsub : s.statuses ⊆ statuses) :
    HasGoing { s with statuses } := by
  obtain ⟨x, hx, hword⟩ := h
  exact ⟨x, hsub hx, hword⟩

/-- Only which statuses are there counts. -/
theorem status_congr (h : ∀ x, x ∈ statuses ↔ x ∈ s.statuses) :
    status { s with statuses } = s.status := by
  have hunsettled : statuses.any isUnsettled = s.statuses.any isUnsettled := by
    rw [Bool.eq_iff_iff]
    simp [h]
  have hgoing : statuses.any isGoing = s.statuses.any isGoing := by
    rw [Bool.eq_iff_iff]
    simp [h]
  simp [status, hunsettled, hgoing]

/-- Where a machine goes, more machines may only make the vApp wait. -/
theorem status_of_deleting (h : s.status = .deleting) (hsub : s.statuses ⊆ statuses) :
    status { s with statuses } = .deleting ∨ status { s with statuses } = .instantiating := by
  obtain ⟨hfailed, -, hgoing⟩ := s.decides_status.deleting.1 h
  by_cases hwaits : Waits { s with statuses }
  · exact .inr (status_of_waits hfailed hwaits)
  · exact .inl (status_of_hasGoing hfailed hwaits (hgoing.mono hsub))

/-- Where only a machine makes the vApp wait, it waits with more machines as well. -/
theorem status_of_unsettled (h : s.status = .instantiating) (hready : s.ready = true)
    (hvms : s.hasVms = true) (hsub : s.statuses ⊆ statuses) :
    status { s with statuses } = .instantiating := by
  obtain ⟨hfailed, hwaits⟩ := s.decides_status.instantiating.1 h
  have hunsettled : s.HasUnsettled := by simpa [Waits, hready, hvms] using hwaits
  exact status_of_waits hfailed (.inr (.inr (hunsettled.mono hsub)))

end TenantCloud.VAppSignals
