import TenantCloud.Object.ResourceQuota
import TenantCloud.Proofs.Object.Metadata

/-!
# Quotas that keep what they carry

`Wire.Kept` says of a value that it is read again from what it is written as. A quota that is kept
still is with other hard limits (`ResourceQuota.kept_setHard`) and under another version
(`ResourceQuota.kept_versioned`).
-/

set_option autoImplicit false

namespace TenantCloud

open Json

/-- Nothing of a value is lost when it is written and read. -/
def Wire.Kept {α : Type} [Wire α] (a : α) : Prop := Wire.read? (Wire.write a) = some a

namespace Json

variable {α : Type} [Wire α] {fs fs' : List Field} {f : Field} {name : String}

/-- A member is read from its field, whatever stands beside it. -/
theorem optionalWith?_congr {β : Type} {read? : Json → Option β} {b : Option β}
    (h : (membersOf fs).optionalWith? name read? = some b) (hf : fieldsOf name fs = [f])
    (hf' : fieldsOf name fs' = [f]) : (membersOf fs').optionalWith? name read? = some b := by
  rw [optionalWith?_membersOf hf] at h
  rw [optionalWith?_membersOf hf', h]

/-- What an optional member that is not `null` is read from its field as. -/
theorem rereads_write {x : α} (h : Wire.write x ≠ .null) :
    rereads (Wire.read? : Json → Option α) [Wire.write x] =
      (Wire.read? (Wire.write x)).map some := by
  cases hx : (Wire.read? (Wire.write x) : Option α) <;>
    simp [rereads, nullOr?_of_ne_null h, hx]

/-- An optional member comes back just where its value is kept. -/
theorem optional?_membersOf_iff {a : Option α} (hf : fieldsOf name fs = [.opt name a])
    (hnull : ∀ x : α, Wire.write x ≠ .null) :
    (membersOf fs).optional? name = some a ↔ ∀ x ∈ a, Wire.Kept x := by
  have hread : (membersOf fs).optional? name =
      rereads (Wire.read? : Json → Option α) (Field.opt name a).value.toList :=
    optionalWith?_membersOf hf
  rw [hread]
  cases a with
  | none => exact iff_of_true rfl nofun
  | some x =>
    show rereads (Wire.read? : Json → Option α) [Wire.write x] = some (some x) ↔ _
    rw [rereads_write (hnull x)]
    simp [Wire.Kept]

end Json

namespace Metadata

/-- Metadata under a version. -/
def versioned (m : Metadata) (version : String) : Metadata :=
  { m with resourceVersion := some version }

theorem kept_versioned {m : Metadata} (h : Wire.Kept m) (version : String) :
    Wire.Kept (m.versioned version) := by
  obtain ⟨_, ⟨⟩, h⟩ := read?_eq_some_iff.1 h
  refine read?_eq_some_iff.2 ⟨_, members?_record _, ?_⟩
  exact {
    annotations := optionalWith?_congr h.annotations rfl rfl
    created := optionalWith?_congr h.created rfl rfl
    grace := optionalWith?_congr h.grace rfl rfl
    deleted := optionalWith?_congr h.deleted rfl rfl
    finalizers := optionalWith?_congr h.finalizers rfl rfl
    generateName := optionalWith?_congr h.generateName rfl rfl
    generation := optionalWith?_congr h.generation rfl rfl
    labels := optionalWith?_congr h.labels rfl rfl
    managed := optionalWith?_congr h.managed rfl rfl
    name := optionalWith?_congr h.name rfl rfl
    ns := optionalWith?_congr h.ns rfl rfl
    owners := optionalWith?_congr h.owners rfl rfl
    version := (optional?_membersOf_iff rfl nofun).2 fun _ _ => rfl
    selfLink := optionalWith?_congr h.selfLink rfl rfl
    uid := optionalWith?_congr h.uid rfl rfl }

end Metadata

namespace QuotaSpec

variable {j : Json} {s : QuotaSpec}

theorem read?_eq_some_iff : Wire.read? j = some s ↔ ∃ ms, j.members? = some ms ∧
    ms.optional? "hard" = some s.hard ∧ ms.optional? "scopeSelector" = some s.scopeSelector ∧
    ms.optional? "scopes" = some s.scopes := by
  cases s
  simp [Wire.read?, Option.bind_eq_some_iff]

/-- Other hard limits do not get lost, nor does anything beside them. -/
theorem kept_withHard (h : Wire.Kept s) (hard : Dict String String) :
    Wire.Kept { s with hard := some hard } := by
  obtain ⟨_, ⟨⟩, -, hselector, hscopes⟩ := read?_eq_some_iff.1 h
  exact read?_eq_some_iff.2 ⟨_, members?_record _,
    (optional?_membersOf_iff rfl nofun).2 fun _ _ => Wire.read?_write_dict _,
    optionalWith?_congr hselector rfl rfl, optionalWith?_congr hscopes rfl rfl⟩

theorem kept_empty : Wire.Kept ({} : QuotaSpec) := rfl

end QuotaSpec

namespace ResourceQuota

variable {j : Json} {q : ResourceQuota}

theorem read?_eq_some_iff : Wire.read? j = some q ↔ ∃ ms, j.members? = some ms ∧
    kind.admits ms = true ∧ ms.orElse? "metadata" {} = some q.metadata ∧
    ms.optional? "spec" = some q.spec ∧ ms.optional? "status" = some q.status := by
  cases q
  simp [Wire.read?, Option.bind_eq_some_iff]

/-- A quota is kept where each of its parts is. -/
theorem kept_iff : Wire.Kept q ↔ Wire.Kept q.metadata ∧ (∀ s ∈ q.spec, Wire.Kept s) ∧
    ∀ s ∈ q.status, Wire.Kept s := by
  let fs : List Field := [.mem "apiVersion" kind.apiVersion, .mem "kind" kind.name,
    .mem "metadata" q.metadata, .opt "spec" q.spec, .opt "status" q.status]
  have hadmits : kind.admits (membersOf fs) = true := by
    rcases q with ⟨m, _ | s, _ | t⟩ <;> rfl
  have hmetadata : (membersOf fs).orElse? "metadata" {} = some q.metadata ↔
      Wire.Kept q.metadata := by
    show Option.map _ (Members.optionalWith? _ _ _) = _ ↔ _
    rw [optionalWith?_membersOf (f := .mem "metadata" q.metadata) rfl]
    show Option.map _ (rereads (Wire.read? : Json → Option Metadata)
      [Wire.write q.metadata]) = _ ↔ _
    have hobject : (Wire.write q.metadata : Json) ≠ .null := nofun
    rw [rereads_write hobject]
    simp [Wire.Kept]
  have hspec : (membersOf fs).optional? "spec" = some q.spec ↔ ∀ s ∈ q.spec, Wire.Kept s :=
    optional?_membersOf_iff rfl nofun
  have hstatus : (membersOf fs).optional? "status" = some q.status ↔
      ∀ s ∈ q.status, Wire.Kept s := optional?_membersOf_iff rfl nofun
  rw [← hmetadata, ← hspec, ← hstatus]
  constructor
  · intro h
    obtain ⟨ms, hms, -, h⟩ := read?_eq_some_iff.1 h
    cases hms
    exact h
  · intro h
    exact read?_eq_some_iff.2 ⟨_, members?_record _, hadmits, h⟩

theorem kept_setHard (h : Wire.Kept q) (hard : Dict String String) :
    Wire.Kept (q.setHard hard) := by
  obtain ⟨hmetadata, hspec, hstatus⟩ := kept_iff.1 h
  refine kept_iff.2 ⟨hmetadata, ?_, hstatus⟩
  rintro _ ⟨⟩
  apply QuotaSpec.kept_withHard
  cases hs : q.spec with
  | none => exact QuotaSpec.kept_empty
  | some s => exact hspec s hs

/-- A quota under a version. -/
def versioned (q : ResourceQuota) (version : String) : ResourceQuota :=
  { q with metadata := q.metadata.versioned version }

theorem versioned_self {version : String} (h : q.metadata.resourceVersion = some version) :
    q.versioned version = q := by
  rcases q with ⟨m, _, _⟩
  cases m
  cases h
  rfl

theorem kept_versioned (h : Wire.Kept q) (version : String) : Wire.Kept (q.versioned version) := by
  obtain ⟨hmetadata, hrest⟩ := kept_iff.1 h
  exact kept_iff.2 ⟨Metadata.kept_versioned hmetadata version, hrest⟩

end ResourceQuota

end TenantCloud
