import TenantCloud.Object.Metadata
import TenantCloud.Proofs.Data.Timestamp
import TenantCloud.Proofs.Json.Values

/-!
# Metadata that is read again

Metadata keeps its moments to the second (`Metadata.toSeconds`), and nothing else about it changes
when it is written and read (`Metadata.reread`). It is written the same before and after
(`Metadata.write_toSeconds`).
-/

set_option autoImplicit false

namespace TenantCloud

open Json

/-! ## Members of metadata -/

/-- A moment in a member comes back to the second. -/
theorem Json.optional?_written_seconds {fs : List Field} {ms : Members} {name : String}
    {t : Option Timestamp} (h : ms.optional? name = some t)
    (hf : fieldsOf name fs = [.optSeconds name t]) :
    (membersOf fs).optional? name = some (t.map (·.toSecond)) := by
  apply optionalWith?_written hf h
  intro j t hj hread
  have htext : ∀ s : String, (Wire.read? (.str s) : Option Timestamp) = Timestamp.parse? s :=
    fun _ => rfl
  obtain ⟨s, -, ht⟩ := Option.bind_eq_some_iff.1 hread
  refine ⟨nofun, ?_⟩
  rw [htext, Timestamp.parse?_renderSeconds (Timestamp.inDomain_of_parse? ht)]

theorem Json.Field.optSeconds_toSecond (name : String) (t : Option Timestamp) :
    Field.optSeconds name (t.map (·.toSecond)) = Field.optSeconds name t := by
  simp [Field.optSeconds, Function.comp_def, Timestamp.renderSeconds_toSecond]

/-- A whole number in a member comes back. -/
theorem Json.optionalWith?_written_int {fs : List Field} {ms : Members} {name : String}
    {lo hi : Int} {n : Option Int} (h : ms.optionalWith? name (intIn? lo hi) = some n)
    (hf : fieldsOf name fs = [.optInt name n]) :
    (membersOf fs).optionalWith? name (intIn? lo hi) = some n := by
  have hback := optionalWith?_written (g := id) hf h fun j n _ hread =>
    ⟨Json.noConfusion, intIn?_of_mem (mem_of_intIn? hread)⟩
  rwa [Option.map_id] at hback

/-- A text in a member that may be absent comes back. -/
theorem Json.orElse?_written {fs : List Field} {name s : String}
    (hf : fieldsOf name fs = [.mem name s]) : (membersOf fs).orElse? name "" = some s := by
  show Option.map (·.getD "") (Members.optionalWith? _ _ _) = _
  rw [optionalWith?_membersOf hf]
  rfl

namespace OwnerReference

variable {j : Json} {r : OwnerReference}

theorem read?_eq_some_iff : Wire.read? j = some r ↔ ∃ ms, j.members? = some ms ∧
    ms.orElse? "apiVersion" "" = some r.apiVersion ∧
    ms.optional? "blockOwnerDeletion" = some r.blockOwnerDeletion ∧
    ms.optional? "controller" = some r.controller ∧ ms.orElse? "kind" "" = some r.kind ∧
    ms.orElse? "name" "" = some r.name ∧ ms.orElse? "uid" "" = some r.uid := by
  cases r
  simp [Wire.read?, ↓bind_eq_some_iff, -Option.bind_eq_bind]

instance : Wire.Lossless OwnerReference where
  reread h := by
    obtain ⟨ms, -, -, hblock, hcontroller, -⟩ := read?_eq_some_iff.1 h
    exact read?_eq_some_iff.2 ⟨_, members?_record _, orElse?_written rfl,
      optional?_written hblock rfl, optional?_written hcontroller rfl, orElse?_written rfl,
      orElse?_written rfl, orElse?_written rfl⟩
  ne_null _ _ := nofun

end OwnerReference

namespace ManagedFields

variable {j : Json} {f : ManagedFields}

theorem read?_eq_some_iff : Wire.read? j = some f ↔ ∃ ms, j.members? = some ms ∧
    ms.optional? "apiVersion" = some f.apiVersion ∧
    ms.optional? "fieldsType" = some f.fieldsType ∧ ms.optional? "fieldsV1" = some f.fields ∧
    ms.optional? "manager" = some f.manager ∧ ms.optional? "operation" = some f.operation ∧
    ms.optional? "subresource" = some f.subresource ∧ ms.optional? "time" = some f.time := by
  cases f
  simp [Wire.read?, ↓bind_eq_some_iff, -Option.bind_eq_bind]

/-- What is kept of the moment. -/
def toSeconds (f : ManagedFields) : ManagedFields := { f with time := f.time.map (·.toSecond) }

theorem write_toSeconds (f : ManagedFields) : Wire.write f.toSeconds = Wire.write f := by
  simp only [Wire.write, toSeconds, Field.optSeconds_toSecond]

theorem write_list_toSeconds (l : List ManagedFields) :
    Wire.write (l.map (·.toSeconds)) = Wire.write l := by
  show Json.arr (List.map _ _) = Json.arr (List.map _ _)
  rw [List.map_map]
  exact congrArg Json.arr (List.map_congr_left fun f _ => f.write_toSeconds)

theorem reread (h : Wire.read? j = some f) : Wire.read? (Wire.write f) = some f.toSeconds := by
  obtain ⟨ms, -, hversion, htype, hfields, hmanager, hoperation, hsub, htime⟩ :=
    read?_eq_some_iff.1 h
  exact read?_eq_some_iff.2 ⟨_, members?_record _, optional?_written hversion rfl,
    optional?_written htype rfl, optional?_written hfields rfl, optional?_written hmanager rfl,
    optional?_written hoperation rfl, optional?_written hsub rfl,
    optional?_written_seconds htime rfl⟩

theorem reread_list {l : List ManagedFields} (h : Wire.read? j = some l) :
    Wire.read? (Wire.write l) = some (l.map (·.toSeconds)) := by
  cases j with
  | arr items =>
    show (l.map Wire.write).mapM Wire.read? = _
    rw [List.mapM_map, mapM_eq_some_iff, List.forall₂_map_right_iff, List.forall₂_same]
    intro f hf
    obtain ⟨item, -, hitem⟩ := exists_of_mem_mapM h hf
    exact reread hitem
  | _ => cases h

end ManagedFields

namespace Metadata

variable {j : Json} {m : Metadata}

/-! ## Metadata as a whole -/

/-- The members that metadata is read from. -/
structure ReadFrom (ms : Members) (m : Metadata) : Prop where
  annotations : ms.optional? "annotations" = some m.annotations
  created : ms.optional? "creationTimestamp" = some m.creationTimestamp
  grace : ms.optionalWith? "deletionGracePeriodSeconds" int64? = some m.deletionGracePeriodSeconds
  deleted : ms.optional? "deletionTimestamp" = some m.deletionTimestamp
  finalizers : ms.optional? "finalizers" = some m.finalizers
  generateName : ms.optional? "generateName" = some m.generateName
  generation : ms.optionalWith? "generation" int64? = some m.generation
  labels : ms.optional? "labels" = some m.labels
  managed : ms.optional? "managedFields" = some m.managedFields
  name : ms.optional? "name" = some m.name
  ns : ms.optional? "namespace" = some m.ns
  owners : ms.optional? "ownerReferences" = some m.ownerReferences
  version : ms.optional? "resourceVersion" = some m.resourceVersion
  selfLink : ms.optional? "selfLink" = some m.selfLink
  uid : ms.optional? "uid" = some m.uid

theorem read?_eq_some_iff :
    Wire.read? j = some m ↔ ∃ ms, j.members? = some ms ∧ ReadFrom ms m := by
  simp only [Wire.read?, ↓bind_eq_some_iff, Option.pure_def, Option.some.injEq]
  constructor
  · rintro ⟨ms, hms, _, h1, _, h2, _, h3, _, h4, _, h5, _, h6, _, h7, _, h8, _, h9, _, h10, _,
      h11, _, h12, _, h13, _, h14, _, h15, rfl⟩
    exact ⟨ms, hms, h1, h2, h3, h4, h5, h6, h7, h8, h9, h10, h11, h12, h13, h14, h15⟩
  · rintro ⟨ms, hms, h1, h2, h3, h4, h5, h6, h7, h8, h9, h10, h11, h12, h13, h14, h15⟩
    exact ⟨ms, hms, _, h1, _, h2, _, h3, _, h4, _, h5, _, h6, _, h7, _, h8, _, h9, _, h10, _,
      h11, _, h12, _, h13, _, h14, _, h15, rfl⟩

/-- What is kept of the moments. -/
def toSeconds (m : Metadata) : Metadata :=
  { m with
    creationTimestamp := m.creationTimestamp.map (·.toSecond)
    deletionTimestamp := m.deletionTimestamp.map (·.toSecond)
    managedFields := m.managedFields.map (·.map (·.toSeconds)) }

theorem write_toSeconds (m : Metadata) : Wire.write m.toSeconds = Wire.write m := by
  have hmanaged : ∀ l : Option (List ManagedFields),
      Field.opt "managedFields" (l.map (·.map (·.toSeconds))) = Field.opt "managedFields" l := by
    intro l
    unfold Field.opt
    rw [Option.map_map, Function.comp_def]
    simp only [ManagedFields.write_list_toSeconds]
  simp only [Wire.write, toSeconds, Field.optSeconds_toSecond, hmanaged]

theorem reread (h : Wire.read? j = some m) : Wire.read? (Wire.write m) = some m.toSeconds := by
  obtain ⟨ms, -, h⟩ := read?_eq_some_iff.1 h
  have hmanaged : ∀ (j : Json) (l : List ManagedFields), j ≠ .null → Wire.read? j = some l →
      Wire.write l ≠ .null ∧ Wire.read? (Wire.write l) = some (l.map (·.toSeconds)) :=
    fun j l _ hread => ⟨nofun, ManagedFields.reread_list hread⟩
  refine read?_eq_some_iff.2 ⟨_, members?_record _, ?_⟩
  exact {
    annotations := optional?_written h.annotations rfl
    created := optional?_written_seconds h.created rfl
    grace := optionalWith?_written_int h.grace rfl
    deleted := optional?_written_seconds h.deleted rfl
    finalizers := optional?_written h.finalizers rfl
    generateName := optional?_written h.generateName rfl
    generation := optionalWith?_written_int h.generation rfl
    labels := optional?_written h.labels rfl
    managed := optionalWith?_written rfl h.managed hmanaged
    name := optional?_written h.name rfl
    ns := optional?_written h.ns rfl
    owners := optional?_written h.owners rfl
    version := optional?_written h.version rfl
    selfLink := optional?_written h.selfLink rfl
    uid := optional?_written h.uid rfl }

end Metadata

end TenantCloud
