import TenantCloud.Object.TemplateInstance
import TenantCloud.Object.VirtualMachine
import TenantCloud.Proofs.Json.Columns

/-!
# Records of machines and instantiations

The records that machines, their instances and template instances are made of have optional members
only, under the names that the cluster gives them (`Wire.Tabular`), but for a condition
(`InstanceCondition`), which has a type and a status, and the list of conditions
(`TemplateInstanceStatus`), which is always written. So each of them is read again from what it is
written as.
-/

set_option autoImplicit false

namespace TenantCloud

open Json

/-! ## Hardware -/

instance : Wire.Tabular CpuTopology where
  columns := [.nat 32 "cores" (·.cores), .nat 32 "sockets" (·.sockets),
    .nat 32 "threads" (·.threads)]
  distinct := by decide
  read?_eq_some_iff {j t} := by
    cases t
    simp [Wire.read?, Option.bind_eq_some_iff, Column.nat]
  write_eq t := by
    simp [Wire.write, Column.field, Column.nat, Field.optInt, Function.comp_def]

instance : Wire.Tabular DomainMemory where
  columns := [.of "guest" (·.guest)]
  distinct := by decide
  read?_eq_some_iff {j m} := by
    cases m
    simp [Wire.read?, Option.bind_eq_some_iff, Column.of, Members.optional?]
  write_eq _ := rfl

instance : Wire.Tabular DomainResources where
  columns := [.of "requests" (·.requests)]
  distinct := by decide
  read?_eq_some_iff {j r} := by
    cases r
    simp [Wire.read?, Option.bind_eq_some_iff, Column.of, Members.optional?]
  write_eq _ := rfl

instance : Wire.Tabular DomainSpec where
  columns := [.of "cpu" (·.cpu), .of "memory" (·.memory), .of "resources" (·.resources)]
  distinct := by decide
  read?_eq_some_iff {j d} := by
    cases d
    simp [Wire.read?, Option.bind_eq_some_iff, Column.of, Members.optional?]
  write_eq _ := rfl

/-! ## Instances -/

instance : Wire.Tabular InstanceSpec where
  columns := [.of "domain" (·.domain)]
  distinct := by decide
  read?_eq_some_iff {j s} := by
    cases s
    simp [Wire.read?, Option.bind_eq_some_iff, Column.of, Members.optional?]
  write_eq _ := rfl

instance : Wire.Tabular MemoryStatus where
  columns := [.of "guestCurrent" (·.guestCurrent), .of "guestAtBoot" (·.guestAtBoot)]
  distinct := by decide
  read?_eq_some_iff {j m} := by
    cases m
    simp [Wire.read?, Option.bind_eq_some_iff, Column.of, Members.optional?]
  write_eq _ := rfl

instance : Wire.Tabular GuestOsInfo where
  columns := [.of "id" (·.id), .of "name" (·.name), .of "prettyName" (·.prettyName),
    .of "version" (·.version)]
  distinct := by decide
  read?_eq_some_iff {j i} := by
    cases i
    simp [Wire.read?, Option.bind_eq_some_iff, Column.of, Members.optional?]
  write_eq _ := rfl

instance : Wire.Tabular InstanceStatus where
  columns := [.of "phase" (·.phase), .of "currentCPUTopology" (·.cpuTopology),
    .of "memory" (·.memory), .of "guestOSInfo" (·.guestOs)]
  distinct := by decide
  read?_eq_some_iff {j s} := by
    cases s
    simp [Wire.read?, Option.bind_eq_some_iff, Column.of, Members.optional?]
  write_eq _ := rfl

/-! ## Machines -/

instance : Wire.Tabular InstanceTemplate where
  columns := [.of "spec" (·.spec)]
  distinct := by decide
  read?_eq_some_iff {j t} := by
    cases t
    simp [Wire.read?, Option.bind_eq_some_iff, Column.of, Members.optional?]
  write_eq _ := rfl

instance : Wire.Tabular VirtualMachineSpec where
  columns := [.of "running" (·.running), .of "runStrategy" (·.runStrategy),
    .of "template" (·.template)]
  distinct := by decide
  read?_eq_some_iff {j s} := by
    cases s
    simp [Wire.read?, Option.bind_eq_some_iff, Column.of, Members.optional?]
  write_eq _ := rfl

/-- A word that is not known becomes `Unknown`, and every other word stays. -/
instance : Wire.Lossless PrintableStatus where
  reread {_ s} _ := congrArg some (PrintableStatus.ofWord_word s)
  ne_null _ _ := nofun

instance : Wire.Shaped PrintableStatus where
  shape := .any
  strip_read h := by rwa [Shape.strip_any]
  strip_write _ := Shape.strip_any _

instance : Wire.Tabular VirtualMachineStatus where
  columns := [.of "printableStatus" (·.printableStatus), .of "ready" (·.ready)]
  distinct := by decide
  read?_eq_some_iff {j s} := by
    cases s
    simp [Wire.read?, Option.bind_eq_some_iff, Column.of, Members.optional?]
  write_eq _ := rfl

/-! ## Instantiations -/

instance : Wire.Tabular TemplateInstanceSpec where
  columns := [.of "template" (·.template)]
  distinct := by decide
  read?_eq_some_iff {j s} := by
    cases s
    simp [Wire.read?, Option.bind_eq_some_iff, Column.of, Members.optional?]
  write_eq _ := rfl

namespace InstanceCondition

variable {j : Json} {c : InstanceCondition}

theorem read?_eq_some_iff : Wire.read? j = some c ↔
    ∃ ms, j.fields? ["type", "status", "reason", "message"] = some ms ∧
      ms.required? "type" = some c.type ∧ ms.required? "status" = some c.status ∧
      ms.optional? "reason" = some c.reason ∧ ms.optional? "message" = some c.message := by
  cases c
  simp [Wire.read?, Option.bind_eq_some_iff]

instance : Wire.Lossless InstanceCondition where
  reread h := by
    obtain ⟨ms, -, htype, hstatus, hreason, hmessage⟩ := read?_eq_some_iff.1 h
    exact read?_eq_some_iff.2 ⟨_, fields?_record rfl, required?_written htype rfl,
      required?_written hstatus rfl, optional?_written hreason rfl, optional?_written hmessage rfl⟩
  ne_null _ _ := nofun

instance : Wire.Shaped InstanceCondition where
  shape := .record ["type", "status"] ["reason", "message"] fun _ => .any
  strip_read h := by
    obtain ⟨ms, hms, htype, hstatus, hreason, hmessage⟩ := read?_eq_some_iff.1 h
    obtain ⟨ms', hms', hthin⟩ := Shape.fields?_strip hms
    exact read?_eq_some_iff.2 ⟨ms', hms', hthin.required? htype (by decide) (by decide) rfl,
      hthin.required? hstatus (by decide) (by decide) rfl,
      hthin.optional? hreason (by decide) (by decide) rfl,
      hthin.optional? hmessage (by decide) (by decide) rfl⟩
  strip_write h := by
    obtain ⟨ms, -, htype, hstatus, hreason, hmessage⟩ := read?_eq_some_iff.1 h
    apply Shape.strip_record
    simp only [List.forall_mem_cons]
    exact ⟨Shape.bare_required htype (by decide) rfl, Shape.bare_required hstatus (by decide) rfl,
      Shape.bare_opt hreason (by decide) rfl, Shape.bare_opt hmessage (by decide) rfl, nofun⟩

end InstanceCondition

namespace TemplateInstanceStatus

variable {j : Json} {s : TemplateInstanceStatus}

theorem read?_eq_some_iff : Wire.read? j = some s ↔ ∃ ms,
    j.fields? ["conditions"] = some ms ∧ ms.absentOr? "conditions" [] = some s.conditions := by
  cases s
  simp [Wire.read?, Option.bind_eq_some_iff]

/-- Conditions that are there can be read again. -/
theorem exists_of_absentOr? {ms : Members} {l : List InstanceCondition}
    (h : ms.absentOr? "conditions" [] = some l) : ∃ j, Wire.read? j = some l := by
  unfold Members.absentOr? at h
  split at h
  · cases h
    exact ⟨.arr [], rfl⟩
  · exact ⟨_, h⟩

instance : Wire.Lossless TemplateInstanceStatus where
  reread {j s} h := by
    obtain ⟨ms, -, hconditions⟩ := read?_eq_some_iff.1 h
    obtain ⟨j, hj⟩ := exists_of_absentOr? hconditions
    refine read?_eq_some_iff.2 ⟨_, fields?_record rfl, ?_⟩
    unfold Members.absentOr?
    rw [last?_membersOf (f := .mem "conditions" s.conditions) rfl]
    exact Wire.Lossless.reread hj
  ne_null _ _ := nofun

instance : Wire.Shaped TemplateInstanceStatus where
  shape := .record ["conditions"] [] fun _ => Wire.Shaped.shape (List InstanceCondition)
  strip_read h := by
    obtain ⟨ms, hms, hconditions⟩ := read?_eq_some_iff.1 h
    obtain ⟨ms', hms', hthin⟩ := Shape.fields?_strip hms
    exact read?_eq_some_iff.2
      ⟨ms', hms', hthin.absentOr? hconditions (by decide) (by decide) rfl⟩
  strip_write h := by
    obtain ⟨ms, -, hconditions⟩ := read?_eq_some_iff.1 h
    obtain ⟨j, hj⟩ := exists_of_absentOr? hconditions
    apply Shape.strip_record
    simp only [List.forall_mem_cons]
    exact ⟨Shape.bare_mem hj (by decide) rfl, nofun⟩

end TemplateInstanceStatus

end TenantCloud
