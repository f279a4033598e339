import Mathlib.Logic.Equiv.Defs
import TenantCloud.Proofs.Object.Metadata
import TenantCloud.Proofs.Object.Records
import TenantCloud.VirtualMachine.Facts
import TenantCloud.VirtualMachine.Lifecycle

/-!
# Objects that are written and read again

A machine, an instance or a template instance that was read is read again from what it is written
as, with its specification and its status as they were and its metadata but for fractions of
seconds (`Wire.Root.reread`). What its reader does not look at is not there any more
(`Wire.Root.strip_write`), so that it is written the same from then on
(`Wire.Root.write_toSeconds`). `rewriting_keeps_objects` is all this for the three kinds, with the
answers that are worked out from them.
-/

set_option autoImplicit false

namespace TenantCloud

open Json

/-! ## Objects with a specification and a status -/

/-- An object is read from, and written as, its metadata, its specification and its status. -/
class Wire.Root (ρ : Type) (σ τ : outParam Type) [Wire ρ] [Wire σ] [Wire τ] where
  kind : ObjectKind
  parts : ρ ≃ Metadata × σ × Option τ
  read?_eq_some_iff : ∀ {j : Json} {v : ρ}, Wire.read? j = some v ↔
    ∃ ms, j.allFields? ["metadata", "spec", "status"] = some ms ∧
      ms.required? "metadata" = some (parts v).1 ∧ ms.required? "spec" = some (parts v).2.1 ∧
      ms.optional? "status" = some (parts v).2.2
  write_eq : ∀ v : ρ, Wire.write v = kind.write [.mem "metadata" (parts v).1,
    .mem "spec" (parts v).2.1, .opt "status" (parts v).2.2]

namespace Wire.Root

variable {ρ σ τ : Type} [Wire ρ] [Wire σ] [Wire τ] [Root ρ σ τ] {j : Json} {v : ρ}

/-- What is kept of the moments in the metadata. -/
def toSeconds (v : ρ) : ρ := parts.symm ((parts v).1.toSeconds, (parts v).2)

theorem parts_toSeconds (v : ρ) : parts (toSeconds v) = ((parts v).1.toSeconds, (parts v).2) :=
  parts.apply_symm_apply _

theorem write_toSeconds (v : ρ) : Wire.write (toSeconds v) = Wire.write v := by
  rw [write_eq, write_eq, parts_toSeconds]
  simp only [Field.mem, Metadata.write_toSeconds]

theorem reread [Lossless σ] [Lossless τ] (h : Wire.read? j = some v) :
    Wire.read? (Wire.write v) = some (toSeconds v) := by
  obtain ⟨ms, -, hmetadata, hspec, hstatus⟩ := read?_eq_some_iff.1 h
  rw [write_eq, read?_eq_some_iff, parts_toSeconds]
  refine ⟨_, allFields?_record rfl, ?_, required?_written hspec rfl, optional?_written hstatus rfl⟩
  obtain ⟨j, -, hread⟩ := Option.bind_eq_some_iff.1 hmetadata
  show (last? _ _).bind _ = _
  rw [last?_membersOf (f := .mem "metadata" (parts v).1) rfl]
  exact Metadata.reread hread

instance : Shaped Metadata where
  shape := .any
  strip_read h := by rwa [Shape.strip_any]
  strip_write _ := Shape.strip_any _

section Shape

variable [Shaped σ] [Shaped τ]

/-- The shapes of the members of an object. Its metadata is taken as it is. -/
def member (σ τ : Type) [Wire σ] [Wire τ] [Shaped σ] [Shaped τ] (name : String) : Shape :=
  if name = "spec" then Shaped.shape σ else if name = "status" then Shaped.shape τ else .any

/-- What the reader of an object looks at. The kind that it is written with is left alone. -/
def shape (σ τ : Type) [Wire σ] [Wire τ] [Shaped σ] [Shaped τ] : Shape :=
  .record ["apiVersion", "kind", "metadata", "spec"] ["status"] (member σ τ)

theorem strip_read (h : Wire.read? j = some v) : Wire.read? ((shape σ τ).strip j) = some v := by
  obtain ⟨ms, hms, hmetadata, hspec, hstatus⟩ := read?_eq_some_iff.1 h
  obtain ⟨ms', hms', hthin⟩ := Shape.allFields?_strip hms
  exact read?_eq_some_iff.2 ⟨ms', hms', hthin.required? hmetadata (by decide) (by decide) rfl,
    hthin.required? hspec (by decide) (by decide) rfl,
    hthin.optional? hstatus (by decide) (by decide) rfl⟩

theorem strip_write [Lossless τ] (h : Wire.read? j = some v) :
    (shape σ τ).strip (Wire.write v) = Wire.write v := by
  obtain ⟨ms, -, hmetadata, hspec, hstatus⟩ := read?_eq_some_iff.1 h
  have htext : ∀ s : String, Wire.read? (.str s) = some s := fun _ => rfl
  rw [write_eq]
  apply Shape.strip_record
  simp only [List.forall_mem_cons]
  exact ⟨Shape.bare_mem (htext _) (by decide) rfl, Shape.bare_mem (htext _) (by decide) rfl,
    Shape.bare_required hmetadata (by decide) rfl, Shape.bare_required hspec (by decide) rfl,
    Shape.bare_opt hstatus (by decide) rfl, List.forall_mem_nil _⟩

end Shape

end Wire.Root

instance : Wire.Root VirtualMachine VirtualMachineSpec VirtualMachineStatus where
  kind := VirtualMachine.kind
  parts := ⟨fun v => (v.metadata, v.spec, v.status), fun p => ⟨p.1, p.2.1, p.2.2⟩,
    fun _ => rfl, fun _ => rfl⟩
  read?_eq_some_iff {j v} := by
    cases v
    simp [Wire.read?, Option.bind_eq_some_iff]
  write_eq _ := rfl

instance : Wire.Root VirtualMachineInstance InstanceSpec InstanceStatus where
  kind := VirtualMachineInstance.kind
  parts := ⟨fun v => (v.metadata, v.spec, v.status), fun p => ⟨p.1, p.2.1, p.2.2⟩,
    fun _ => rfl, fun _ => rfl⟩
  read?_eq_some_iff {j v} := by
    cases v
    simp [Wire.read?, Option.bind_eq_some_iff]
  write_eq _ := rfl

instance : Wire.Root TemplateInstance TemplateInstanceSpec TemplateInstanceStatus where
  kind := TemplateInstance.kind
  parts := ⟨fun v => (v.metadata, v.spec, v.status), fun p => ⟨p.1, p.2.1, p.2.2⟩,
    fun _ => rfl, fun _ => rfl⟩
  read?_eq_some_iff {j v} := by
    cases v
    simp [Wire.read?, Option.bind_eq_some_iff]
  write_eq _ := rfl

/-! ## Words that are not known -/

/-- The value at a path of member names. -/
def Json.at? : List String → Json → Option Json
  | [], j => some j
  | name :: path, .obj ms => (last? ms name).bind (at? path)
  | _ :: _, _ => none

/-- The only member of a name is what an optional member is read from. -/
theorem Json.optional?_of_last? {α : Type} [Wire α] {ms : Members} {name : String} {j : Json}
    (hcount : occurrences ms name ≤ 1) (h : last? ms name = some j) :
    ms.optional? name = Members.nullOr? (Wire.read? : Json → Option α) j := by
  rcases Shape.filter_of_occurrences hcount with hms | ⟨j', hms⟩
  · rw [Shape.last?_of_filter hms] at h
    cases h
  · rw [Shape.last?_of_filter hms] at h
    cases h
    exact Shape.optionalWith?_of_one hms

theorem PrintableStatus.ofWord_of_unknown {w : String} (h : ∀ s : PrintableStatus, s.word ≠ w) :
    ofWord w = unknown := by
  have hnone : all.find? (·.word == w) = none := by
    rw [List.find?_eq_none]
    intro s _
    simpa using h s
  unfold ofWord
  rw [hnone]
  rfl

theorem VirtualMachineStatus.printableStatus_of_last? {ms : Members} {s : VirtualMachineStatus}
    {x : Json} {w : String} (h : Wire.read? (.obj ms) = some s)
    (hx : last? ms "printableStatus" = some x) (hw : x.choice? = some w) :
    s.printableStatus = some (.ofWord w) := by
  obtain ⟨ms, hms, hcolumns⟩ := Wire.Tabular.read?_eq_some_iff.1 h
  obtain ⟨rfl, hcount⟩ := Shape.fields?_obj hms
  have hread : ms.optional? "printableStatus" = some s.printableStatus :=
    hcolumns _ List.mem_cons_self
  have hword : Members.nullOr? Wire.read? x = some (some (PrintableStatus.ofWord w)) := by
    have hnull : x ≠ .null := by
      rintro rfl
      cases hw
    show Members.nullOr? (fun j => j.choice?.map PrintableStatus.ofWord) x = _
    rw [nullOr?_of_ne_null hnull, hw]
    rfl
  have hone : occurrences ms "printableStatus" ≤ 1 := hcount _ List.mem_cons_self
  rw [optional?_of_last? hone hx, hword] at hread
  exact (Option.some.inj hread).symm

/-- A machine whose status has a word that is not known is read as unknown. -/
theorem VirtualMachine.printableStatus_of_at? {j x : Json} {vm : VirtualMachine} {w : String}
    (h : Wire.read? j = some vm) (hx : j.at? ["status", "printableStatus"] = some x)
    (hw : x.choice? = some w) (hunknown : ∀ s : PrintableStatus, s.word ≠ w) :
    vm.status.bind (·.printableStatus) = some .unknown := by
  obtain ⟨ms, hms, -, -, hstatus⟩ := Wire.Root.read?_eq_some_iff.1 h
  cases j with
  | obj ms₀ =>
    obtain ⟨rfl, hcount⟩ := Shape.fields?_obj hms
    obtain ⟨status, hlast, hx⟩ := Option.bind_eq_some_iff.1 hx
    rw [optional?_of_last? (hcount "status" (by decide)) hlast] at hstatus
    cases status with
    | obj ms₁ =>
      have hobject : Json.obj ms₁ ≠ .null := Json.noConfusion
      rw [nullOr?_of_ne_null hobject] at hstatus
      obtain ⟨s, hs, hvm⟩ := Option.map_eq_some_iff.1 hstatus
      obtain ⟨x', hlast, ⟨⟩⟩ := Option.bind_eq_some_iff.1 hx
      have hword := VirtualMachineStatus.printableStatus_of_last? hs hlast hw
      rw [PrintableStatus.ofWord_of_unknown hunknown] at hword
      show Option.bind (Wire.Root.parts vm).2.2 _ = _
      rw [← hvm]
      exact hword
    | _ => cases hx
  | _ => cases hx

/-! ## Answers about an object -/

/-- `v'` is read again from what `v` is written as, and from then on nothing changes. -/
structure Wire.Rewritten {ρ : Type} [Wire ρ] (shape : Shape) (j : Json) (v v' : ρ) : Prop where
  reread : Wire.read? (Wire.write v) = some v'
  fixed : Wire.write v' = Wire.write v
  /-- Whatever is read and differs from `j` only in what its reader does not look at, members that
  are not known and `null` in place of an absent one, is the same. -/
  alike : ∀ {j' : Json} {w : ρ}, Wire.read? j' = some w → shape.strip j' = shape.strip j → w = v
  strip_read : Wire.read? (shape.strip j) = some v
  /-- All that was not looked at is gone. -/
  strip_write : shape.strip (Wire.write v) = Wire.write v

theorem Wire.Root.rewritten {ρ σ τ : Type} [Wire ρ] [Wire σ] [Wire τ] [Root ρ σ τ] [Lossless σ]
    [Lossless τ] [Shaped σ] [Shaped τ] {j : Json} {v : ρ} (h : Wire.read? j = some v) :
    Rewritten (shape σ τ) j v (toSeconds v) where
  reread := reread h
  fixed := write_toSeconds v
  alike {j' w} hw hstrip := by
    have hsame := strip_read hw
    rw [hstrip, strip_read h] at hsame
    exact (Option.some.inj hsame).symm
  strip_read := strip_read h
  strip_write := strip_write h

theorem LifecycleSignal.ofMachine_toSeconds (vm : VirtualMachine) :
    ofMachine (Wire.Root.toSeconds vm) = ofMachine vm := by
  have hdeleted : (Wire.Root.toSeconds vm).metadata.deletionTimestamp.isSome =
      vm.metadata.deletionTimestamp.isSome := Option.isSome_map ..
  unfold ofMachine
  rw [hdeleted]
  rfl

/-- Machines, instances and template instances that were read come back from what they are written
as: their specification and their status are equal, and so are the answers worked out from them. -/
theorem rewriting_keeps_objects :
    (∀ (j : Json) (vm : VirtualMachine), Wire.read? j = some vm → ∃ vm',
      Wire.Rewritten (Wire.Root.shape VirtualMachineSpec VirtualMachineStatus) j vm vm' ∧
      vm'.spec = vm.spec ∧ vm'.status = vm.status ∧ vm'.metadata = vm.metadata.toSeconds ∧
      (∀ x w, j.at? ["status", "printableStatus"] = some x → x.choice? = some w →
        (∀ s : PrintableStatus, s.word ≠ w) →
        vm.status.bind (·.printableStatus) = some .unknown ∧
        vm'.status.bind (·.printableStatus) = some .unknown) ∧
      LifecycleSignal.ofMachine vm' = LifecycleSignal.ofMachine vm ∧
      ∀ vmi, VmFacts.observed vm' vmi = VmFacts.observed vm vmi) ∧
    (∀ (j : Json) (vmi : VirtualMachineInstance), Wire.read? j = some vmi → ∃ vmi',
      Wire.Rewritten (Wire.Root.shape InstanceSpec InstanceStatus) j vmi vmi' ∧
      vmi'.spec = vmi.spec ∧ vmi'.status = vmi.status ∧
      vmi'.metadata = vmi.metadata.toSeconds ∧
      ∀ vm, VmFacts.observed vm (some vmi') = VmFacts.observed vm (some vmi)) ∧
    ∀ (j : Json) (ti : TemplateInstance), Wire.read? j = some ti → ∃ ti',
      Wire.Rewritten (Wire.Root.shape TemplateInstanceSpec TemplateInstanceStatus) j ti ti' ∧
      ti'.spec = ti.spec ∧ ti'.status = ti.status ∧ ti'.metadata = ti.metadata.toSeconds ∧
      ti'.isReady = ti.isReady ∧ ti'.hasFailed = ti.hasFailed ∧
      ti'.failureMessage = ti.failureMessage := by
  refine ⟨?_, ?_, ?_⟩
  · intro j vm h
    refine ⟨Wire.Root.toSeconds vm, Wire.Root.rewritten h, rfl, rfl, rfl, ?_,
      LifecycleSignal.ofMachine_toSeconds vm, fun _ => rfl⟩
    intro x w hx hw hunknown
    have hstatus := VirtualMachine.printableStatus_of_at? h hx hw hunknown
    exact ⟨hstatus, hstatus⟩
  · intro j vmi h
    exact ⟨Wire.Root.toSeconds vmi, Wire.Root.rewritten h, rfl, rfl, rfl, fun _ => rfl⟩
  · intro j ti h
    exact ⟨Wire.Root.toSeconds ti, Wire.Root.rewritten h, rfl, rfl, rfl, rfl, rfl, rfl⟩

/-- A machine with members that are not known, a `null` and a word that is not known. -/
def VirtualMachine.hibernating : Json :=
  .obj [("kind", .str "VirtualMachine"), ("metadata", .obj [("name", .str "web")]),
    ("spec", .obj [("running", .bool true), ("dataVolumes", .arr []), ("template", .null)]),
    ("status", .obj [("printableStatus", .str "Hibernating"), ("ready", .null)])]

/-- An instance that runs, with members that are not known and a `null`. -/
def VirtualMachineInstance.running : Json :=
  .obj [("metadata", .obj [("name", .str "web")]), ("spec", .obj [("domain", .null)]),
    ("status", .obj [("phase", .str "Running"), ("nodeName", .str "node-1"),
      ("currentCPUTopology", .obj [("cores", .int 2), ("sockets", .int 3), ("threads", .null)]),
      ("guestOSInfo", .obj [("id", .str "fedora"), ("prettyName", .str "Fedora Linux 40"),
        ("kernelRelease", .str "6.8")])])]

/-- A template instance that failed. -/
def TemplateInstance.failing : Json :=
  .obj [("metadata", .obj [("name", .str "web")]), ("spec", .obj []),
    ("status", .obj [("conditions", .arr [.obj [("type", .str "InstantiateFailure"),
      ("status", .str "True"), ("message", .str "quota"), ("lastTransitionTime", .null)]])])]

theorem rewriting_keeps_objects_read :
    (∃ vm vm' : VirtualMachine, Wire.read? VirtualMachine.hibernating = some vm ∧
      Wire.read? (Wire.write vm) = some vm' ∧ Wire.write vm' = Wire.write vm ∧
      vm'.spec = ⟨some true, none, none⟩ ∧ vm'.status = some ⟨some .unknown, none⟩) ∧
    (∃ vmi vmi' : VirtualMachineInstance, Wire.read? VirtualMachineInstance.running = some vmi ∧
      Wire.read? (Wire.write vmi) = some vmi' ∧ Wire.write vmi' = Wire.write vmi ∧
      vmi'.spec = ⟨none⟩ ∧
      vmi'.status = some ⟨some "Running", some ⟨some 2, some 3, none⟩, none,
        some ⟨some "fedora", none, some "Fedora Linux 40", none⟩⟩ ∧
      ∀ vm, (VmFacts.observed vm (some vmi')).cpuCount = some 6 ∧
        (VmFacts.observed vm (some vmi')).guestOs = some "Fedora Linux 40") ∧
    ∃ ti ti' : TemplateInstance, Wire.read? TemplateInstance.failing = some ti ∧
      Wire.read? (Wire.write ti) = some ti' ∧ ti'.hasFailed = true ∧
      ti'.failureMessage = some "quota" := by
  have hvm : Wire.read? VirtualMachine.hibernating = some (⟨{ name := some "web" },
      ⟨some true, none, none⟩, some ⟨some .unknown, none⟩⟩ : VirtualMachine) := by decide +kernel
  have hvmi : Wire.read? VirtualMachineInstance.running = some (⟨{ name := some "web" }, ⟨none⟩,
      some ⟨some "Running", some ⟨some 2, some 3, none⟩, none,
        some ⟨some "fedora", none, some "Fedora Linux 40", none⟩⟩⟩ :
        VirtualMachineInstance) := by
    decide +kernel
  have hti : Wire.read? TemplateInstance.failing = some (⟨{ name := some "web" }, ⟨none⟩,
      some ⟨[⟨"InstantiateFailure", "True", none, some "quota"⟩]⟩⟩ : TemplateInstance) := by
    decide +kernel
  obtain ⟨vm', hvm', hspec, hstatus, -⟩ := rewriting_keeps_objects.1 _ _ hvm
  obtain ⟨vmi', hvmi', hspec', hstatus', -, hfacts⟩ := rewriting_keeps_objects.2.1 _ _ hvmi
  obtain ⟨ti', hti', -, -, -, -, hfailed, hmessage⟩ := rewriting_keeps_objects.2.2 _ _ hti
  refine ⟨⟨_, vm', hvm, hvm'.reread, hvm'.fixed, hspec, hstatus⟩,
    ⟨_, vmi', hvmi, hvmi'.reread, hvmi'.fixed, hspec', hstatus', fun vm => ?_⟩,
    _, ti', hti, hti'.reread, ?_, ?_⟩
  · rw [hfacts vm]
    exact ⟨rfl, rfl⟩
  · rw [hfailed]
    decide +kernel
  · rw [hmessage]
    decide +kernel

end TenantCloud
