import TenantCloud.Proofs.Reconcile.Retention

/-!
# Operations of the store

The tables of vApps and machines have keys that no two rows share (`Store.Keyed`). What the store
promises of a call is told against them (`World.Honors`): a creation is refused exactly where the
new row would share a key, an update changes one row, and a look-up by a key finds the one row that
fits. Since the keys are kept by every call that is honoured (`World.Operates.keyed`), all calls are
honoured along every sequence of them (`World.honors_of_operates`).
-/

set_option autoImplicit false

namespace TenantCloud

namespace Table

section

variable {ρ κ : Type} {t : Table ρ} {key : ρ → κ} {p : ρ → Bool}

/-- What a look-up finds is the one row that fits, whatever the order of the rows. -/
structure Finds (t : Table ρ) (p : ρ → Bool) (found : Option ρ) : Prop where
  fits : ∀ r, found = some r ↔ r ∈ t ∧ p r = true
  order : ∀ t' : Table ρ, t'.Perm t → t'.find? p = found

theorem Distinct.perm (h : t.Distinct key) {t' : Table ρ} (hperm : t'.Perm t) : t'.Distinct key :=
  fun a ha b hb => h a (hperm.mem_iff.1 ha) b (hperm.mem_iff.1 hb)

theorem Distinct.find?_eq_some_iff (h : t.Distinct key) {k : κ} (hp : ∀ r, p r = true ↔ key r = k)
    (r : ρ) : t.find? p = some r ↔ r ∈ t ∧ p r = true := by
  constructor
  · exact fun hfind => ⟨List.mem_of_find?_eq_some hfind, List.find?_some hfind⟩
  · rintro ⟨hr, hfits⟩
    refine h.find? hr fun a => ?_
    rw [(hp r).1 hfits]
    exact hp a

/-- A look-up by a key. -/
theorem Distinct.finds (h : t.Distinct key) {k : κ} (hp : ∀ r, p r = true ↔ key r = k) :
    t.Finds p (t.find? p) := by
  refine ⟨h.find?_eq_some_iff hp, fun t' hperm => Option.ext fun r => ?_⟩
  rw [(h.perm hperm).find?_eq_some_iff hp, h.find?_eq_some_iff hp, hperm.mem_iff]

/-- A new row shares a key with an old one, or it may be added. -/
theorem Distinct.concat_iff (h : t.Distinct key) {row : ρ} (hrow : row ∉ t) :
    Distinct (t ++ [row]) key ↔ ∀ r ∈ t, key r ≠ key row := by
  refine ⟨fun hall r hr hkey => hrow ?_, h.concat⟩
  have hsame := hall r (List.mem_append_left _ hr) row
    (List.mem_append_right _ List.mem_cons_self) hkey
  exact hsame ▸ hr

end

section

variable {ρ : Type} [Row ρ] {t : Table ρ} {id : Uuid} {f : ρ → ρ}

/-- Only the row with an identity is another one now, which `f` makes of the old one. -/
structure Amended (t t' : Table ρ) (id : Uuid) (f : ρ → ρ) : Prop where
  row : get? t' id = (get? t id).map f
  others : ∀ id', id' ≠ id → get? t' id' = get? t id'
  length : t'.length = t.length

theorem amended_amend (hf : ∀ r, Row.rowId (f r) = Row.rowId r) :
    Amended t (amend t id f) id f := by
  refine ⟨?_, fun id' hid' => ?_, length_amend t id f⟩
  · rw [get?_amend hf]
    refine Option.map_congr fun r hr => if_pos ?_
    exact beq_iff_eq.2 (get?_eq_some hr).2
  · rw [get?_amend hf]
    refine (Option.map_congr fun r hr => if_neg ?_).trans Option.map_id'
    rw [(get?_eq_some hr).2]
    exact fun he => hid' (beq_iff_eq.1 he)

theorem exists_mem_amend {r : ρ} (hr : r ∈ t) : ∃ r' ∈ amend t id f, r' = f r ∨ r' = r := by
  refine ⟨_, List.mem_map_of_mem hr, ?_⟩
  split
  · exact .inl rfl
  · exact .inr rfl

end

end Table

namespace Store

/-- No row is gone, and none has another key. -/
structure Keeps (s s' : Store) : Prop where
  organizations : s'.organizations = s.organizations
  vdcs : s'.vdcs = s.vdcs
  vapps : ∀ a ∈ s.vapps, ∃ a' ∈ s'.vapps, a'.id = a.id ∧ a'.vdcId = a.vdcId ∧ a'.name = a.name
  vms : ∀ r ∈ s.vms, ∃ r' ∈ s'.vms,
    r'.id = r.id ∧ r'.ns = r.ns ∧ r'.vappId = r.vappId ∧ r'.vmName = r.vmName

variable {s s' s'' : Store}

theorem Keeps.refl (s : Store) : s.Keeps s :=
  ⟨rfl, rfl, fun a ha => ⟨a, ha, rfl, rfl, rfl⟩, fun r hr => ⟨r, hr, rfl, rfl, rfl, rfl⟩⟩

theorem Keeps.trans (h : s.Keeps s') (h' : s'.Keeps s'') : s.Keeps s'' := by
  refine ⟨h'.organizations.trans h.organizations, h'.vdcs.trans h.vdcs, fun a ha => ?_,
    fun r hr => ?_⟩
  · obtain ⟨a', ha', hid, hvdc, hname⟩ := h.vapps a ha
    obtain ⟨a'', ha'', hid', hvdc', hname'⟩ := h'.vapps a' ha'
    exact ⟨a'', ha'', hid'.trans hid, hvdc'.trans hvdc, hname'.trans hname⟩
  · obtain ⟨r', hr', hid, hns, hvapp, hname⟩ := h.vms r hr
    obtain ⟨r'', hr'', hid', hns', hvapp', hname'⟩ := h'.vms r' hr'
    exact ⟨r'', hr'', hid'.trans hid, hns'.trans hns, hvapp'.trans hvapp, hname'.trans hname⟩

/-- A change of one machine that leaves its keys to it. -/
theorem Keyed.amendVms (h : s.Keyed) (id : Uuid) {f : Vm → Vm} (hf : ∀ r : Vm,
    (f r).id = r.id ∧ (f r).ns = r.ns ∧ (f r).vappId = r.vappId ∧ (f r).vmName = r.vmName) :
    Keyed { s with vms := Table.amend s.vms id f } ∧
      s.Keeps { s with vms := Table.amend s.vms id f } := by
  constructor
  · exact { h with
      vmId := h.vmId.amend fun r => (hf r).1
      vmAt := h.vmAt.amend fun r => Prod.ext (hf r).2.1 (hf r).2.2.2
      vmIn := h.vmIn.amend fun r => Prod.ext (hf r).2.2.1 (hf r).2.2.2 }
  · refine ⟨rfl, rfl, (Keeps.refl s).vapps, fun r hr => ?_⟩
    obtain ⟨r', hr', rfl | rfl⟩ := Table.exists_mem_amend hr
    · exact ⟨_, hr', hf r⟩
    · exact ⟨_, hr', rfl, rfl, rfl, rfl⟩

end Store

/-- An identity that the call would give to a new row is new. -/
def StoreCall.DrawsNew : StoreCall → World → Prop
  | createVApp _, w => w.DrawsNew
  | createVm _, w => w.DrawsNewVm
  | _, _ => True

namespace World

/-- What the store promises of a call. -/
def Honors (w : World) : StoreCall → Prop
  | .createVApp new =>
    let row : VApp := {
      id := w.ids.nextVApp, name := new.name, vdcId := new.vdcId, status := new.status
      description := new.description, createdAt := w.now, updatedAt := w.now }
    performStore w (.createVApp new) =
      if (w.addVApp row).store.Keyed then (.ok row, w.addVApp row)
      else (.error (.alreadyExists ("vapp " ++ new.name ++ " in vdc " ++ new.vdcId.render)), w)
  | .createVm new =>
    let row : Vm := {
      id := w.ids.nextVm, name := new.name, vmName := new.vmName, ns := new.ns
      vappId := new.vappId, status := new.status, cpuCount := none, memory := none
      guestOs := none, createdAt := w.now, updatedAt := w.now }
    performStore w (.createVm new) =
      if (w.addVm row).store.Keyed then (.ok row, w.addVm row)
      else (.error (.alreadyExists ("vm " ++ new.ns ++ "/" ++ new.vmName)), w)
  | .updateVAppStatus id status => ∃ vapps,
    performStore w (.updateVAppStatus id status) =
      (.ok (Table.get? w.store.vapps id).isSome, { w with store := { w.store with vapps } }) ∧
    Table.Amended w.store.vapps vapps id fun a => { a with status, updatedAt := w.now }
  | .updateVmStatus id status => ∃ vms,
    performStore w (.updateVmStatus id status) =
      (.ok (Table.get? w.store.vms id).isSome, { w with store := { w.store with vms } }) ∧
    Table.Amended w.store.vms vms id fun r => { r with status, updatedAt := w.now }
  | .updateVmData id facts => ∃ vms,
    performStore w (.updateVmData id facts) =
      (.ok (Table.get? w.store.vms id).isSome, { w with store := { w.store with vms } }) ∧
    Table.Amended w.store.vms vms id fun r => { r with
      cpuCount := facts.cpuCount <|> r.cpuCount
      memory := facts.memory <|> r.memory
      guestOs := facts.guestOs <|> r.guestOs }
  | .getVAppByName vdcId name => ∃ found,
    performStore w (.getVAppByName vdcId name) = (.ok found, w) ∧
    w.store.vapps.Finds (fun a => a.vdcId == vdcId && a.name == name) found
  | .getVmByVAppAndName vappId vmName => ∃ found,
    performStore w (.getVmByVAppAndName vappId vmName) = (.ok found, w) ∧
    w.store.vms.Finds (fun r => r.vappId == vappId && r.vmName == vmName) found
  | .getVmByNamespaceAndName ns vmName => ∃ found,
    performStore w (.getVmByNamespaceAndName ns vmName) = (.ok found, w) ∧
    w.store.vms.Finds (fun r => r.ns == ns && r.vmName == vmName) found
  | c => ∃ a, performStore w c = (.ok a, w)

/-- A call of the store, at some time, which may bring new identities. -/
inductive Operates : World → World → Prop
  | call (c : StoreCall) (w : World) (ids : IdSource) (now : Timestamp) :
      c.DrawsNew { w with ids, now } → Operates w (performStore { w with ids, now } c).2

variable {w w' : World}

/-! ## Creations -/

theorem keyed_addVApp_iff (h : w.store.Keyed) (hnew : w.DrawsNew) (new : NewVApp) :
    (w.addVApp (Store.vappRow w.ids.nextVApp w.now new)).store.Keyed ↔
      w.store.vapps.any (Store.clashesVApp new) = false := by
  have hrow : Store.vappRow w.ids.nextVApp w.now new ∉ w.store.vapps := fun hmem =>
    hnew _ hmem rfl
  have hname := h.vappName.concat_iff hrow
  rw [List.any_eq_false]
  constructor
  · intro hk a ha hclash
    simp only [Store.clashesVApp, Bool.and_eq_true, beq_iff_eq] at hclash
    exact hname.1 hk.vappName a ha (Prod.ext hclash.1 hclash.2)
  · intro hfree
    refine { h with vappId := h.vappId.concat hnew, vappName := hname.2 fun a ha hkey => ?_ }
    obtain ⟨hvdc, hnamed⟩ := Prod.mk.injEq .. ▸ hkey
    refine hfree a ha ?_
    simp only [Store.clashesVApp, Bool.and_eq_true, beq_iff_eq]
    exact ⟨hvdc, hnamed⟩

theorem keyed_addVm_iff (h : w.store.Keyed) (hnew : w.DrawsNewVm) (new : NewVm) :
    (w.addVm (Store.vmRow w.ids.nextVm w.now new)).store.Keyed ↔
      w.store.vms.any (Store.clashesVm new) = false := by
  have hrow : Store.vmRow w.ids.nextVm w.now new ∉ w.store.vms := fun hmem => hnew _ hmem rfl
  have hat := h.vmAt.concat_iff hrow
  have hin := h.vmIn.concat_iff hrow
  rw [List.any_eq_false]
  constructor
  · -- A row that clashes shares one of the two keys.
    intro hk r hr hclash
    simp only [Store.clashesVm, Bool.and_eq_true, Bool.or_eq_true, beq_iff_eq] at hclash
    obtain ⟨hname, hns | hvapp⟩ := hclash
    · exact hat.1 hk.vmAt r hr (Prod.ext hns hname)
    · exact hin.1 hk.vmIn r hr (Prod.ext hvapp hname)
  · intro hfree
    have hplace : ∀ r ∈ w.store.vms, ¬(r.vmName = new.vmName ∧
        (r.ns = new.ns ∨ r.vappId = new.vappId)) := by
      intro r hr hclash
      refine hfree r hr ?_
      simp only [Store.clashesVm, Bool.and_eq_true, Bool.or_eq_true, beq_iff_eq]
      exact hclash
    refine { h with
      vmId := h.vmId.concat hnew
      vmAt := hat.2 fun r hr hkey => hplace r hr ?_
      vmIn := hin.2 fun r hr hkey => hplace r hr ?_ }
    · exact ⟨congrArg Prod.snd hkey, .inl (congrArg Prod.fst hkey)⟩
    · exact ⟨congrArg Prod.snd hkey, .inr (congrArg Prod.fst hkey)⟩

theorem honors_createVApp (h : w.store.Keyed) (hnew : w.DrawsNew) (new : NewVApp) :
    w.Honors (.createVApp new) := by
  have hiff := keyed_addVApp_iff h hnew new
  cases hclash : w.store.vapps.any (Store.clashesVApp new) with
  | false => exact (perform_createVApp_of_free hnew hclash).trans (if_pos (hiff.2 hclash)).symm
  | true =>
    refine (perform_createVApp_of_clash hclash).trans (if_neg fun hk => ?_).symm
    exact Bool.false_ne_true ((hiff.1 hk).symm.trans hclash)

theorem honors_createVm (h : w.store.Keyed) (hnew : w.DrawsNewVm) (new : NewVm) :
    w.Honors (.createVm new) := by
  have hiff := keyed_addVm_iff h hnew new
  cases hclash : w.store.vms.any (Store.clashesVm new) with
  | false => exact (perform_createVm_of_free hnew hclash).trans (if_pos (hiff.2 hclash)).symm
  | true =>
    refine (perform_createVm_of_clash hclash).trans (if_neg fun hk => ?_).symm
    exact Bool.false_ne_true ((hiff.1 hk).symm.trans hclash)

/-! ## All calls -/

/-- Where no two rows share a key, a call is honoured. -/
theorem honors_of_keyed (h : w.store.Keyed) {c : StoreCall} (hnew : c.DrawsNew w) : w.Honors c := by
  have hpair : ∀ {α β : Type} [BEq α] [LawfulBEq α] [BEq β] [LawfulBEq β] (a a' : α) (b b' : β),
      (a == a' && b == b') = true ↔ (a, b) = (a', b') := by
    intro α β _ _ _ _ a a' b b'
    simp only [Bool.and_eq_true, beq_iff_eq, Prod.mk.injEq]
  cases c with
  | createVApp new => exact honors_createVApp h hnew new
  | createVm new => exact honors_createVm h hnew new
  | updateVAppStatus id status =>
    refine ⟨_, ?_, Table.amended_amend fun _ => rfl⟩
    rw [← Table.has_eq_isSome_get?]
    rfl
  | updateVmStatus id status =>
    refine ⟨_, ?_, Table.amended_amend fun _ => rfl⟩
    rw [← Table.has_eq_isSome_get?]
    rfl
  | updateVmData id facts =>
    refine ⟨_, ?_, Table.amended_amend fun _ => rfl⟩
    rw [← Table.has_eq_isSome_get?]
    rfl
  | getVAppByName vdcId name => exact ⟨_, rfl, h.vappName.finds fun a => hpair _ _ _ _⟩
  | getVmByVAppAndName vappId vmName => exact ⟨_, rfl, h.vmIn.finds fun r => hpair _ _ _ _⟩
  | getVmByNamespaceAndName ns vmName => exact ⟨_, rfl, h.vmAt.finds fun r => hpair _ _ _ _⟩
  | _ => exact ⟨_, rfl⟩

/-- A call makes no two rows share a key, and keeps the rows with their keys. -/
theorem keyed_performStore (h : w.store.Keyed) {c : StoreCall} (hnew : c.DrawsNew w) :
    (performStore w c).2.store.Keyed ∧ w.store.Keeps (performStore w c).2.store := by
  have hhonored := honors_of_keyed h hnew
  cases c with
  | createVApp new =>
    rw [hhonored]
    split
    · rename_i hk
      refine ⟨hk, rfl, rfl, fun a ha => ⟨a, List.mem_append_left _ ha, rfl, rfl, rfl⟩, ?_⟩
      exact (Store.Keeps.refl _).vms
    · exact ⟨h, .refl _⟩
  | createVm new =>
    rw [hhonored]
    split
    · rename_i hk
      refine ⟨hk, rfl, rfl, (Store.Keeps.refl _).vapps, fun r hr => ?_⟩
      exact ⟨r, List.mem_append_left _ hr, rfl, rfl, rfl, rfl⟩
    · exact ⟨h, .refl _⟩
  | updateVAppStatus id status =>
    refine ⟨h.updateVAppStatus w.now id status, rfl, rfl, fun a ha => ?_, (Store.Keeps.refl _).vms⟩
    obtain ⟨a', ha', rfl | rfl⟩ := Table.exists_mem_amend ha
    · exact ⟨_, ha', rfl, rfl, rfl⟩
    · exact ⟨_, ha', rfl, rfl, rfl⟩
  | updateVmStatus id status => exact h.amendVms id fun _ => ⟨rfl, rfl, rfl, rfl⟩
  | updateVmData id facts => exact h.amendVms id fun _ => ⟨rfl, rfl, rfl, rfl⟩
  | _ => exact ⟨h, .refl _⟩

theorem Operates.keyed (hstep : Operates w w') (h : w.store.Keyed) :
    w'.store.Keyed ∧ w.store.Keeps w'.store := by
  cases hstep with
  | call c _ ids now hnew => exact keyed_performStore (w := { w with ids, now }) h hnew

/-- Operations make no two rows share a key, and keep the rows with their keys. -/
theorem keyed_of_operates (h : w.store.Keyed) (hrun : Relation.ReflTransGen Operates w w') :
    w'.store.Keyed ∧ w.store.Keeps w'.store := by
  induction hrun with
  | refl => exact ⟨h, .refl _⟩
  | tail _ hstep ih =>
    obtain ⟨hkeyed, hkeeps⟩ := hstep.keyed ih.1
    exact ⟨hkeyed, ih.2.trans hkeeps⟩

/-- **The store keeps its keys.** Along every sequence of calls, each at its own time and with new
identities for new rows, no two vApps of a virtual datacenter come to share a name, nor two machines
of a namespace or of a vApp; no row goes or gets other keys; and the store does with each call what
it promises. -/
theorem honors_of_operates (h : w.store.Keyed) (hrun : Relation.ReflTransGen Operates w w') :
    w'.store.Keyed ∧ w.store.Keeps w'.store ∧ ∀ (c : StoreCall) (ids : IdSource) (now : Timestamp),
      c.DrawsNew { w' with ids, now } → Honors { w' with ids, now } c := by
  obtain ⟨hkeyed, hkeeps⟩ := keyed_of_operates h hrun
  refine ⟨hkeyed, hkeeps, fun c ids now hnew => ?_⟩
  exact honors_of_keyed (w := { w' with ids, now }) hkeyed hnew

/-- No rows. -/
def bare : World where
  ids := ⟨fun n => .ofNat (10 + n), fun n => .ofNat (20 + n), 0, 0⟩
  now := ⟨0, 0⟩

/-- One vApp. -/
def grouped : World := (performStore bare (.createVApp ⟨"web", .ofNat 1, .instantiating, ""⟩)).2

/-- One vApp with one machine. -/
def peopled : World :=
  (performStore grouped (.createVm ⟨"Web", "web-0", "tenant-a", .ofNat 10, "STARTING"⟩)).2

/-- The row of that machine. -/
def peopledRow : Vm where
  id := .ofNat 20
  name := "Web"
  vmName := "web-0"
  ns := "tenant-a"
  vappId := .ofNat 10
  status := "STARTING"
  cpuCount := none
  memory := none
  guestOs := none
  createdAt := ⟨0, 0⟩
  updatedAt := ⟨0, 0⟩

/-- A machine of the same name is refused in the namespace, also in another vApp; and of the row no
more is changed than is asked for. -/
theorem peopled_honors : Relation.ReflTransGen Operates bare peopled ∧
    bare.store.Keyed ∧ peopled.store.vms = [peopledRow] ∧
    performStore peopled (.createVm ⟨"Web", "web-0", "tenant-a", .ofNat 11, "STARTING"⟩) =
      (.error (.alreadyExists "vm tenant-a/web-0"), peopled) ∧
    ∃ vms, performStore peopled (.updateVmData (.ofNat 20) ⟨some 2, none, none⟩) =
        (.ok true, { peopled with store := { peopled.store with vms } }) ∧
      Table.get? vms (.ofNat 20) = some { peopledRow with cpuCount := some 2 } := by
  have hgrouped : Operates bare grouped :=
    .call _ bare bare.ids bare.now (show bare.DrawsNew by decide)
  have hpeopled : Operates grouped peopled :=
    .call _ grouped grouped.ids grouped.now (show grouped.DrawsNewVm by decide)
  have hrun : Relation.ReflTransGen Operates bare peopled :=
    (Relation.ReflTransGen.single hgrouped).tail hpeopled
  have hkeyed : bare.store.Keyed := by decide
  have hnew : peopled.DrawsNewVm := by decide
  obtain ⟨-, -, hhonored⟩ := honors_of_operates hkeyed hrun
  have hrefused := hhonored (.createVm ⟨"Web", "web-0", "tenant-a", .ofNat 11, "STARTING"⟩)
    peopled.ids peopled.now hnew
  obtain ⟨vms, hupdated, hrow⟩ := hhonored (.updateVmData (.ofNat 20) ⟨some 2, none, none⟩)
    peopled.ids peopled.now trivial
  refine ⟨hrun, hkeyed, by decide, hrefused.trans (if_neg (by decide)), vms, hupdated, ?_⟩
  rw [hrow.row]
  decide

end World

end TenantCloud
