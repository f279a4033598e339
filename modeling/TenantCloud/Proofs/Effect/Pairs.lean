import TenantCloud.Proofs.Effect.Calm

/-!
# Two runs side by side

Two worlds that differ in the faults of calls with certain names alone are `World.Paired`. They
answer every other call alike, so that an attempt without calls of these names does the same in both
(`World.Paired.run`). A call with one of the names may end in one way here and in another there; the
worlds then stay paired as far as a success leaves the rows alike (`World.Paired.run_apart`).
-/

set_option autoImplicit false

namespace TenantCloud

/-! ## Passes -/

/-- Two runs end with the same value, do the same, and leave related states. -/
structure Ran.Matches {σ α : Type} (R : σ → σ → Prop) (r r' : Ran σ α) : Prop where
  value : r.value = r'.value
  trace : r.trace = r'.trace
  state : R r.state r'.state

/-- Two runs leave related states, and what they do is the same as far as `p` sees it. -/
structure Ran.MatchesOn {σ α : Type} (R : σ → σ → Prop) (p : Entry → Bool) (r r' : Ran σ α) :
    Prop where
  trace : r.trace.filter p = r'.trace.filter p
  state : R r.state r'.state

/-- Where related states tell the same time and answer the calls of a pass alike, its runs match. -/
theorem Pass.Makes.matches {σ α : Type} {P : Call → Prop} {R : σ → σ → Prop} {h : Handler σ}
    {p : Pass α} (hmakes : p.Makes P) (hnow : ∀ s s', R s s' → h.now s = h.now s')
    (hanswer : ∀ c s s', P c → R s s' →
      (h.answer c s).1 = (h.answer c s').1 ∧ R (h.answer c s).2 (h.answer c s').2)
    {s s' : σ} (hs : R s s') : (p.run h s).Matches R (p.run h s') := by
  induction p generalizing s s' with
  | done a => exact ⟨rfl, rfl, hs⟩
  | ask c next ih =>
    obtain ⟨hvalue, hstate⟩ := hanswer c s s' hmakes.1 hs
    have hrest := ih (h.answer c s).1 (hmakes.2 _) hstate
    rw [run_ask, run_ask, ← hvalue]
    exact ⟨hrest.value, congrArg (Entry.call c :: ·) hrest.trace, hrest.state⟩
  | tell signal next ih =>
    have hrest := ih hmakes hs
    exact ⟨hrest.value, congrArg (Entry.signal signal :: ·) hrest.trace, hrest.state⟩
  | clock next ih =>
    rw [run_clock, run_clock, ← hnow s s' hs]
    exact ih _ (hmakes _) hs

/-! ## Faults -/

namespace Fault

variable {names : List String} {name other : String} {F F' : List Fault}

theorem decide_of_skipped {f : Fault} (h : (f.callName == name && f.isActive) = false) :
    decide name (f :: F) = ((decide name F).1, f :: (decide name F).2) := by
  rw [decide, if_neg (by rw [h]; exact Bool.false_ne_true)]

/-- A fault that acts, or lets a call through, comes first from then on. -/
theorem decide_of_active {f : Fault} (h : (f.callName == name && f.isActive) = true) :
    ∃ action f', f'.callName = f.callName ∧ ∀ F, decide name (f :: F) = (action, f' :: F) := by
  obtain ⟨callName, skip, times, action⟩ := f
  cases skip with
  | zero => exact ⟨some action, ⟨callName, 0, times.map (· - 1), action⟩, rfl, fun F => if_pos h⟩
  | succ k => exact ⟨none, ⟨callName, k, times, action⟩, rfl, fun F => if_pos h⟩

/-- Only the faults of the calls with a name decide about such a call. -/
theorem decide_filter (name : String) (F : List Fault) :
    decide name (F.filter (·.callName == name)) =
      ((decide name F).1, (decide name F).2.filter (·.callName == name)) := by
  induction F with
  | nil => rfl
  | cons f F ih =>
    cases hname : f.callName == name with
    | false =>
      rw [List.filter_cons_of_neg (by simp [hname]), ih, decide_of_skipped (by rw [hname]; rfl),
        List.filter_cons_of_neg (by simp [hname])]
    | true =>
      rw [List.filter_cons_of_pos (by simp [hname])]
      cases hactive : f.callName == name && f.isActive with
      | false =>
        rw [decide_of_skipped hactive, decide_of_skipped hactive, ih,
          List.filter_cons_of_pos (by simp [hname])]
      | true =>
        obtain ⟨action, f', hsame, hdecide⟩ := decide_of_active hactive
        rw [hdecide, hdecide, List.filter_cons_of_pos (by simp [hsame, hname])]

/-- The faults of other calls are left as they are. -/
theorem filter_decide (h : other ≠ name) (F : List Fault) :
    (decide name F).2.filter (·.callName == other) = F.filter (·.callName == other) := by
  induction F with
  | nil => rfl
  | cons f F ih =>
    cases hactive : f.callName == name && f.isActive with
    | false => rw [decide_of_skipped hactive, List.filter_cons, List.filter_cons, ih]
    | true =>
      obtain ⟨action, f', hsame, hdecide⟩ := decide_of_active hactive
      have hname : f.callName = name := beq_iff_eq.1 (Bool.and_eq_true_iff.1 hactive).1
      rw [hdecide, List.filter_cons_of_neg (by simp [hsame, hname, h.symm]),
        List.filter_cons_of_neg (by simp [hname, h.symm])]

/-- The faults of all calls but those with one of these names are the same. -/
def AgreeBut (names : List String) (F F' : List Fault) : Prop :=
  ∀ name ∉ names, F.filter (·.callName == name) = F'.filter (·.callName == name)

theorem AgreeBut.of_names (h : ∀ f ∈ F, f.callName ∈ names) (h' : ∀ f ∈ F', f.callName ∈ names) :
    AgreeBut names F F' := by
  have hnil : ∀ F : List Fault, (∀ f ∈ F, f.callName ∈ names) → ∀ name ∉ names,
      F.filter (·.callName == name) = [] := fun F hF name hname =>
    List.filter_eq_nil_iff.2 fun f hf he => hname (beq_iff_eq.1 he ▸ hF f hf)
  intro name hname
  rw [hnil F h name hname, hnil F' h' name hname]

theorem AgreeBut.symm (h : AgreeBut names F F') : AgreeBut names F' F :=
  fun name hname => (h name hname).symm

/-- The same happens to a call with another name. -/
theorem AgreeBut.decide (h : AgreeBut names F F') (hname : name ∉ names) :
    (decide name F).1 = (decide name F').1 ∧
      AgreeBut names (decide name F).2 (decide name F').2 := by
  have hfilter : Fault.decide name (F.filter (·.callName == name)) =
      Fault.decide name (F'.filter (·.callName == name)) := by rw [h name hname]
  rw [decide_filter, decide_filter] at hfilter
  obtain ⟨haction, hsame⟩ := Prod.mk.inj hfilter
  refine ⟨haction, fun other hother => ?_⟩
  by_cases he : other = name
  · rw [he]
    exact hsame
  · rw [filter_decide he, filter_decide he]
    exact h other hother

theorem AgreeBut.decide_left (h : AgreeBut names F F') (hname : name ∈ names) :
    AgreeBut names (Fault.decide name F).2 F' := by
  intro other hother
  have hne : other ≠ name := fun he => hother (he ▸ hname)
  rw [filter_decide hne]
  exact h other hother

end Fault

/-! ## Worlds -/

namespace World

variable {names : List String} {S S' : Store → Store → Prop} {w w' : World} {c : Call}

/-- All is the same in both worlds but the faults of calls with one of these names, and the stores,
which are related. -/
structure Paired (names : List String) (S : Store → Store → Prop) (w w' : World) : Prop where
  store : S w.store w'.store
  cluster : w.cluster = w'.cluster
  ids : w.ids = w'.ids
  now : w.now = w'.now
  faults : Fault.AgreeBut names w.faults w'.faults

theorem Paired.of_faults {F : List Fault} (h : Fault.AgreeBut names w.faults F) :
    Paired names Eq w { w with faults := F } := ⟨rfl, rfl, rfl, rfl, h⟩

theorem Paired.mono (h : Paired names S w w') (hS : ∀ s s', S s s' → S' s s') :
    Paired names S' w w' := ⟨hS _ _ h.store, h.cluster, h.ids, h.now, h.faults⟩

theorem Paired.symm (h : Paired names S w w') (hS : ∀ s s', S s s' → S s' s) :
    Paired names S w' w :=
  ⟨hS _ _ h.store, h.cluster.symm, h.ids.symm, h.now.symm, h.faults.symm⟩

/-- The two worlds answer a call alike, and are alike afterwards. -/
def AnswerAlike (names : List String) (S : Store → Store → Prop)
    (answer : (c : Call) → World → Result c.Answer × World) (c : Call) : Prop :=
  ∀ w w', Paired names S w w' → (answer c w).1 = (answer c w').1 ∧
    Paired names S (answer c w).2 (answer c w').2

/-- The faults have no part in what the store and the cluster answer. -/
theorem perform_faults (c : Call) (w : World) (F : List Fault) :
    perform c { w with faults := F } =
      ((perform c w).1, { (perform c w).2 with faults := F }) := by
  have hchange : ∀ r, { w with faults := F }.changeCluster r =
      ((w.changeCluster r).1, { (w.changeCluster r).2 with faults := F }) := by
    rintro (e | cluster) <;> rfl
  cases c with
  | cluster c => cases c <;> first | exact hchange _ | rfl
  | store c =>
    cases c with
    | createVApp new =>
      simp only [perform, performStore]
      split <;> rfl
    | createVm new =>
      simp only [perform, performStore]
      split <;> rfl
    | _ => rfl

theorem perform_alike (names : List String) (c : Call) : AnswerAlike names Eq perform c := by
  rintro w ⟨store', cluster', ids', faults', now'⟩ h
  obtain ⟨rfl, rfl, rfl, rfl, hfaults⟩ := h
  show (perform c w).1 = (perform c { w with faults := faults' }).1 ∧
    Paired names Eq (perform c w).2 (perform c { w with faults := faults' }).2
  rw [perform_faults c w faults']
  refine ⟨rfl, rfl, rfl, rfl, rfl, ?_⟩
  rw [faults_perform]
  exact hfaults

/-- Faults that agree treat a call alike. -/
theorem answer_alike (hname : c.name ∉ names) (h : AnswerAlike names S perform c) :
    AnswerAlike names S answer c := by
  intro w w' hw
  have hdecide := hw.faults.decide hname
  unfold answer
  generalize Fault.decide c.name w.faults = d at hdecide ⊢
  generalize Fault.decide c.name w'.faults = d' at hdecide ⊢
  obtain ⟨action, faults⟩ := d
  obtain ⟨action', faults'⟩ := d'
  obtain ⟨rfl, hfaults⟩ := hdecide
  have hrest : Paired names S { w with faults } { w' with faults := faults' } :=
    ⟨hw.store, hw.cluster, hw.ids, hw.now, hfaults⟩
  cases action with
  | none => exact h _ _ hrest
  | some action =>
    cases action with
    | fail e => exact ⟨rfl, hrest⟩
    | miss =>
      dsimp only
      split
      · exact ⟨rfl, hrest⟩
      · exact h _ _ hrest

/-- However a call with one of the names ends, the worlds stay alike where it may succeed. -/
theorem Paired.answer_left (h : Paired names S w w') (hname : c.name ∈ names)
    (hperform : ∀ w, Paired names S w w' → Paired names S (perform c w).2 w') :
    Paired names S (answer c w).2 w' := by
  have hrest : Paired names S { w with faults := (Fault.decide c.name w.faults).2 } w' :=
    ⟨h.store, h.cluster, h.ids, h.now, h.faults.decide_left hname⟩
  unfold answer
  dsimp only
  split
  · exact hrest
  · split
    · exact hrest
    · exact hperform _ hrest
  · exact hperform _ hrest

/-! ## Runs -/

variable {α β : Type} {a : Attempt α} {f : α → Attempt β} {P : Call → Prop} {p : Entry → Bool}

/-- An attempt without calls that may be answered differently does the same in both worlds. -/
theorem Paired.run (h : Paired names S w w') (hmakes : a.Makes P)
    (hP : ∀ c, P c → c.name ∉ names ∧ AnswerAlike names S perform c) :
    (w.run a).Matches (Paired names S) (w'.run a) :=
  Pass.Makes.matches hmakes (fun _ _ h => h.now)
    (fun c w w' hc hw => answer_alike (hP c hc).1 (hP c hc).2 w w' hw) h

/-- An attempt whose calls all have one of the names leaves the worlds alike. -/
theorem Paired.run_apart (h : Paired names S w w') (hS : ∀ s s', S s s' → S s' s)
    (hmakes : a.Makes P) (hP : ∀ c, P c → c.name ∈ names ∧
      ∀ w w', Paired names S w w' → Paired names S (perform c w).2 w') :
    Paired names S (w.run a).state (w'.run a).state := by
  have hleft : ∀ {w w'}, Paired names S w w' → Paired names S (w.run a).state w' := fun {_ w'} h =>
    Pass.Makes.keeps (I := (Paired names S · w')) hmakes
      (fun c _ hc hw => hw.answer_left (hP c hc).1 fun w hw => (hP c hc).2 w w' hw) h
  exact (hleft ((hleft h).symm hS)).symm hS

/-- After attempts that match, others go on. -/
theorem matchesOn_bind (ha : (w.run a).Matches (Paired names S) (w'.run a))
    (hS : ∀ s s', S s s' → S' s s')
    (hf : ∀ v,
      ((w.run a).state.run (f v)).MatchesOn (Paired names S') p ((w'.run a).state.run (f v))) :
    (w.run (a >>= f)).MatchesOn (Paired names S') p (w'.run (a >>= f)) := by
  rw [run_bind, run_bind, ← ha.value, ← ha.trace]
  cases (w.run a).value with
  | ok v =>
    obtain ⟨htrace, hstate⟩ := hf v
    refine ⟨?_, hstate⟩
    rw [List.filter_append, List.filter_append, htrace]
  | error e => exact ⟨rfl, ha.state.mono hS⟩

end World

end TenantCloud
