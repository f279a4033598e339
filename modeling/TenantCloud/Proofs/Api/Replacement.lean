import TenantCloud.Proofs.Api.Traffic

/-!
# Replacing the hard limits of a quota

A `QuotaOrder` asks for exactly some hard limits of a quota, and its exchange is that of
`replaceHard`: a look at the quota, then a replacement under the version which the look found.

`Phase` says how far the exchange of an order may have come, and what its turns did. It is kept by
whatever others do (`Phase.edited`) and by each turn of the order itself (`Phase.turn`), so it
holds along every run (`Standing.of_runs`). Thereby a replacement that goes through finds the quota
just as it was when the order looked, and changes nothing but the limits and the version.
-/

set_option autoImplicit false

namespace TenantCloud.Api

/-! ## Where the requests go -/

namespace Target

variable {text path : String} {query : List (String × String)} {t t' : Target}

theorem path_ofText? (h : ofText? text = some t) :
    t.path = String.ofList ((text.toList.takeWhile (· ≠ '#')).takeWhile (· ≠ '?')) := by
  simp only [ofText?] at h
  split at h
  · cases h
    rfl
  · cases h

/-- A path ends at a question mark, whatever stands behind it. -/
theorem takeWhile_append_mark (cs rest : List Char) :
    ((cs ++ '?' :: rest).takeWhile (· ≠ '#')).takeWhile (· ≠ '?') =
      (cs.takeWhile (· ≠ '#')).takeWhile (· ≠ '?') := by
  induction cs with
  | nil => simp
  | cons c cs ih =>
    by_cases hend : c = '#'
    · simp [hend]
    by_cases hmark : c = '?'
    · simp [hmark]
    simpa [hend, hmark] using ih

/-- Parameters do not change the path. -/
theorem path_ofPath? (h : ofPath? path query = some t) (h' : ofText? path = some t') :
    t.path = t'.path := by
  rw [path_ofText? h, path_ofText? h', queryText, String.toList_append, String.toList_append]
  exact congrArg String.ofList (takeWhile_append_mark _ _)

end Target

/-! ## The turns of an order -/

namespace Turn

/-- The turn finds a quota at a path, and leaves everything as it is. -/
structure Finds (t : Turn) (path : String) (q : ResourceQuota) : Prop where
  found : t.before.quotas path = some q
  unchanged : t.after = t.before

/-- The turn changes a quota at a path: to exactly these hard limits, under some version, with all
else of it as it was. -/
structure Replaces (t : Turn) (path : String) (q : ResourceQuota) (hard : Dict String String) :
    Prop where
  found : t.before.quotas path = some q
  changed : ∃ version, t.after.quotas = Function.update t.before.quotas path (some { q with
    metadata := { q.metadata with resourceVersion := some version }
    spec := some { q.spec.getD {} with hard := some hard } })

end Turn

/-- An order for exactly these hard limits of a quota. -/
structure QuotaOrder where
  ns : String
  name : String
  hard : Dict String String

namespace QuotaOrder

/-- The exchange that carries out the order. -/
def exchange (o : QuotaOrder) : Exchange (Result Unit) := (replaceHard o.ns o.name o.hard).run

/-- What is left of the exchange once it has seen the quota. -/
def writing (o : QuotaOrder) (q : ResourceQuota) : Exchange (Result Unit) :=
  (replace .resourceQuotas (some o.ns) o.name Vocabulary.fieldManager (q.setHard o.hard)).run

/-- The request that looks at the quota. -/
def look? (o : QuotaOrder) : Option Request := Request.get? .resourceQuotas (some o.ns) o.name

/-- The request that writes the quota that was seen. -/
def write? (o : QuotaOrder) (q : ResourceQuota) : Option Request :=
  Request.replace? .resourceQuotas (some o.ns) o.name Vocabulary.fieldManager
    (Wire.write (q.setHard o.hard))

/-- The path of the quota. -/
def path? (o : QuotaOrder) : Option String := o.look?.map (·.target.path)

/-- The quota that an answer holds. -/
def answered : Option Reply → Result ResourceQuota
  | some reply => reply.object ResourceQuota
  | none => .error (.unreachable "connection failed")

variable {o : QuotaOrder} {q : ResourceQuota} {path : String} {r : Request}
  {next : Option Reply → Exchange (Result Unit)}

theorem exchange_eq (o : QuotaOrder) : o.exchange = match o.look? with
    | none => .done (.error (.unreachable "no such target"))
    | some r => .send r fun answer => match answered answer with
      | .error e => .done (.error e)
      | .ok q => o.writing q := by
  show (ExceptT.bind (Action.send o.look? (Reply.object ResourceQuota)) _).run = _
  cases o.look? with
  | none => rfl
  | some r =>
    refine congrArg (Exchange.send r) (funext fun answer => ?_)
    cases answer with
    | none => rfl
    | some reply =>
      show Exchange.bind (.done (answered (some reply))) _ = _
      cases answered (some reply) <;> rfl

theorem writing_eq (o : QuotaOrder) (q : ResourceQuota) : o.writing q = match o.write? q with
    | none => .done (.error (.unreachable "no such target"))
    | some r => .send r fun answer => .done ((answered answer).map fun _ => ()) := by
  show (Action.send (o.write? q) _).run = _
  cases o.write? q with
  | none => rfl
  | some r =>
    refine congrArg (Exchange.send r) (funext fun answer => ?_)
    cases answer <;> rfl

theorem of_exchange (h : o.exchange = .send r next) : o.look? = some r ∧
    next = fun answer => match answered answer with
      | .error e => .done (.error e)
      | .ok q => o.writing q := by
  rw [exchange_eq] at h
  cases hlook : o.look? with
  | none => simp [hlook] at h
  | some r' =>
    rw [hlook] at h
    cases h
    exact ⟨rfl, rfl⟩

theorem of_writing (h : o.writing q = .send r next) : o.write? q = some r ∧
    next = fun answer => .done ((answered answer).map fun _ => ()) := by
  rw [writing_eq] at h
  cases hwrite : o.write? q with
  | none => simp [hwrite] at h
  | some r' =>
    rw [hwrite] at h
    cases h
    exact ⟨rfl, rfl⟩

theorem answered_of_refused {reply : Reply} (h : ∀ q, reply.object ResourceQuota ≠ .ok q) :
    ∃ e, answered (some reply) = .error e := by
  cases hanswered : reply.object ResourceQuota with
  | ok q => exact absurd hanswered (h q)
  | error e => exact ⟨e, hanswered⟩

theorem exchange_ne_ok (o : QuotaOrder) : o.exchange ≠ .done (.ok ()) := by
  rw [exchange_eq]
  cases o.look? <;> nofun

theorem writing_ne_ok (o : QuotaOrder) (q : ResourceQuota) : o.writing q ≠ .done (.ok ()) := by
  rw [writing_eq]
  cases o.write? q <;> nofun

theorem of_look? (h : o.look? = some r) :
    r.method = .get ∧ r.body = none ∧ o.path? = some r.target.path ∧
      Target.ofText? (Collection.resourceQuotas.objectPath (some o.ns) o.name) = some r.target := by
  have hpath : o.path? = some r.target.path := by rw [path?, h]; rfl
  obtain ⟨-, -, h⟩ := Option.bind_eq_some_iff.1 h
  obtain ⟨target, htarget, ⟨⟩⟩ := Option.bind_eq_some_iff.1 h
  exact ⟨rfl, rfl, hpath, htarget⟩

/-- The request tells all of the quota, and goes where the look went. -/
theorem of_write? (h : o.write? q = some r) (hpath : o.path? = some path) (hkept : Wire.Kept q) :
    r.method = .put ∧ r.body.bind Wire.read? = some (q.setHard o.hard) ∧
      r.target.path = path := by
  obtain ⟨look, hlook, rfl⟩ := Option.map_eq_some_iff.1 hpath
  obtain ⟨-, -, -, htext⟩ := of_look? hlook
  obtain ⟨target, htarget, ⟨⟩⟩ := Option.bind_eq_some_iff.1 h
  refine ⟨rfl, ResourceQuota.kept_setHard hkept o.hard, ?_⟩
  rw [Request.objectTarget?] at htarget
  split at htarget
  · cases htarget
  · exact Target.path_ofPath? htarget htext

end QuotaOrder

/-! ## How far an order has come -/

open QuotaServer QuotaOrder

/-- The turns of an order, and what is left of its exchange while the server is as it is. -/
inductive Phase (o : QuotaOrder) (s : QuotaServer) : List Turn → Exchange (Result Unit) → Prop
  | start : Phase o s [] o.exchange
  /-- Nothing was done. -/
  | failed {ts : List Turn} {e : Error} (h : ∀ t ∈ ts, t.after = t.before) :
    Phase o s ts (.done (.error e))
  /-- The quota was seen, and its version still tells whether it is as it was. -/
  | seen {path version : String} {q : ResourceQuota} {look : Turn} (hpath : o.path? = some path)
    (hfinds : look.Finds path q) (hkept : Wire.Kept q) (hne : version ≠ "")
    (hversion : q.metadata.resourceVersion = some version) (hsince : Since path q version s) :
    Phase o s [look] (o.writing q)
  | changed {path : String} {q : ResourceQuota} {look change : Turn} (hpath : o.path? = some path)
    (hfinds : look.Finds path q) (hreplaces : change.Replaces path q o.hard) :
    Phase o s [look, change] (.done (.ok ()))
  /-- The quota was changed, and the answer got lost. -/
  | unheard {path : String} {q : ResourceQuota} {look change : Turn} {e : Error}
    (hpath : o.path? = some path) (hfinds : look.Finds path q)
    (hreplaces : change.Replaces path q o.hard) (hanswer : change.answer = none) :
    Phase o s [look, change] (.done (.error e))

variable {o : QuotaOrder} {s s' : QuotaServer} {ts : List Turn} {e : Exchange (Result Unit)}
  {r : Request} {next : Option Reply → Exchange (Result Unit)} {answer : Option Reply}
  {path version : String} {q old : ResourceQuota} {hard : Dict String String} {i : Nat}

theorem Phase.edited (h : Phase o s ts e) (hedited : s.Edited s') : Phase o s' ts e := by
  cases h with
  | start => exact .start
  | failed h => exact .failed h
  | seen hpath hfinds hkept hne hversion hsince =>
    exact .seen hpath hfinds hkept hne hversion (hedited.since hsince)
  | changed hpath hfinds hreplaces => exact .changed hpath hfinds hreplaces
  | unheard hpath hfinds hreplaces hanswer => exact .unheard hpath hfinds hreplaces hanswer

/-- A replacement that carries the version of a quota goes through only where that quota is. -/
theorem eq_of_admits (hsince : Since path q version s) (hne : version ≠ "")
    (hversion : q.metadata.resourceVersion = some version) (hold : s.quotas path = some old)
    (hadmits : Admits old (q.setHard hard)) : old = q := by
  have hadmits : q.metadata.resourceVersion = none ∨ q.metadata.resourceVersion = some "" ∨
    q.metadata.resourceVersion = old.metadata.resourceVersion := hadmits
  rw [hversion] at hadmits
  rcases hadmits with hnone | hempty | hsame
  · cases hnone
  · cases hempty
    exact absurd rfl hne
  · exact hsince.same old hold hsame.symm

theorem replaces_of_stores (i : Nat) (answer : Option Reply) (hq : s.quotas path = some q)
    (hversion : q.metadata.resourceVersion = some version)
    (hstores : s.Stores path (q.setHard hard) s') :
    (Turn.mk i answer s s').Replaces path q hard := by
  refine ⟨hq, ?_⟩
  cases hstores with
  | @fresh version' _ => exact ⟨version', rfl⟩
  | same hsame =>
    -- The quota had these limits already, and keeps its version.
    refine ⟨version, ?_⟩
    have hversion : (q.setHard hard).metadata.resourceVersion = some version := hversion
    show s.quotas = Function.update s.quotas path (some ((q.setHard hard).versioned version))
    rw [ResourceQuota.versioned_self hversion, ← hsame, Function.update_eq_self]

/-- A turn of an order is an edit, and takes the order on. -/
theorem Phase.turn (h : Phase o s ts e) (he : e = .send r next) (hs : s.Sound)
    (hserves : s.Serves r answer s') :
    s.Edited s' ∧ Phase o s' (ts ++ [⟨i, answer, s, s'⟩]) (next answer) := by
  cases h with
  | failed _ => cases he
  | changed _ _ _ => cases he
  | unheard _ _ _ _ => cases he
  | start =>
    obtain ⟨hlook, rfl⟩ := of_exchange he
    obtain ⟨hget, hbody, hpath, -⟩ := of_look? hlook
    refine ⟨hserves.edited (by simp [hbody]), ?_⟩
    cases hserves with
    | lost => exact .failed (by simp)
    | @refused reply hrefused =>
      obtain ⟨e, hanswered⟩ := answered_of_refused hrefused
      simp only [hanswered]
      exact .failed (by simp)
    | @found reply q _ hq hanswered =>
      obtain ⟨version, hne, hversion, hsince⟩ := hs.since hq
      simp only [answered, hanswered]
      exact .seen hpath ⟨hq, rfl⟩ (hs.kept _ q hq) hne hversion hsince
    | replaced hput _ _ _ _ _ => simp [hget] at hput
  | @seen path version q look hpath hfinds hkept hne hversion hsince =>
    obtain ⟨hwrite, rfl⟩ := of_writing he
    obtain ⟨hput, hread, rfl⟩ := of_write? hwrite hpath hkept
    refine ⟨hserves.edited ?_, ?_⟩
    · intro new hnew
      cases hread.symm.trans hnew
      exact ResourceQuota.kept_setHard hkept o.hard
    cases hserves with
    | lost => exact .failed (by simp [hfinds.unchanged])
    | @refused reply hrefused =>
      obtain ⟨e, hanswered⟩ := answered_of_refused hrefused
      simp only [hanswered]
      exact .failed (by simp [hfinds.unchanged])
    | found hget _ _ => simp [hput] at hget
    | @replaced _ old new _ _ hnew hold hadmits hstores hanswer =>
      cases hread.symm.trans hnew
      cases eq_of_admits hsince hne hversion hold hadmits
      have hreplaces := replaces_of_stores i answer hold hversion hstores
      cases answer with
      | none => exact .unheard hpath hfinds hreplaces rfl
      | some reply =>
        obtain ⟨_, -, hanswered⟩ := hanswer reply rfl
        simp only [answered, hanswered]
        exact .changed hpath hfinds hreplaces

theorem Phase.of_ok (h : Phase o s ts e) (he : e = .done (.ok ())) :
    ∃ path q look change, o.path? = some path ∧ ts = [look, change] ∧ look.Finds path q ∧
      change.Replaces path q o.hard := by
  cases h with
  | start => exact absurd he (exchange_ne_ok o)
  | failed _ => cases he
  | seen _ _ _ _ _ _ => exact absurd he (writing_ne_ok o _)
  | changed hpath hfinds hreplaces => exact ⟨_, _, _, _, hpath, rfl, hfinds, hreplaces⟩
  | unheard _ _ _ _ => cases he

theorem Phase.of_error {err : Error} (h : Phase o s ts e) (he : e = .done (.error err))
    (hanswers : ∀ t ∈ ts, t.answer ≠ none) : ∀ t ∈ ts, t.after = t.before := by
  cases h with
  | start => simp
  | failed h => exact h
  | seen _ hfinds _ _ _ _ => simp [hfinds.unchanged]
  | changed _ _ _ => cases he
  | unheard _ _ _ hanswer => exact absurd hanswer (hanswers _ (by simp))

theorem Phase.turns (h : Phase o s ts e) : ∀ t ∈ ts, t.after = t.before ∨
    ∃ path q look, o.path? = some path ∧ ts = [look, t] ∧ look.Finds path q ∧
      t.Replaces path q o.hard := by
  have hpair : ∀ {path q} {look change : Turn}, o.path? = some path → look.Finds path q →
      change.Replaces path q o.hard → ∀ t ∈ [look, change], t.after = t.before ∨
        ∃ path q look', o.path? = some path ∧ [look, change] = [look', t] ∧ look'.Finds path q ∧
          t.Replaces path q o.hard := by
    intro path q look change hpath hfinds hreplaces t ht
    rcases List.mem_pair.1 ht with rfl | rfl
    · exact .inl hfinds.unchanged
    · exact .inr ⟨path, q, look, hpath, rfl, hfinds, hreplaces⟩
  cases h with
  | start => simp
  | failed h => exact fun t ht => .inl (h t ht)
  | seen _ hfinds _ _ _ _ => simp [hfinds.unchanged]
  | changed hpath hfinds hreplaces => exact hpair hpath hfinds hreplaces
  | unheard hpath hfinds hreplaces _ => exact hpair hpath hfinds hreplaces

/-! ## What an order may meet with -/

theorem Reply.object_of_success {reply : Reply} (hsuccess : reply.isRefusal = false)
    (hread : (Json.outline? reply.body).bind Wire.read? = some q) :
    reply.object ResourceQuota = .ok q := by
  have hchecked : reply.checked = .ok reply.body := by
    rw [Reply.checked, hsuccess]
    rfl
  simp only [Reply.object, Reply.readWith, hchecked, bind, Except.bind, hread]
  rfl

theorem Reply.object_of_refusal {reply : Reply} (hrefusal : reply.isRefusal = true) :
    reply.object ResourceQuota = .error (.api reply.failure) := by
  have hchecked : reply.checked = .error (.api reply.failure) := by
    rw [Reply.checked, hrefusal]
    rfl
  simp only [Reply.object, Reply.readWith, hchecked]
  rfl

namespace Traffic.Runs

variable {start t : Traffic} {reply : Reply}

theorem looks (hruns : Runs start ts t) (hcall : t.calls[i]? = some o.exchange)
    (hpath : o.path? = some path) (hq : t.server.quotas path = some q)
    (hreply : reply.object ResourceQuota = .ok q) :
    Runs start (ts ++ [⟨i, some reply, t.server, t.server⟩])
      ⟨t.server, t.calls.set i (o.writing q)⟩ := by
  obtain ⟨r, hlook, rfl⟩ := Option.map_eq_some_iff.1 hpath
  have hserves : t.server.Serves r (some reply) t.server := .found (of_look? hlook).1 hq hreply
  rw [exchange_eq, hlook] at hcall
  simpa [answered, hreply] using hruns.turn hcall hserves

/-- Where nobody has been in between, an order goes through. -/
theorem writes (hruns : Runs start ts t) (hcall : t.calls[i]? = some (o.writing q))
    (hpath : o.path? = some path) (hwrite : (o.write? q).isSome) (hkept : Wire.Kept q)
    (hq : t.server.quotas path = some q) (hfresh : t.server.Fresh version)
    (hreply : reply.object ResourceQuota = .ok ((q.setHard o.hard).versioned version)) :
    Runs start
      (ts ++ [⟨i, some reply, t.server, t.server.store path (q.setHard o.hard) version⟩])
      ⟨t.server.store path (q.setHard o.hard) version, t.calls.set i (.done (.ok ()))⟩ := by
  obtain ⟨r, hwrite⟩ := Option.isSome_iff_exists.1 hwrite
  obtain ⟨hput, hread, rfl⟩ := of_write? hwrite hpath hkept
  have hserves : t.server.Serves r (some reply)
      (t.server.store r.target.path (q.setHard o.hard) version) := by
    refine .replaced hput hread hq (.inr (.inr rfl)) (.fresh hfresh) ?_
    rintro _ ⟨⟩
    exact ⟨_, by simp [quotas_store], hreply⟩
  rw [writing_eq, hwrite] at hcall
  simpa [answered, hreply, Except.map] using hruns.turn hcall hserves

theorem refuses (hruns : Runs start ts t) (hcall : t.calls[i]? = some (o.writing q))
    (hwrite : (o.write? q).isSome) (hrefusal : reply.isRefusal = true) :
    Runs start (ts ++ [⟨i, some reply, t.server, t.server⟩])
      ⟨t.server, t.calls.set i (.done (.error (.api reply.failure)))⟩ := by
  obtain ⟨r, hwrite⟩ := Option.isSome_iff_exists.1 hwrite
  have hreply := Reply.object_of_refusal hrefusal
  have hserves : t.server.Serves r (some reply) t.server := .refused (by simp [hreply])
  rw [writing_eq, hwrite] at hcall
  simpa [answered, hreply, Except.map] using hruns.turn hcall hserves

/-- Two orders look at one quota, the second one goes through, and the first one is refused. -/
theorem overtakes {o' : QuotaOrder} {looked written refusal : Reply}
    (hpath : o.path? = some path) (hpath' : o'.path? = some path) (hwrite : (o.write? q).isSome)
    (hwrite' : (o'.write? q).isSome) (hkept : Wire.Kept q) (hq : s.quotas path = some q)
    (hfresh : s.Fresh version) (hlooked : looked.object ResourceQuota = .ok q)
    (hwritten : written.object ResourceQuota = .ok ((q.setHard o'.hard).versioned version))
    (hrefusal : refusal.isRefusal = true) :
    let s' := s.store path (q.setHard o'.hard) version
    Runs ⟨s, [o, o'].map (·.exchange)⟩
      [⟨0, some looked, s, s⟩, ⟨1, some looked, s, s⟩, ⟨1, some written, s, s'⟩,
        ⟨0, some refusal, s', s'⟩]
      ⟨s', [.done (.error (.api refusal.failure)), .done (.ok ())]⟩ := by
  intro s'
  have hfirst := (@refl ⟨s, [o, o'].map (·.exchange)⟩).looks (i := 0) rfl hpath hq hlooked
  have hsecond := hfirst.looks (i := 1) rfl hpath' hq hlooked
  have hchange := hsecond.writes (i := 1) rfl hpath' hwrite' hkept hq hfresh hwritten
  exact hchange.refuses (i := 0) rfl hwrite hrefusal

end Traffic.Runs

/-! ## Orders side by side -/

/-- Where the exchanges of some orders stand. -/
structure Standing (orders : List QuotaOrder) (ts : List Turn) (t : Traffic) : Prop where
  sound : t.server.Sound
  length : t.calls.length = orders.length
  phase : ∀ (i : Nat) (o : QuotaOrder) (e : Exchange (Result Unit)), orders[i]? = some o →
    t.calls[i]? = some e → Phase o t.server (Traffic.turnsOf i ts) e

theorem Standing.of_runs {orders : List QuotaOrder} {server : QuotaServer} {t : Traffic}
    (hsound : server.Sound) (hruns : Traffic.Runs ⟨server, orders.map (·.exchange)⟩ ts t) :
    Standing orders ts t := by
  induction hruns with
  | refl =>
    refine ⟨hsound, List.length_map _, ?_⟩
    intro i o e ho he
    obtain rfl : o.exchange = e := by simpa [ho] using he
    exact .start
  | @turn ts t i r next answer s _ hcall hserves ih =>
    obtain ⟨o, ho⟩ : ∃ o, orders[i]? = some o := by
      have hi : i < t.calls.length := (List.getElem?_eq_some_iff.1 hcall).1
      exact ⟨_, List.getElem?_eq_getElem (ih.length ▸ hi)⟩
    obtain ⟨hedited, hphase⟩ := (ih.phase i o _ ho hcall).turn (i := i) rfl ih.sound hserves
    refine ⟨hedited.sound ih.sound, by simpa using ih.length, ?_⟩
    -- The order whose turn it was is taken on; to the others the turn is an edit.
    intro j o' e ho' he
    rw [Traffic.turnsOf_concat]
    by_cases hij : i = j
    · subst hij
      obtain rfl : o = o' := Option.some.inj (ho.symm.trans ho')
      obtain rfl : next answer = e := by
        have hi : i < t.calls.length := (List.getElem?_eq_some_iff.1 hcall).1
        simpa [List.getElem?_set, hi] using he
      simpa using hphase
    · rw [if_neg hij]
      exact (ih.phase j o' e ho' (by simpa [List.getElem?_set, hij] using he)).edited hedited
  | edit _ hedited ih =>
    exact ⟨hedited.sound ih.sound, ih.length,
      fun i o e ho he => (ih.phase i o e ho he).edited hedited⟩

/-- No change of others is lost. An order that succeeds has changed the quota as it had found it,
in its limits and its version alone. One that fails has changed nothing, if an answer came to each
of its requests. Whatever comes of an order, its turns do nothing else. -/
theorem replacing_keeps_changes {orders : List QuotaOrder} {server : QuotaServer} {t : Traffic}
    {ts : List Turn} {i : Nat} {o : QuotaOrder} (hsound : server.Sound)
    (hruns : Traffic.Runs ⟨server, orders.map (·.exchange)⟩ ts t) (ho : orders[i]? = some o) :
    (t.calls[i]? = some (.done (.ok ())) → ∃ path q look change, o.path? = some path ∧
      Traffic.turnsOf i ts = [look, change] ∧ look.Finds path q ∧
      change.Replaces path q o.hard) ∧
    (∀ e, t.calls[i]? = some (.done (.error e)) →
      (∀ turn ∈ Traffic.turnsOf i ts, turn.answer ≠ none) →
      ∀ turn ∈ Traffic.turnsOf i ts, turn.after = turn.before) ∧
    ∀ turn ∈ Traffic.turnsOf i ts, turn.after = turn.before ∨ ∃ path q look, o.path? = some path ∧
      Traffic.turnsOf i ts = [look, turn] ∧ look.Finds path q ∧ turn.Replaces path q o.hard := by
  have hstanding := Standing.of_runs hsound hruns
  refine ⟨?_, ?_, ?_⟩
  · intro hcall
    exact (hstanding.phase i o _ ho hcall).of_ok rfl
  · intro e hcall hanswers
    exact (hstanding.phase i o _ ho hcall).of_error rfl hanswers
  · obtain ⟨e, hcall⟩ : ∃ e, t.calls[i]? = some e := by
      have hi : i < orders.length := (List.getElem?_eq_some_iff.1 ho).1
      exact ⟨_, List.getElem?_eq_getElem (hstanding.length ▸ hi)⟩
    exact (hstanding.phase i o e ho hcall).turns

/-- A quota without limits, as others have labelled it. -/
def labelled : ResourceQuota where
  metadata := { labels := some ⟨[("tier", "gold")], by decide⟩, resourceVersion := some "1" }

def tenPods : QuotaOrder := ⟨"acme", "quota", ⟨[("pods", "10")], by decide⟩⟩
def sixPods : QuotaOrder := ⟨"acme", "quota", ⟨[("pods", "6")], by decide⟩⟩

/-- The answer to a look at the quota, and to six pods. -/
def labelledReply : Reply := ⟨200, "\x7b\"apiVersion\":\"v1\",\"kind\":\"ResourceQuota\"," ++
  "\"metadata\":\x7b\"labels\":\x7b\"tier\":\"gold\"\x7d,\"resourceVersion\":\"1\"\x7d\x7d"⟩
def sixPodsReply : Reply := ⟨200, "\x7b\"apiVersion\":\"v1\",\"kind\":\"ResourceQuota\"," ++
  "\"metadata\":\x7b\"labels\":\x7b\"tier\":\"gold\"\x7d,\"resourceVersion\":\"2\"\x7d," ++
  "\"spec\":\x7b\"hard\":\x7b\"pods\":\"6\"\x7d\x7d\x7d"⟩

/-- Both orders look, the second one goes through, and the first one is told of a conflict. -/
theorem replacing_keeps_changes_conflict : ∃ server ts t path look change,
    server.Sound ∧ Traffic.Runs ⟨server, [tenPods, sixPods].map (·.exchange)⟩ ts t ∧
    (t.calls[1]? = some (.done (.ok ())) ∧ Traffic.turnsOf 1 ts = [look, change] ∧
      look.Finds path labelled ∧ change.Replaces path labelled sixPods.hard) ∧
    (∃ e, t.calls[0]? = some (.done (.error e))) ∧
    ∀ turn ∈ Traffic.turnsOf 0 ts, turn.after = turn.before := by
  let path := "/api/v1/namespaces/acme/resourcequotas/quota"
  let server : QuotaServer := ⟨Function.update (fun _ => none) path (some labelled), ["1"]⟩
  have hkept : Wire.Kept labelled := show Wire.read? (Wire.write labelled) = _ by decide +kernel
  have hfound : server.quotas path = some labelled := by simp [server]
  have honly : ∀ path q, server.quotas path = some q → q = labelled := by
    intro path' q hq
    simp only [server, Function.update_apply] at hq
    split at hq
    · exact (Option.some.inj hq).symm
    · cases hq
  have hsound : server.Sound := by
    constructor
    · intro path q hq
      rw [honly path q hq]
      exact hkept
    · intro path q hq
      rw [honly path q hq]
      exact ⟨"1", List.mem_cons_self, by decide, rfl⟩
  have hlooked : labelledReply.object ResourceQuota = .ok labelled :=
    Reply.object_of_success rfl (by decide +kernel)
  have hwritten : sixPodsReply.object ResourceQuota =
      .ok ((labelled.setHard sixPods.hard).versioned "2") :=
    Reply.object_of_success rfl (by decide +kernel)
  have hconflict : (⟨409, ""⟩ : Reply).isRefusal = true := rfl
  have hpath : sixPods.path? = some path := by decide +kernel
  have hruns := Traffic.Runs.overtakes (o := tenPods) (by decide +kernel) hpath
    (by decide +kernel) (by decide +kernel) hkept hfound ⟨by decide, by simp [server]⟩ hlooked
    hwritten hconflict
  obtain ⟨hok, -, -⟩ := replacing_keeps_changes (i := 1) hsound hruns rfl
  obtain ⟨-, herror, -⟩ := replacing_keeps_changes (i := 0) hsound hruns rfl
  obtain ⟨path', q, look, change, hpath', hturns, hfinds, hreplaces⟩ := hok rfl
  obtain rfl : path = path' := Option.some.inj (hpath.symm.trans hpath')
  cases hturns
  obtain rfl := honly _ _ hfinds.found
  have hunchanged := herror _ rfl (by simp [Traffic.turnsOf])
  exact ⟨server, _, _, path, _, _, hsound, hruns, ⟨rfl, rfl, hfinds, hreplaces⟩, ⟨_, rfl⟩,
    hunchanged⟩

end TenantCloud.Api
