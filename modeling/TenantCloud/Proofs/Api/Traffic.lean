import Mathlib.Logic.Function.Basic
import TenantCloud.Api.Client
import TenantCloud.Proofs.Object.Quotas

/-!
# Traffic with a server of quotas

A `QuotaServer` keeps a quota at each path, or none, under a version that it never gives out again;
the version is all that it writes into a quota itself. `QuotaServer.Serves` says how it may serve a
request, and `QuotaServer.Edited` what others may make of it. In a `Traffic` calls send their
requests to one server, in any order and with edits in between; `Traffic.Runs` is a run of it with
the `Turn`s that the calls took.

The server that there is stays `QuotaServer.Sound`, and once a quota was found at a path, what is
there under its version is that quota (`QuotaServer.Since`).
-/

set_option autoImplicit false

namespace TenantCloud.Api

/-- The quotas of a cluster by their paths, and the versions that were given out. -/
structure QuotaServer where
  quotas : String → Option ResourceQuota
  versions : List String

namespace QuotaServer

variable {s s' : QuotaServer} {path version : String} {q : ResourceQuota}

/-- The server with a quota at a path, under a version. -/
def store (s : QuotaServer) (path : String) (q : ResourceQuota) (version : String) : QuotaServer :=
  ⟨Function.update s.quotas path (some (q.versioned version)), version :: s.versions⟩

/-- The server without a quota at a path. -/
def remove (s : QuotaServer) (path : String) : QuotaServer :=
  { s with quotas := Function.update s.quotas path none }

/-- A version that was not given out. No text is no version. -/
structure Fresh (s : QuotaServer) (version : String) : Prop where
  nonempty : version ≠ ""
  unused : version ∉ s.versions

/-- What others may do: nothing, put any quota anywhere, or take one away. -/
inductive Edited (s : QuotaServer) : QuotaServer → Prop
  | none : Edited s s
  | stored (path : String) {q : ResourceQuota} {version : String} (hkept : Wire.Kept q)
    (hfresh : s.Fresh version) : Edited s (s.store path q version)
  | removed (path : String) : Edited s (s.remove path)

/-- A replacement goes through where it asks for no version, or for the one that is there. -/
def Admits (old new : ResourceQuota) : Prop :=
  new.metadata.resourceVersion = none ∨ new.metadata.resourceVersion = some "" ∨
    new.metadata.resourceVersion = old.metadata.resourceVersion

/-- How a content gets to a path: under a fresh version, or not at all where it is there already. -/
inductive Stores (s : QuotaServer) (path : String) (q : ResourceQuota) : QuotaServer → Prop
  | fresh {version : String} (h : s.Fresh version) : Stores s path q (s.store path q version)
  | same (h : s.quotas path = some q) : Stores s path q s

/-- What may come of a request. A reply without a quota, such as a conflict or any other error,
says that nothing was done. -/
inductive Serves (s : QuotaServer) (r : Request) : Option Reply → QuotaServer → Prop
  | lost : Serves s r none s
  | refused {reply : Reply} (h : ∀ q, reply.object ResourceQuota ≠ .ok q) :
    Serves s r (some reply) s
  | found {reply : Reply} {q : ResourceQuota} (hmethod : r.method = .get)
    (hq : s.quotas r.target.path = some q) (h : reply.object ResourceQuota = .ok q) :
    Serves s r (some reply) s
  /-- The answer may be lost on its way back. -/
  | replaced {answer : Option Reply} {old new : ResourceQuota} {s' : QuotaServer}
    (hmethod : r.method = .put) (hbody : r.body.bind Wire.read? = some new)
    (hold : s.quotas r.target.path = some old) (hadmits : Admits old new)
    (hstores : s.Stores r.target.path new s')
    (h : ∀ reply ∈ answer, ∃ q, s'.quotas r.target.path = some q ∧
      reply.object ResourceQuota = .ok q) :
    Serves s r answer s'

/-! ## Servers that are sound -/

/-- What is there can be carried, and has a version that was given out. -/
structure Sound (s : QuotaServer) : Prop where
  kept : ∀ path q, s.quotas path = some q → Wire.Kept q
  versioned : ∀ path q, s.quotas path = some q →
    ∃ version ∈ s.versions, version ≠ "" ∧ q.metadata.resourceVersion = some version

/-- Since a quota was there, what is at its path under its version is that quota. -/
structure Since (path : String) (q : ResourceQuota) (version : String) (s : QuotaServer) :
    Prop where
  given : version ∈ s.versions
  same : ∀ q', s.quotas path = some q' → q'.metadata.resourceVersion = some version → q' = q

theorem quotas_store (path' : String) : (s.store path q version).quotas path' =
    if path' = path then some (q.versioned version) else s.quotas path' := by
  simp [store, Function.update_apply]

theorem quotas_remove (path' : String) :
    (s.remove path).quotas path' = if path' = path then none else s.quotas path' := by
  simp [remove, Function.update_apply]

theorem Edited.sound (h : s.Edited s') (hs : s.Sound) : s'.Sound := by
  cases h with
  | none => exact hs
  | @stored path q version hkept hfresh =>
    constructor
    · intro path' q' hq'
      rw [quotas_store] at hq'
      split at hq'
      · cases hq'
        exact ResourceQuota.kept_versioned hkept version
      · exact hs.kept path' q' hq'
    · intro path' q' hq'
      rw [quotas_store] at hq'
      split at hq'
      · cases hq'
        exact ⟨version, List.mem_cons_self, hfresh.nonempty, rfl⟩
      · obtain ⟨v, hv, hrest⟩ := hs.versioned path' q' hq'
        exact ⟨v, List.mem_cons_of_mem _ hv, hrest⟩
  | removed path =>
    constructor
    · intro path' q' hq'
      rw [quotas_remove] at hq'
      split at hq'
      · cases hq'
      · exact hs.kept path' q' hq'
    · intro path' q' hq'
      rw [quotas_remove] at hq'
      split at hq'
      · cases hq'
      · exact hs.versioned path' q' hq'

theorem Edited.since (h : s.Edited s') (hs : Since path q version s) : Since path q version s' := by
  cases h with
  | none => exact hs
  | @stored path' q' version' hkept hfresh =>
    refine ⟨List.mem_cons_of_mem _ hs.given, ?_⟩
    intro found hfound hversion
    rw [quotas_store] at hfound
    split at hfound
    · -- The version of what was stored was not given out when the quota was there.
      cases hfound
      cases hversion
      exact absurd hs.given hfresh.unused
    · exact hs.same found hfound hversion
  | removed path' =>
    refine ⟨hs.given, ?_⟩
    intro found hfound hversion
    rw [quotas_remove] at hfound
    split at hfound
    · cases hfound
    · exact hs.same found hfound hversion

theorem Sound.since (hs : s.Sound) (hq : s.quotas path = some q) :
    ∃ version, version ≠ "" ∧ q.metadata.resourceVersion = some version ∧
      Since path q version s := by
  obtain ⟨version, hgiven, hne, hversion⟩ := hs.versioned path q hq
  refine ⟨version, hne, hversion, hgiven, ?_⟩
  intro q' hq' _
  rw [hq] at hq'
  exact (Option.some.inj hq').symm

/-- To serve a request whose body can be carried is an edit. -/
theorem Serves.edited {r : Request} {answer : Option Reply} (h : s.Serves r answer s')
    (hkept : ∀ new : ResourceQuota, r.body.bind Wire.read? = some new → Wire.Kept new) :
    s.Edited s' := by
  cases h with
  | lost => exact .none
  | refused _ => exact .none
  | found _ _ _ => exact .none
  | replaced _ hbody _ _ hstores _ =>
    cases hstores with
    | fresh hfresh => exact .stored _ (hkept _ hbody) hfresh
    | same _ => exact .none

end QuotaServer

/-! ## Calls side by side -/

/-- Calls that are under way, and the server that they talk to. -/
structure Traffic where
  server : QuotaServer
  calls : List (Exchange (Result Unit))

/-- A request of a call: its number, the reply, and the server before and after. -/
structure Turn where
  call : Nat
  answer : Option Reply
  before : QuotaServer
  after : QuotaServer

namespace Traffic

/-- A run, with the turns that the calls took. Others may edit at any time. -/
inductive Runs (start : Traffic) : List Turn → Traffic → Prop
  | refl : Runs start [] start
  | turn {ts : List Turn} {t : Traffic} {i : Nat} {r : Request}
    {next : Option Reply → Exchange (Result Unit)} {answer : Option Reply} {s : QuotaServer} :
    Runs start ts t → t.calls[i]? = some (.send r next) → t.server.Serves r answer s →
    Runs start (ts ++ [⟨i, answer, t.server, s⟩]) ⟨s, t.calls.set i (next answer)⟩
  | edit {ts : List Turn} {t : Traffic} {s : QuotaServer} :
    Runs start ts t → t.server.Edited s → Runs start ts ⟨s, t.calls⟩

/-- The turns of one call. -/
def turnsOf (i : Nat) (ts : List Turn) : List Turn := ts.filter (·.call == i)

theorem turnsOf_concat (i : Nat) (ts : List Turn) (t : Turn) :
    turnsOf i (ts ++ [t]) = if t.call = i then turnsOf i ts ++ [t] else turnsOf i ts := by
  by_cases h : t.call = i <;> simp [turnsOf, List.filter_append, h]

end Traffic

end TenantCloud.Api
