import TenantCloud.Text.Form
import TenantCloud.Vocabulary

/-!
# Targets of requests

A `Collection` is where the cluster's API keeps the objects of one kind, `Target` what a request
points to: a path and parameters. Names go into a path as they are. So a name with a character
that cannot stand there makes no target, one with a question mark begins parameters, and one with
a number sign ends everything.
-/

set_option autoImplicit false

namespace TenantCloud.Api

/-- Where the objects of a kind are kept. -/
structure Collection where
  /-- The group of the kind, no text for the core group. -/
  group : String
  version : String
  plural : String
  deriving DecidableEq

namespace Collection

def namespaces : Collection := ⟨"", "v1", "namespaces"⟩
def resourceQuotas : Collection := ⟨"", "v1", "resourcequotas"⟩
def networkPolicies : Collection := ⟨"networking.k8s.io", "v1", "networkpolicies"⟩
def virtualMachines : Collection := ⟨"kubevirt.io", "v1", "virtualmachines"⟩
def virtualMachineInstances : Collection := ⟨"kubevirt.io", "v1", "virtualmachineinstances"⟩
def templateInstances : Collection := ⟨"template.openshift.io", "v1", "templateinstances"⟩
def events : Collection := ⟨"events.k8s.io", "v1", "events"⟩

/-- The path of a collection, in one namespace or across all of them. -/
def path (c : Collection) (ns : Option String) : String :=
  (if c.group = "" then "/api/" else "/apis/" ++ c.group ++ "/") ++ c.version ++ "/" ++
    (ns.elim "" fun n => "namespaces/" ++ n ++ "/") ++ c.plural

/-- The path of one object. -/
def objectPath (c : Collection) (ns : Option String) (name : String) : String :=
  c.path ns ++ "/" ++ name

end Collection

/-- What a request points to. -/
structure Target where
  path : String
  query : List (String × String) := []
  deriving DecidableEq

namespace Target

/-- A character that can stand in a path. -/
def isPathChar (c : Char) : Bool :=
  0x21 ≤ c.toNat && c ≠ '<' && c ≠ '>' && c.toNat ≠ 0x60

/-- A character that can stand behind a path. -/
def isQueryChar (c : Char) : Bool :=
  0x21 ≤ c.toNat && c ≠ '"' && c ≠ '<' && c ≠ '>' && c.toNat ≠ 0x7F

/-- The most bytes of a target. -/
def maxLength : Nat := 65534

/-- One parameter, its value behind the first equals sign. -/
def param (t : List Char) : String × String :=
  let part (cs : List Char) := Text.Form.decode (String.ofList cs)
  (part (t.takeWhile (· ≠ '=')), part ((t.dropWhile (· ≠ '=')).drop 1))

/-- The parameters in a text. -/
def params (t : List Char) : List (String × String) :=
  ((t.splitOnP (· = '&')).filter (!·.isEmpty)).map param

/-- The target that a text spells. -/
def ofText? (text : String) : Option Target :=
  let cs := text.toList.takeWhile (· ≠ '#')
  let path := cs.takeWhile (· ≠ '?')
  let query := (cs.dropWhile (· ≠ '?')).drop 1
  if path.all isPathChar && query.all isQueryChar && text.utf8ByteSize ≤ maxLength then
    some { path := String.ofList path, query := params query }
  else none

/-- What parameters add to a path. -/
def queryText (query : List (String × String)) : String :=
  "?" ++ String.join (query.map fun q => "&" ++ Text.Form.encode q.1 ++ "=" ++ Text.Form.encode q.2)

/-- The target that a path and parameters make. -/
def ofPath? (path : String) (query : List (String × String) := []) : Option Target :=
  ofText? (path ++ queryText query)

end Target

end TenantCloud.Api
