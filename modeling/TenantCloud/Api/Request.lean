import TenantCloud.Api.Target
import TenantCloud.Json.Wire

/-!
# Requests to the cluster's API

A `Request` is what goes out: one operation on a collection or on an object in it. There is none
where a name cannot stand in a path, or where an object is meant and the name is no text.
-/

set_option autoImplicit false

namespace TenantCloud.Api

inductive Method
  | get | post | put | patch | delete
  deriving DecidableEq

def Method.word : Method → String
  | get => "GET"
  | post => "POST"
  | put => "PUT"
  | patch => "PATCH"
  | delete => "DELETE"

/-- What goes out to the cluster's API. -/
structure Request where
  method : Method
  target : Target
  contentType : Option String := none
  body : Option Json := none
  deriving DecidableEq

namespace Request

def jsonType : String := "application/json"
def mergePatchType : String := "application/merge-patch+json"

/-- The objects of a collection that match a selector, or all of them. -/
def list? (c : Collection) (selector : Option String) : Option Request := do
  let target ← Target.ofPath? (c.path none) (selector.toList.map ("labelSelector", ·))
  return { method := .get, target }

/-- A new object. -/
def create? (c : Collection) (ns : Option String) (object : Json) : Option Request := do
  let target ← Target.ofPath? (c.path ns)
  return { method := .post, target, contentType := some jsonType, body := some object }

/-- The target of an object that has a name. -/
def objectTarget? (c : Collection) (ns : Option String) (name : String)
    (query : List (String × String) := []) : Option Target :=
  if name = "" then none else Target.ofPath? (c.objectPath ns name) query

/-- One object. No parameters are added to its path. -/
def get? (c : Collection) (ns : Option String) (name : String) : Option Request := do
  guard (name ≠ "")
  return { method := .get, target := ← Target.ofText? (c.objectPath ns name) }

/-- Members of an object to be set, or taken away where they are `null`. -/
def patch? (c : Collection) (ns : Option String) (name : String) (members : Json) :
    Option Request := do
  let target ← objectTarget? c ns name
  return { method := .patch, target, contentType := some mergePatchType, body := some members }

/-- A new content of an object, by a named writer. -/
def replace? (c : Collection) (ns : Option String) (name writer : String) (object : Json) :
    Option Request := do
  let target ← objectTarget? c ns name [("fieldManager", writer)]
  return { method := .put, target, contentType := some jsonType, body := some object }

/-- The removal of an object. -/
def delete? (c : Collection) (ns : Option String) (name : String) : Option Request := do
  let target ← objectTarget? c ns name
  return { method := .delete, target, contentType := some jsonType, body := some (.obj []) }

end Request

end TenantCloud.Api
