import TenantCloud.Api.Exchange
import TenantCloud.Data.Timestamp
import TenantCloud.Effect.Call

/-!
# Records of events

`EventRecord` is an event as the cluster's API keeps it, beside the object that it is about, and
`publish` sends one. Nobody waits for it: whatever comes back, the exchange is done.
-/

set_option autoImplicit false

namespace TenantCloud.Api

/-- Who reports events. -/
structure Reporter where
  controller : String := Vocabulary.fieldManager
  /-- Which of the running programs it is. -/
  node : Option String := none
  deriving DecidableEq

/-- An event in the cluster. -/
structure EventRecord where
  name : String
  time : Timestamp
  reporter : Reporter
  regarding : ObjectReference
  event : Event
  deriving DecidableEq

namespace EventRecord

def kind : ObjectKind := ⟨"events.k8s.io/v1", "Event"⟩

/-- Where events go whose object lies in no namespace. -/
def defaultNamespace : String := "default"

/-- The record of an event. Its name is that of the object, or else of the reporter, and the time in
hexadecimal nanoseconds. -/
def of (reporter : Reporter) (now : Timestamp) (object : ObjectReference) (event : Event) :
    EventRecord where
  name := object.name.getD reporter.controller ++ "." ++
    String.ofList (Nat.toDigits 16 now.toNanos.toNat)
  time := now
  reporter := reporter
  regarding := object
  event := event

def ns (r : EventRecord) : String := r.regarding.ns.getD defaultNamespace

def write (r : EventRecord) : Json :=
  let metadata : Metadata := { name := some r.name, ns := r.regarding.ns }
  kind.write [
    .mem "action" r.event.action, .mem "eventTime" r.time.renderMicros,
    .mem "metadata" metadata, .opt "note" r.event.note, .mem "reason" r.event.reason,
    .mem "regarding" r.regarding, .mem "reportingController" r.reporter.controller,
    .mem "reportingInstance" (r.reporter.node.getD r.reporter.controller),
    .mem "type" (if r.event.warning then "Warning" else "Normal")]

/-- Send a record. -/
def publish (r : EventRecord) : Exchange Unit :=
  match Request.create? .events (some r.ns) r.write with
  | some request => .send request fun _ => .done ()
  | none => .done ()

end EventRecord

end TenantCloud.Api
