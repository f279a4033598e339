import TenantCloud.Error
import TenantCloud.Json.Parser
import TenantCloud.Json.Wire

/-!
# Replies of the cluster's API

A `Reply` is what comes back: a status and a text. `checked` tells a refusal from a success, and
`object`, `items` and `deletion` read the text of a success. A refusal that describes itself counts
by the code in its description, any other by its status. Members that nobody asks for may be broken
in an object, but not beside listed objects, and nothing may be in the answer to a removal.
-/

set_option autoImplicit false

namespace TenantCloud.Api

/-- What comes back from the cluster's API. -/
structure Reply where
  status : Nat
  body : String
  deriving DecidableEq

/-- The description that a refusal gives of itself. -/
def readFailure? (j : Json) : Option ApiFailure := do
  let ms ← j.fields? ["status", "message", "reason", "code"]
  return {
    status := ← ms.required? "status"
    message := ← ms.absentOr? "message" ""
    reason := ← ms.absentOr? "reason" ""
    code := ← ms.requiredWith? "code" (Json.nat? 16) }

/-- What is known of objects that were listed, less the objects. -/
structure ListMetadata where
  continueToken : Option String := none
  remaining : Option Int := none
  resourceVersion : Option String := none
  selfLink : Option String := none
  deriving DecidableEq

instance : Wire ListMetadata where
  read? j := do
    let ms ← j.members?
    return {
      continueToken := ← ms.optional? "continue"
      remaining := ← ms.optionalWith? "remainingItemCount" Json.int64?
      resourceVersion := ← ms.optional? "resourceVersion"
      selfLink := ← ms.optional? "selfLink" }
  write m := .record [
    .opt "continue" m.continueToken, .optInt "remainingItemCount" m.remaining,
    .opt "resourceVersion" m.resourceVersion, .opt "selfLink" m.selfLink]

/-- Listed objects. Their array must be there, and `null` counts as an empty one. -/
def readItems? (α : Type) [Wire α] (j : Json) : Option (List α) := do
  let ms ← j.members?
  guard (Json.occurrences ms "metadata" ≤ 1 ∧ Json.occurrences ms "items" ≤ 1)
  guard (ms.all fun m => m.1 = "metadata" || m.1 = "items" || m.2.isWhole)
  let _ : ListMetadata ← ms.absentOr? "metadata" {}
  match ← Json.last? ms "items" with
  | .null => return []
  | items => Wire.read? items

/-- One reason behind a status report. -/
def readCause? (j : Json) : Option Unit := do
  let ms ← j.fields? ["reason", "message", "field"]
  let _ : String ← ms.absentOr? "reason" ""
  let _ : String ← ms.absentOr? "message" ""
  let _ : String ← ms.absentOr? "field" ""

/-- What a status report says about its object. -/
def readDetails? (j : Json) : Option Unit := do
  let ms ← j.fields? ["name", "group", "kind", "uid", "causes", "retryAfterSeconds"]
  let _ : String ← ms.absentOr? "name" ""
  let _ : String ← ms.absentOr? "group" ""
  let _ : String ← ms.absentOr? "kind" ""
  let _ : String ← ms.absentOr? "uid" ""
  let _ ← (Json.items? readCause?) ((Json.last? ms "causes").getD (.arr []))
  let _ ← Json.nat? 32 ((Json.last? ms "retryAfterSeconds").getD (.int 0))

/-- A status report in place of an object. -/
def readStatusReport? (j : Json) : Option Unit := do
  let ms ← j.fields? ["status", "code", "message", "reason", "details"]
  let summary ← ms.optionalWith? "status" Json.choice?
  guard (summary.all (["Success", "Failure"].contains ·))
  let _ ← Json.nat? 16 ((Json.last? ms "code").getD (.int 0))
  let _ : String ← ms.absentOr? "message" ""
  let _ : String ← ms.absentOr? "reason" ""
  let _ ← ms.optionalWith? "details" readDetails?

/-- Whether an answer is a status report. -/
def isStatusReport (j : Json) : Bool :=
  j.members?.any fun ms => Json.last? ms "kind" = some (.str "Status")

namespace Reply

/-- The reply is a refusal. -/
def isRefusal (r : Reply) : Bool := 400 ≤ r.status && r.status < 600

/-- Why a refusal was given. -/
def failure (r : Reply) : ApiFailure :=
  ((Json.outline? r.body).bind readFailure?).getD {
    status := toString r.status
    code := r.status
    message := Text.quoted r.body
    reason := "Failed to parse error data" }

/-- The text of a success. -/
def checked (r : Reply) : Result String :=
  if r.isRefusal then .error (.api r.failure) else .ok r.body

/-- What `read?` makes of the text of a success. -/
def readWith {α : Type} (read? : Json → Option α) (r : Reply) : Result α := do
  match (Json.outline? (← r.checked)).bind read? with
  | some a => return a
  | none => throw (.unreachable "unreadable answer")

/-- The object that came back. -/
def object (α : Type) [Wire α] (r : Reply) : Result α := r.readWith Wire.read?

/-- The objects that came back. -/
def items (α : Type) [Wire α] (r : Reply) : Result (List α) := r.readWith (readItems? α)

/-- What comes back for a removal: a status report, or the object as it was. -/
def deletion (α : Type) [Wire α] (r : Reply) : Result Unit :=
  r.readWith fun j =>
    if !j.isWhole then none
    else if isStatusReport j then readStatusReport? j
    else (Wire.read? (α := α) j).map fun _ => ()

end Reply

end TenantCloud.Api
