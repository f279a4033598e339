import TenantCloud.Text.Quoted

/-!
# What can go wrong

An `Error` is a cause: a reply of the cluster's API that reports a failure, a failure to talk to
the cluster, the database or a serialiser, or one of the causes that the controllers find
themselves. `category` groups causes for counting, `message` words them for readers.
-/

set_option autoImplicit false

namespace TenantCloud

/-- A reply of the cluster's API that reports a failure. -/
structure ApiFailure where
  status : String := "Failure"
  code : Nat
  message : String
  reason : String
  deriving DecidableEq

/-- Why an operation failed. -/
inductive Error
  /-- The cluster's API refused a request. -/
  | api (reply : ApiFailure)
  /-- The cluster's API gave no reply that can be read. -/
  | unreachable (detail : String)
  | database (detail : String)
  | serialization (detail : String)
  | config (what : String)
  | notFound (what : String)
  /-- A record would break a uniqueness rule. -/
  | alreadyExists (what : String)
  /-- A record contradicts itself. -/
  | malformed (what : String)
  | reconcile (what : String)
  deriving DecidableEq

/-- A value or the reason for there being none. -/
abbrev Result (α : Type) : Type := Except Error α

namespace ApiFailure

/-- The code of a request for what is not there. -/
def notFoundCode : Nat := 404

/-- The code of a request that contradicts what is there. -/
def conflictCode : Nat := 409

/-- The message, the reason, and the whole reply behind them. -/
def describe (r : ApiFailure) : String :=
  "ApiError: " ++ r.message ++ ": " ++ r.reason ++ " (ErrorResponse \x7b status: " ++
    Text.quoted r.status ++ ", message: " ++ Text.quoted r.message ++ ", reason: " ++
    Text.quoted r.reason ++ ", code: " ++ toString r.code ++ " \x7d)"

end ApiFailure

namespace Error

/-- The label under which a failed pass is counted. -/
def category : Error → String
  | api r =>
    if r.code = ApiFailure.notFoundCode then "not_found"
    else if r.code = ApiFailure.conflictCode then "conflict"
    else "kubernetes"
  | unreachable _ => "kubernetes"
  | database _ => "database"
  | serialization _ => "serialization"
  | config _ => "config"
  | notFound _ => "not_found"
  | alreadyExists _ => "conflict"
  | malformed _ => "malformed"
  | reconcile _ => "reconcile"

/-- The text for readers. -/
def message : Error → String
  | api r => "Kubernetes API error: " ++ r.describe
  | unreachable detail => "Kubernetes API error: " ++ detail
  | database detail => "PostgreSQL error: " ++ detail
  | serialization detail => "Serialization error: " ++ detail
  | config what => "Configuration error: " ++ what
  | notFound what => "Resource not found: " ++ what
  | alreadyExists what => "Record already exists: " ++ what
  | malformed what => "Malformed entity: " ++ what
  | reconcile what => "Reconcile error: " ++ what

/-- The record is there already. -/
def isAlreadyExists : Error → Bool
  | alreadyExists _ => true
  | _ => false

end Error

end TenantCloud
