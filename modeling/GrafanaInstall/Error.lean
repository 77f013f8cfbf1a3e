import GrafanaInstall.Http.Uri
import GrafanaInstall.Text.Quoted

/-!
# Errors

What can go wrong, by cause, with the text each error is reported by. An error that says that an
object is gone can be borne where the object was to be deleted.
-/

namespace GrafanaInstall

structure Refusal where
  status : String
  message : String
  reason : String
  code : UInt16
  deriving DecidableEq

inductive ClusterError where
  | refused (refusal : Refusal)
  /-- The request did not get through. -/
  | undelivered (text : String)
  /-- The request was not worth sending. -/
  | malformedRequest (text : String)
  /-- The request has no address that may be written. -/
  | malformedAddress (fault : Http.Uri.Fault)
  /-- The answer was no object of the kind that was asked for. -/
  | unreadableAnswer
  | unendedLine
  | tlsRequired
  deriving DecidableEq

inductive Error where
  | cluster (cause : ClusterError)
  | notFound (kind ns name : String)
  | validation (resource message : String)
  | serialization (kind message : String)
  | cancelled (stage : String)
  | internal (context message : String)
  deriving DecidableEq

/-! ## Texts -/

open Text (quoted)

def Refusal.detail (r : Refusal) : String :=
  "ErrorResponse \x7b status: " ++ quoted r.status ++ ", message: " ++ quoted r.message ++
    ", reason: " ++ quoted r.reason ++ ", code: " ++ toString r.code.toNat ++ " \x7d"

namespace ClusterError

def message : ClusterError → String
  | .refused r => "ApiError: " ++ r.message ++ ": " ++ r.reason ++ " (" ++ r.detail ++ ")"
  | .undelivered text => "ServiceError: " ++ text
  | .malformedRequest text => "Failed to build request: failed to validate request: " ++ text
  | .malformedAddress fault =>
    "Failed to build request: failed to build request: " ++ fault.message
  | .unreadableAnswer => "Error deserializing response"
  | .unendedLine => "Error finding newline character"
  | .tlsRequired => "TLS required but no TLS stack selected"

/-- The cause with all its parts, as logs show it. -/
def detail : ClusterError → String
  | .refused r => "Api(" ++ r.detail ++ ")"
  | .undelivered text => "Service(" ++ quoted text ++ ")"
  | .malformedRequest text => "BuildRequest(Validation(" ++ quoted text ++ "))"
  | .malformedAddress fault =>
    "BuildRequest(BuildRequest(http::Error(InvalidUri(" ++ fault.detail ++ "))))"
  | .unreadableAnswer => "SerdeError"
  | .unendedLine => "LinesCodecMaxLineLengthExceeded"
  | .tlsRequired => "TlsRequired"

end ClusterError

namespace Error

def message : Error → String
  | .cluster cause => "kubernetes error: " ++ cause.message
  | .notFound kind ns name => kind ++ " " ++ ns ++ "/" ++ name ++ " not found"
  | .validation resource message => "validation error for " ++ resource ++ ": " ++ message
  | .serialization kind message => "serialization error for " ++ kind ++ ": " ++ message
  | .cancelled stage => "cancelled during stage " ++ stage
  | .internal context message => "internal error [" ++ context ++ "]: " ++ message

def record (name : String) (fields : List (String × String)) : String :=
  name ++ " \x7b " ++ ", ".intercalate (fields.map fun (key, text) => key ++ ": " ++ text) ++
    " \x7d"

/-- The error with all its parts, as logs show it. -/
def detail : Error → String
  | .cluster cause => record "Kube" [("source", cause.detail)]
  | .notFound kind ns name =>
    record "NotFound" [("kind", quoted kind), ("namespace", quoted ns), ("name", quoted name)]
  | .validation resource message =>
    record "Validation" [("resource", quoted resource), ("message", quoted message)]
  | .serialization kind message =>
    record "Serialization" [("message", quoted message), ("kind", quoted kind)]
  | .cancelled stage => record "Cancelled" [("stage", quoted stage)]
  | .internal context message =>
    record "Internal" [("message", quoted message), ("context", quoted context)]

/-! ## Classes -/

/-- The object is not there, by our own account or by a bare 404 of the server. -/
def isNotFound : Error → Bool
  | .notFound .. => true
  | .cluster (.refused r) => r.code = 404
  | _ => false

/-- Another attempt may succeed. A refusal that blames the request will not go away, unless the
object may yet appear or the conflict pass. -/
def isRetryable : Error → Bool
  | .cluster (.refused r) => !(400 ≤ r.code && r.code < 500 && r.code ≠ 404 && r.code ≠ 409)
  | .cluster _ | .notFound .. | .cancelled _ | .internal .. => true
  | .validation .. | .serialization .. => false

/-- A failed delete, with a 404 of the server told as a missing object. -/
def ofDelete (cause : ClusterError) (kind ns name : String) : Error :=
  match cause with
  | .refused r => if r.code = 404 then .notFound kind ns name else .cluster cause
  | _ => .cluster cause

end Error

end GrafanaInstall
