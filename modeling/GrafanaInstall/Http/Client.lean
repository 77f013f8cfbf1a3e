import GrafanaInstall.Http.Message
import GrafanaInstall.Http.Status

/-!
# The client

Carries out each call on the cluster by requests to the API server. What exists is read before
it is written, and it is written back with the version that was read.
-/

namespace GrafanaInstall.Http.Client

/-! ## Requests -/

def log (level : Level) (message : String) (fields : List (String × Json)) : Task Http Unit :=
  ExceptT.lift (Program.send (I := Http) (.log ⟨level, message, fields⟩))

/-- What an answer that is no success says. One that is not in the server's own form is quoted
as a whole. -/
def refusal (response : Response) : Refusal :=
  match response.body.json?.bind refusalFields.record.read with
  | some r => r
  | none =>
    { status := statusLine response.status
      message := Text.quoted response.body.asText
      reason := "Failed to parse error data"
      code := .ofNat response.status }

/-- Sends a request, if its address may be written, and gives back what a success carries. -/
def exchange (request : Request) : Task Http Body := do
  if let .error fault := Uri.checkRelative request.address then
    Task.fail (.cluster (.malformedAddress fault))
  match ← ExceptT.lift (Program.send (I := Http) (.send request)) with
  | .silent => throw .interrupted
  | .lost text => Task.fail (.cluster (.undelivered text))
  | .answered response =>
    if 400 ≤ response.status ∧ response.status < 600 then
      Task.fail (.cluster (.refused (refusal response)))
    else return response.body

def decode (read : Json → Option α) (body : Body) : Task Http α :=
  match body.json?.bind read with
  | some a => return a
  | none => Task.fail (.cluster .unreadableAnswer)

/-- An object can be asked for only by a name. -/
def checkName (name : String) : Task Http Unit :=
  if name = "" then Task.fail (.cluster (.malformedRequest "A non-empty name is required"))
  else return ()

def list (k : Kind) (ns : String) : Task Http (List (Object k)) := do
  decode (readList (Object.codec k)) (← exchange (.list k ns))

def get (k : Kind) (ns name : String) : Task Http (Object k) := do
  checkName name
  decode (Object.read? k) (← exchange (.get k ns name))

/-- An object that the server does not know is absent. Only the reason it gives counts. -/
def get? (k : Kind) (ns name : String) : Task Http (Option (Object k)) :=
  Task.recover (do return some (← get k ns name)) fun
    | .cluster (.refused r) => if r.reason = "NotFound" then some (return none) else none
    | _ => none

def create (ns : String) (object : Object k) : Task Http Unit := do
  let _ ← decode (Object.read? k) (← exchange (.create k ns object.json))

def replace (ns name : String) (object : Object k) : Task Http Unit := do
  checkName name
  let _ ← decode (Object.read? k) (← exchange (.replace k ns name object.json))

/-- The answer to a delete is a status object, or else the object that was deleted. All of it must
have a value. -/
def isDeleteAnswer (k : Kind) (answer : Json) : Bool :=
  match answer.value? with
  | none => false
  | some value =>
    if value.get? "kind" = some (.string "Status") then isStatus answer
    else (Object.read? k answer).isSome

def sendDelete (k : Kind) (ns name : String) : Task Http Unit := do
  checkName name
  decode (fun answer => if isDeleteAnswer k answer then some () else none)
    (← exchange (.delete k ns name))

/-! ## Calls -/

/-- Creates the object or, where it differs, writes the one that is there back changed. -/
def apply (desired : Object k) : Task Http ApplyResult := do
  let some ns := desired.metadata.ns
    | Task.fail (.internal "grafana-client" "desired object has no namespace")
  let some name := desired.metadata.name
    | Task.fail (.internal "create_or_update" (k.name ++ " template has no name"))
  let fields := [("kind", .string k.name), ("name", .string name)]
  match ← get? k ns name with
  | none =>
    create ns desired
    log .info "created" fields
    return .created
  | some observed =>
    match observed.mutatedIfChanged (Object.overwrite desired) with
    | none =>
      log .debug "already converged" fields
      return .unchanged
    | some changed =>
      replace ns name changed
      log .info "updated" fields
      return .updated

def delete (k : Kind) (ns name : String) : Task Http Unit := do
  Task.recover (sendDelete k ns name) fun
    | .cluster cause => some (Task.fail (.ofDelete cause k.name ns name))
    | _ => none
  log .info "deleted"
    [("kind", .string k.name), ("name", .string name), ("namespace", .string ns)]

def patchStatus (ns name : String) (status : ObservabilityStatus) : Task Http Unit := do
  checkName name
  let patch := .object [("status", ObservabilityStatus.codec.write status)]
  let _ ← decode (Object.read? .observability)
    (← exchange (.patchStatus .observability ns name patch))

/-- Writes the whole list of finalizers. -/
def patchFinalizers (ns name : String) (finalizers : List String) : Task Http Unit := do
  checkName name
  let list := .array (finalizers.map .string)
  let patch := .object [("metadata", .object [("finalizers", list)])]
  let _ ← decode (Object.read? .observability) (← exchange (.patch .observability ns name patch))

def addFinalizer (ns name finalizer : String) : Task Http Unit := do
  let obs ← get .observability ns name
  if !obs.metadata.hasFinalizer finalizer then
    patchFinalizers ns name (obs.metadata.finalizers.getD [] ++ [finalizer])

def removeFinalizer (ns name finalizer : String) : Task Http Unit := do
  if let some obs ← get? .observability ns name then
    patchFinalizers ns name ((obs.metadata.finalizers.getD []).filter (· ≠ finalizer))

def perform : (call : Call) → Task Http call.Result
  | .list k ns => list k ns
  | .apply _ desired => apply desired
  | .delete k ns name => delete k ns name
  | .patchStatus ns name status => patchStatus ns name status
  | .addFinalizer ns name finalizer => addFinalizer ns name finalizer
  | .removeFinalizer ns name finalizer => removeFinalizer ns name finalizer

end GrafanaInstall.Http.Client
