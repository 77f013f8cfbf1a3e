import GrafanaInstall.Controller
import GrafanaInstall.Http.Client
import GrafanaInstall.Http.Server
import GrafanaInstall.Json.Value
import GrafanaInstall.Memory
import GrafanaInstall.Testbed.Fault

/-!
# Testbeds

A cluster to run the operator against, with its faults, the state of its cancellation, and a
record of what was asked of it. The operator reaches the store either straight or through the
client and an API server.
-/

namespace GrafanaInstall

namespace Testbed

inductive Access where
  | direct
  | server
  deriving DecidableEq

inductive Seen where
  | call (call : Call)
  | request (request : Http.Request)

end Testbed

structure Testbed where
  access : Testbed.Access
  server : Http.Server := {}
  callFaults : List (Testbed.Armed Testbed.CallFault) := []
  requestFaults : List (Testbed.Armed Testbed.RequestFault) := []
  cancelled : Bool := false
  /-- The last comes first, as it does in the log. -/
  seen : List Testbed.Seen := []
  log : List Event := []

namespace Testbed

def see (bed : Testbed) (what : Seen) : Testbed := { bed with seen := what :: bed.seen }

def note (bed : Testbed) (event : Event) : Testbed := { bed with log := event :: bed.log }

def store (bed : Testbed) : Store := bed.server.store

def setStore (bed : Testbed) (store : Store) : Testbed :=
  { bed with server := { bed.server with store } }

/-! ## Direct access -/

def act (call : Call) (bed : Testbed) : Except Halt call.Result × Testbed :=
  let (reply, store) := Memory.answer call bed.store
  (reply.mapError .failed, bed.setStore store)

def callDirectly (call : Call) (bed : Testbed) : Except Halt call.Result × Testbed :=
  let bed := bed.see (.call call)
  let (due, callFaults) := fire (CallFault.hits call) bed.callFaults
  let bed := { bed with callFaults }
  match due with
  | none => bed.act call
  | some fault =>
    let bed := { bed with cancelled := bed.cancelled || fault.cancels || fault.hangs }
    if fault.hangs then (.error .interrupted, bed)
    else
      match fault.error with
      | some error => (.error (.failed error), bed)
      | none => bed.act call

def direct : Handler Cluster Testbed
  | .call call, bed => bed.callDirectly call
  | .log event, bed => ((), bed.note event)
  | .cancelled, bed => (bed.cancelled, bed)

/-! ## Access through the server -/

def deliver (request : Http.Request) (bed : Testbed) : Http.Delivery × Testbed :=
  let bed := bed.see (.request request)
  let (due, requestFaults) := fire (RequestFault.hits request) bed.requestFaults
  let bed := { bed with requestFaults }
  match due with
  | none =>
    let (response, server) := bed.server.respond request.received
    (.answered response, { bed with server })
  | some fault =>
    match fault.effect with
    | .hangs => (.silent, { bed with cancelled := true })
    | .lost text => (.lost text, bed)
    | .answered response => (.answered response, bed)

def network : Handler Http Testbed
  | .send request, bed => bed.deliver request
  | .log event, bed => ((), bed.note event)

def throughServer : Handler Cluster Testbed
  | .call call, bed => Program.run network (Http.Client.perform call) bed
  | .log event, bed => ((), bed.note event)
  | .cancelled, bed => (bed.cancelled, bed)

/-! ## Runs -/

def handler (bed : Testbed) : Handler Cluster Testbed :=
  match bed.access with
  | .direct => direct
  | .server => throughServer

def play (program : Program Cluster α) (bed : Testbed) : α × Testbed :=
  program.run bed.handler bed

/-! ## Changes from outside -/

/-- What was read as it is to be stored. Something without a value stays as it was read. -/
def asStored (read : Json) : Json := read.value?.getD read

def put (object : Json) (kind : Option String) (bed : Testbed) : Testbed :=
  let object := asStored object
  bed.setStore (bed.store.put (.ofObject object kind) object)

def merge? (key : Key) (patch : Json) (bed : Testbed) : Option Testbed :=
  (bed.store.find? key).map fun object =>
    bed.setStore (bed.store.put key (object.mergePatch (asStored patch)))

def remove? (key : Key) (bed : Testbed) : Option Testbed :=
  (bed.store.find? key).map fun _ => bed.setStore (bed.store.erase key)

def clearFaults (bed : Testbed) : Testbed :=
  { bed with callFaults := [], requestFaults := [] }

end Testbed

end GrafanaInstall
