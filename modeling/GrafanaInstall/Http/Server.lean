import GrafanaInstall.Http.Message
import GrafanaInstall.Json.MergePatch
import GrafanaInstall.Store

/-!
# An API server

Keeps objects in a store and answers requests on them. Each write gives the object a new version.
An object with finalizers is not removed by a delete but marked, and it goes once it is marked
and the last finalizer is gone.
-/

namespace GrafanaInstall.Http

structure Server where
  store : Store := []
  version : Nat := 0
  /-- Whether a write that is based on an outdated version is refused. -/
  strict : Bool := false

namespace Server

/-! ## Answers -/

def answer (status : Nat) (value : Json) : Response := ⟨status, .json value⟩

def failure (code : Nat) (reason message : String) : Response :=
  answer code (.object
    [("apiVersion", .string "v1"), ("code", .int code), ("kind", .string "Status"),
      ("message", .string message), ("metadata", .object []), ("reason", .string reason),
      ("status", .string "Failure")])

def success : Response :=
  answer 200 (.object
    [("apiVersion", .string "v1"), ("kind", .string "Status"), ("metadata", .object []),
      ("status", .string "Success")])

def about (k : Kind) (name what : String) : String :=
  k.plural ++ " \"" ++ name ++ "\" " ++ what

def notFound (k : Kind) (name : String) : Response :=
  failure 404 "NotFound" (about k name "not found")

def alreadyExists (k : Kind) (name : String) : Response :=
  failure 409 "AlreadyExists" (about k name "already exists")

def conflict (k : Kind) (name : String) : Response :=
  failure 409 "Conflict" (about k name "has been modified")

/-! ## Writing -/

def versionPath : List String := ["metadata", "resourceVersion"]

def hasFinalizers (object : Json) : Bool :=
  ((object.at? ["metadata", "finalizers"]).bind Json.items?).getD [] ≠ []

def isMarked (object : Json) : Bool :=
  (object.at? ["metadata", "deletionTimestamp"]).getD .null ≠ .null

/-- The time of every deletion. -/
def deletionTime : Json := .string "2026-01-01T00:00:00Z"

/-- Stores the object under a new version and gives back what was stored. -/
def write (key : Key) (object : Json) (server : Server) : Json × Server :=
  let version := server.version + 1
  let object := object.setAt versionPath (.string (toString version))
  let store :=
    if isMarked object && !hasFinalizers object then server.store.erase key
    else server.store.put key object
  (object, { server with store, version })

/-- A write is outdated when it names another version than the stored one. -/
def isOutdated (stored written : Json) : Bool :=
  match written.at? versionPath with
  | some version => some version ≠ stored.at? versionPath
  | none => false

/-! ## Requests -/

def keyOf (k : Kind) (ns name : String) : Key := ⟨k.name, ns, name⟩

/-- Changes the object of a name, on the ground of what the request says of it. -/
def update (k : Kind) (ns name : String) (request : Json) (f : Json → Json) (server : Server) :
    Response × Server :=
  match server.store.find? (keyOf k ns name) with
  | none => (notFound k name, server)
  | some stored =>
    if server.strict && isOutdated stored request then (conflict k name, server)
    else
      let (object, server) := server.write (keyOf k ns name) (f stored)
      (answer 200 object, server)

def mergeStatus (patch object : Json) : Json :=
  match patch.get? "status" with
  | some status => object.set "status" (((object.get? "status").getD .null).mergePatch status)
  | none => object

def respond (server : Server) : Request → Response × Server
  | .list k ns =>
    (answer 200 (.object
      [("apiVersion", .string k.apiVersion), ("items", .array (server.store.objects k.name ns)),
        ("kind", .string (k.name ++ "List")),
        ("metadata", .object [("resourceVersion", .string (toString server.version))])]), server)
  | .get k ns name =>
    match server.store.find? (keyOf k ns name) with
    | none => (notFound k name, server)
    | some object => (answer 200 object, server)
  | .create k ns object =>
    let name := Key.nameIn object
    match server.store.find? (keyOf k ns name) with
    | some _ => (alreadyExists k name, server)
    | none =>
      let (object, server) := server.write (keyOf k ns name) object
      (answer 201 object, server)
  | .replace k ns name object => server.update k ns name object fun _ => object
  | .patch k ns name patch => server.update k ns name patch (·.mergePatch patch)
  | .patchStatus k ns name patch => server.update k ns name patch (mergeStatus patch)
  | .delete k ns name =>
    match server.store.find? (keyOf k ns name) with
    | none => (notFound k name, server)
    | some object =>
      if hasFinalizers object then
        let marked := object.setAt ["metadata", "deletionTimestamp"] deletionTime
        let (object, server) := server.write (keyOf k ns name) marked
        (answer 200 object, server)
      else (success, { server with store := server.store.erase (keyOf k ns name) })

end Server

end GrafanaInstall.Http
