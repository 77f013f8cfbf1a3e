import GrafanaInstall.Cluster
import GrafanaInstall.Json.Printer
import GrafanaInstall.Json.Reader

/-!
# Messages to and from the server

The requests that the client makes of the API server, and what may come back: an answer, word
that the request was lost, or nothing at all.
-/

namespace GrafanaInstall.Http

/-- The name under which status and finalizers are written. -/
def fieldManager : String := "observability-controller"

inductive Request where
  | list (k : Kind) (ns : String)
  | get (k : Kind) (ns name : String)
  | create (k : Kind) (ns : String) (object : Json)
  | replace (k : Kind) (ns name : String) (object : Json)
  | patch (k : Kind) (ns name : String) (patch : Json)
  | patchStatus (k : Kind) (ns name : String) (patch : Json)
  | delete (k : Kind) (ns name : String)

namespace Request

def method : Request → String
  | .list .. | .get .. => "GET"
  | .create .. => "POST"
  | .replace .. => "PUT"
  | .patch .. | .patchStatus .. => "PATCH"
  | .delete .. => "DELETE"

def collectionPath (k : Kind) (ns : String) : String :=
  (if k = .configMap then "/api/" else "/apis/") ++ k.apiVersion ++ "/namespaces/" ++ ns ++ "/" ++
    k.plural

def objectPath (k : Kind) (ns name : String) : String :=
  collectionPath k ns ++ "/" ++ name

/-- The address as the client writes it. A name is put in as it is. -/
def address : Request → String
  | .list k ns | .create k ns _ => collectionPath k ns ++ "?"
  | .get k ns name => objectPath k ns name
  | .replace k ns name _ | .delete k ns name => objectPath k ns name ++ "?"
  | .patch k ns name _ => objectPath k ns name ++ "?&fieldManager=" ++ fieldManager
  | .patchStatus k ns name _ => objectPath k ns name ++ "/status?&fieldManager=" ++ fieldManager

def path (request : Request) : String :=
  String.ofList (Uri.path request.address.toList)

/-- The query, less the mark that joins its first part to nothing. -/
def query (request : Request) : String :=
  match Uri.query request.address.toList with
  | '&' :: rest => String.ofList rest
  | text => String.ofList text

/-- A delete leaves the removal of what the object owns to the server. -/
def body : Request → Option Json
  | .list .. | .get .. => none
  | .create _ _ object | .replace _ _ _ object => some object
  | .patch _ _ _ change | .patchStatus _ _ _ change => some change
  | .delete .. => some (.object [("propagationPolicy", .string "Background")])

/-- How the body of a patch is to be understood. -/
def contentType : Request → Option String
  | .patch .. | .patchStatus .. => some "application/merge-patch+json"
  | _ => none

/-! ### As the server reads it -/

/-- The name that the rest of a path leads to, and whether it leads on to the status. -/
def route (rest : List Char) : String × Bool :=
  let path := Uri.path rest
  let name := path.takeWhile (· ≠ '/')
  let part := ((path.dropWhile (· ≠ '/')).drop 1).takeWhile (· ≠ '/')
  (String.ofList name, part = "status".toList)

/-- The request that the address stands for. It is another one if a name holds a character that
parts an address. -/
def received : Request → Request
  | .list k ns => .list k ns
  | .create k ns object => .create k ns object
  | .get k ns name => .get k ns (route name.toList).1
  | .replace k ns name object => .replace k ns (route name.toList).1 object
  | .delete k ns name => .delete k ns (route name.toList).1
  | .patch k ns name change => patchAt k ns (route name.toList) change
  | .patchStatus k ns name change =>
    patchAt k ns (route (name.toList ++ "/status".toList)) change
where
  patchAt (k : Kind) (ns : String) (target : String × Bool) (change : Json) : Request :=
    if target.2 then .patchStatus k ns target.1 change else .patch k ns target.1 change

/-- A name in which nothing parts an address is read as it was written. -/
theorem route_of_plain (name : List Char) (h : ∀ c ∈ name, c ≠ '/' ∧ Uri.endsPath c = false) :
    route name = (String.ofList name, false) := by
  have whole : Uri.path name = name := by
    unfold Uri.path
    induction name <;> simp_all
  have first : name.takeWhile (· ≠ '/') = name ∧ name.dropWhile (· ≠ '/') = [] := by
    clear whole
    induction name <;> simp_all
  simp only [route, whole, first]
  rfl

end Request

/-- What an answer carries. A text need not be JSON. -/
inductive Body where
  | json (value : Json)
  | text (text : String)

namespace Body

def json? : Body → Option Json
  | .json value => some value
  | .text written => Json.ofText? written

def asText : Body → String
  | .json value => value.text
  | .text written => written

end Body

structure Response where
  status : Nat
  body : Body

inductive Delivery where
  | answered (response : Response)
  | lost (text : String)
  | silent

/-! ## Surroundings of the client -/

inductive Ask where
  | send (request : Request)
  | log (event : Event)

@[reducible] def Ask.Reply : Ask → Type
  | .send _ => Delivery
  | .log _ => Unit

end GrafanaInstall.Http

namespace GrafanaInstall

def Http : Interface := ⟨Http.Ask, Http.Ask.Reply⟩

end GrafanaInstall
