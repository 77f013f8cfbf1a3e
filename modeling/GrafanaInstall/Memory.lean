import GrafanaInstall.Cluster
import GrafanaInstall.Store

/-!
# A cluster in memory

Answers each call from a store, at once and without any other writer. An object that is not of
its kind makes the call fail.
-/

namespace GrafanaInstall.Memory

def keyOf (k : Kind) (ns name : String) : Key := ⟨k.name, ns, name⟩

def malformed (k : Kind) : Error := .serialization k.name "malformed object"

def read (k : Kind) (object : Json) : Except Error (Object k) :=
  match Object.read? k object with
  | some o => .ok o
  | none => .error (malformed k)

def list (k : Kind) (ns : String) (store : Store) : Except Error (List (Object k)) :=
  (store.objects k.name ns).mapM (read k)

def apply (desired : Object k) (store : Store) : Except Error ApplyResult × Store :=
  let key := keyOf k (desired.metadata.ns.getD "") desired.anyName
  match store.find? key with
  | none => (.ok .created, store.put key desired.json)
  | some object =>
    match read k object with
    | .error error => (.error error, store)
    | .ok observed =>
      match observed.mutatedIfChanged (Object.overwrite desired) with
      | none => (.ok .unchanged, store)
      | some changed => (.ok .updated, store.put key changed.json)

def delete (k : Kind) (ns name : String) (store : Store) : Except Error Unit × Store :=
  match store.find? (keyOf k ns name) with
  | none => (.error (.notFound k.name ns name), store)
  | some _ => (.ok (), store.erase (keyOf k ns name))

def change (ns name : String) (f : Json → Json) (store : Store) : Except Error Unit × Store :=
  let key := keyOf .observability ns name
  match store.find? key with
  | none => (.error (.notFound key.kind ns name), store)
  | some object => (.ok (), store.put key (f object))

/-! ## Finalizers -/

def finalizers (object : Json) : List Json :=
  ((object.at? ["metadata", "finalizers"]).bind Json.items?).getD []

def withFinalizers (object : Json) (finalizers : List Json) : Json :=
  object.setAt ["metadata", "finalizers"] (.array finalizers)

def addFinalizer (finalizer : String) (object : Json) : Json :=
  let present := finalizers object
  withFinalizers object
    (if present.contains (.string finalizer) then present else present ++ [.string finalizer])

def removeFinalizer (finalizer : String) (object : Json) : Json :=
  withFinalizers object ((finalizers object).filter (· ≠ .string finalizer))

/-! ## Calls -/

def answer : (call : Call) → Store → Except Error call.Result × Store
  | .list k ns, store => (list k ns store, store)
  | .apply _ desired, store => apply desired store
  | .delete k ns name, store => delete k ns name store
  | .patchStatus ns name status, store =>
    change ns name (·.set "status" (ObservabilityStatus.codec.write status)) store
  | .addFinalizer ns name finalizer, store => change ns name (addFinalizer finalizer) store
  | .removeFinalizer ns name finalizer, store => change ns name (removeFinalizer finalizer) store

end GrafanaInstall.Memory
