import GrafanaInstall.Error
import GrafanaInstall.Event
import GrafanaInstall.Program
import GrafanaInstall.Resource.Kind

/-!
# The cluster

The calls by which the operator sees and changes the cluster, and what each gives back. A call
either returns or is interrupted: it may never be answered at all, and then the run that made it
goes on only once it is cancelled.
-/

namespace GrafanaInstall

inductive Call where
  | list (k : Kind) (ns : String)
  /-- Creates the object, or overwrites the content of the one that is there. -/
  | apply (k : Kind) (desired : Object k)
  | delete (k : Kind) (ns name : String)
  | patchStatus (ns name : String) (status : ObservabilityStatus)
  /-- Adds a finalizer to an observability that does not carry it. -/
  | addFinalizer (ns name finalizer : String)
  | removeFinalizer (ns name finalizer : String)

inductive ApplyResult where
  | created
  | updated
  | unchanged
  deriving DecidableEq

def ApplyResult.text : ApplyResult → String
  | .created => "created"
  | .updated => "updated"
  | .unchanged => "unchanged"

@[reducible] def Call.Result : Call → Type
  | .list k _ => List (Object k)
  | .apply .. => ApplyResult
  | .delete .. | .patchStatus .. | .addFinalizer .. | .removeFinalizer .. => Unit

inductive Halt where
  | failed (error : Error)
  | interrupted
  deriving DecidableEq

/-- A program whose steps may fail or be interrupted. -/
abbrev Task (I : Interface) := ExceptT Halt (Program I)

namespace Task

def fail (error : Error) : Task I α := throw (.failed error)

/-- Goes on after an error of a certain sort. -/
def recover (task : Task I α) (handle : Error → Option (Task I α)) : Task I α :=
  tryCatch task fun
    | .failed error => (handle error).getD (fail error)
    | .interrupted => throw .interrupted

end Task

/-! ## Surroundings of the operator -/

inductive Cluster.Request where
  | call (call : Call)
  | log (event : Event)
  | cancelled

@[reducible] def Cluster.Reply : Cluster.Request → Type
  | .call call => Except Halt call.Result
  | .log _ => Unit
  | .cancelled => Bool

def Cluster : Interface := ⟨Cluster.Request, Cluster.Reply⟩

/-- A setting in which a run can be cancelled and watched. -/
class Supervised (m : Type → Type) where
  cancelled : m Bool
  log : Event → m Unit

instance : Supervised (Program Cluster) where
  cancelled := Program.send (I := Cluster) .cancelled
  log event := Program.send (I := Cluster) (.log event)

namespace Cluster

def call (c : Call) : Task Cluster c.Result :=
  ExceptT.mk (Program.send (I := Cluster) (.call c))

def log (level : Level) (message : String) (fields : List (String × Json)) : Task Cluster Unit :=
  ExceptT.lift (Supervised.log ⟨level, message, fields⟩)

def list (k : Kind) (ns : String) : Task Cluster (List (Object k)) :=
  call (.list k ns)

def apply (desired : Object k) : Task Cluster ApplyResult :=
  call (.apply k desired)

def delete (k : Kind) (ns name : String) : Task Cluster Unit :=
  call (.delete k ns name)

/-- Deletes an object and tells whether it was there. -/
def deleteIfPresent (k : Kind) (ns name : String) : Task Cluster Bool :=
  Task.recover (do delete k ns name; return true) fun error =>
    if error.isNotFound then some (return false) else none

end Cluster

end GrafanaInstall
