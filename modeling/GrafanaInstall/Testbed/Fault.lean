import GrafanaInstall.Http.Message

/-!
# Faults

What can be made to go wrong between the operator and a testbed. A fault lets some
matching calls pass, and then fires for some. Faults are asked in the order they were armed in.
-/

namespace GrafanaInstall.Testbed

structure Armed (φ : Type) where
  fault : φ
  /-- How many matching calls still pass. -/
  skip : Nat := 0
  /-- How often it will still fire. -/
  times : Nat := 1

/-- The first fault that is due for a call, with the faults as they stand after the call. -/
def fire (hits : φ → Bool) : List (Armed φ) → Option φ × List (Armed φ)
  | [] => (none, [])
  | armed :: rest =>
    if armed.times = 0 || !hits armed.fault then
      let (due, rest) := fire hits rest
      (due, armed :: rest)
    else if 0 < armed.skip then
      let (due, rest) := fire hits rest
      (due, { armed with skip := armed.skip - 1 } :: rest)
    else (some armed.fault, { armed with times := armed.times - 1 } :: rest)

/-! ## Calls -/

/-- What a call asks for, without its arguments. -/
inductive CallSort where
  | list (k : Kind)
  | apply (k : Kind)
  | delete (k : Kind)
  | patchStatus
  | addFinalizer
  | removeFinalizer
  deriving DecidableEq

def CallSort.of : Call → CallSort
  | .list k _ => .list k
  | .apply k _ => .apply k
  | .delete k _ _ => .delete k
  | .patchStatus .. => .patchStatus
  | .addFinalizer .. => .addFinalizer
  | .removeFinalizer .. => .removeFinalizer

structure CallFault where
  /-- The calls it is for. Without them it never fires. -/
  sort : Option CallSort
  /-- Cancels the run. -/
  cancels : Bool := false
  /-- Cancels the run and never answers. -/
  hangs : Bool := false
  error : Option Error := none

def CallFault.hits (call : Call) (fault : CallFault) : Bool :=
  fault.sort = some (CallSort.of call)

/-! ## Requests -/

inductive RequestEffect where
  /-- Cancels the run and never answers. -/
  | hangs
  | lost (text : String)
  | answered (response : Http.Response)

structure RequestFault where
  method : String
  /-- How the path must end, if that matters. -/
  pathEnd : Option String := none
  effect : RequestEffect

def RequestFault.hits (request : Http.Request) (fault : RequestFault) : Bool :=
  fault.method = request.method &&
    (fault.pathEnd.getD "").toList.isSuffixOf request.path.toList

end GrafanaInstall.Testbed
