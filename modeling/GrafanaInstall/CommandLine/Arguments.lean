import GrafanaInstall.CommandLine.Usage
import GrafanaInstall.Text.Similarity

/-!
# Arguments

Arguments are taken one by one, and the first that is wrong ends the run. What they leave open is
filled in from the environment.
-/

namespace GrafanaInstall.CommandLine

/-- What the arguments have said so far, in the order in which they said it. -/
structure Given where
  used : List Opt := []
  values : List (Opt × String) := []
  /-- An option that takes a value and has not been looked at yet, with its value if it has got
  one. -/
  pending : Option (Opt × Option String) := none

inductive Stop where
  | help
  | version
  | wrong (error : UsageError)
  deriving DecidableEq

/-! ## Options -/

def checkValue (o : Opt) (value : String) : Except Stop Unit :=
  match o, Text.readNumber UInt64.size value with
  | .requeueSecs, .error cause => .error (.wrong (.invalidNumber o value cause))
  | _, _ => .ok ()

def take (o : Opt) (value : Option String) (given : Given) : Except Stop Given :=
  if o = .help then .error .help
  else if o = .version then .error .version
  else if given.used.contains o then .error (.wrong (.repeated o))
  else do
    if let some value := value then
      checkValue o value
    let values := given.values ++ (value.map fun value => (o, value)).toList
    return { given with used := given.used ++ [o], values }

/-- Takes the pending option. If it has got no value, it will get none any more. -/
def settle (given : Given) : Except Stop Given :=
  match given.pending with
  | none => .ok given
  | some (o, none) => .error (.wrong (.valueMissing o))
  | some (o, some value) => take o value { given with pending := none }

/-- The options that a message names as used. A pending one counts if it has got a value, unless
it is given for the second time. -/
def usedSoFar (given : Given) : List Opt :=
  match given.pending with
  | some (o, some _) =>
    if given.used.contains o then given.used.erase o else given.used ++ [o]
  | _ => given.used

def withOption (o : Opt) (used : List Opt) : List Opt :=
  if used.contains o then used else used ++ [o]

/-! ## Arguments -/

def readLong (name : String) (value : Option String) (given : Given) : Except Stop Given :=
  match Opt.all.find? (·.long = name) with
  | none =>
    let similar := (Text.mostSimilar? name (Opt.all.map Opt.long)).bind fun word =>
      Opt.all.find? (·.long = word)
    let used := usedSoFar given
    .error (.wrong (.unknown ("--" ++ name) similar
      ((similar.map (withOption · used)).getD used)))
  | some o =>
    match o.valueName, value with
    | none, some value => .error (.wrong (.valueUnexpected o value !given.used.isEmpty))
    | none, none => do take o none (← settle given)
    | some _, some value => do take o value (← settle given)
    | some _, none => do return { ← settle given with pending := some (o, none) }

/-- The first letter of a cluster of short options decides. None takes a value. -/
def readShort (letters : List Char) (given : Given) : Except Stop Given :=
  match letters with
  | [] => .ok given
  | c :: _ =>
    match Opt.all.find? (·.short = some c) with
    | some o => do take o none (← settle given)
    | none => .error (.wrong (.unknown (String.ofList ['-', c]) none []))

def splitValue (text : List Char) : String × Option String :=
  match text.dropWhile (· ≠ '=') with
  | [] => (String.ofList text, none)
  | _ :: value => (String.ofList (text.takeWhile (· ≠ '=')), some (String.ofList value))

def readArguments (given : Given) : List String → Except Stop Given
  | [] => settle given
  | argument :: rest =>
    match argument.toList with
    | ['-', '-'] =>
      match rest with
      | [] => settle given
      | extra :: _ => .error (.wrong (.unknown extra none []))
    | '-' :: '-' :: text => do
      let (name, value) := splitValue text
      readArguments (← readLong name value given) rest
    | '-' :: c :: letters => do readArguments (← readShort (c :: letters) given) rest
    | _ =>
      match given.pending with
      | some (o, none) => readArguments { given with pending := some (o, some argument) } rest
      | _ => .error (.wrong (.unknown argument none []))

/-! ## Settings -/

structure Invocation where
  printsDefinition : Bool
  settings : Controller.Settings

/-- The value of an option: what was given, else the environment, else the fallback. -/
def valueOf (given : Given) (env : Environment) (o : Opt) : String :=
  (given.values.lookup o).getD
    ((o.fallback.map fun (name, value) => (env name).getD value).getD "")

def read (env : Environment) (arguments : List String) : Except Stop Invocation := do
  let given ← readArguments {} arguments
  let seconds := valueOf given env .requeueSecs
  checkValue .requeueSecs seconds
  return {
    printsDefinition := given.used.contains .crd
    settings :=
      { config :=
          { registry := valueOf given env .registry
            defaultVersion := valueOf given env .defaultVersion }
        requeueSeconds := (Text.readNumber UInt64.size seconds).toOption.getD 0 } }

end GrafanaInstall.CommandLine
