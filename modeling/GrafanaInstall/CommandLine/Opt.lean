import GrafanaInstall.Controller
import GrafanaInstall.Text.Styled

/-!
# Options

The options of the command line, what stands in for one that is not given, and how each is
written in messages.
-/

namespace GrafanaInstall.CommandLine

inductive Opt where
  | crd
  | registry
  | defaultVersion
  | requeueSecs
  | help
  | version
  deriving DecidableEq

namespace Opt

def all : List Opt := [.crd, .registry, .defaultVersion, .requeueSecs, .help, .version]

/-- The options that set something. The others only ask for information. -/
def settings : List Opt := [.crd, .registry, .defaultVersion, .requeueSecs]

def long : Opt → String
  | .crd => "crd"
  | .registry => "registry"
  | .defaultVersion => "default-version"
  | .requeueSecs => "requeue-secs"
  | .help => "help"
  | .version => "version"

def short : Opt → Option Char
  | .help => some 'h'
  | .version => some 'V'
  | _ => none

/-- The name of the value, for an option that takes one. -/
def valueName : Opt → Option String
  | .registry => some "REGISTRY"
  | .defaultVersion => some "DEFAULT_VERSION"
  | .requeueSecs => some "REQUEUE_SECS"
  | _ => none

/-- The environment variable that stands in for the option, and the value without either. -/
def fallback : Opt → Option (String × String)
  | .registry => some ("GRAFANA_OPERATOR_REGISTRY", ({} : InstallConfig).registry)
  | .defaultVersion => some ("GRAFANA_OPERATOR_VERSION", ({} : InstallConfig).defaultVersion)
  | .requeueSecs =>
    some ("OBSERVABILITY_REQUEUE_SECS", toString ({} : Controller.Settings).requeueSeconds)
  | _ => none

def about : Opt → String
  | .crd => "Print the Observability CRD manifest and exit"
  | .registry => "Registry hosting the grafana operator index image"
  | .defaultVersion => "Grafana operator version for resources that do not pin one"
  | .requeueSecs => "Seconds between reconciles of the same resource"
  | .help => "Print help"
  | .version => "Print version"

/-- What follows the name where the option is shown. -/
def placeholder (o : Opt) : String :=
  (o.valueName.map fun name => " <" ++ name ++ ">").getD ""

def shown (o : Opt) : String := "--" ++ o.long ++ o.placeholder

def styled (o : Opt) : Text.Styled := .literal ("--" ++ o.long) ++ .plain o.placeholder

end Opt

end GrafanaInstall.CommandLine
