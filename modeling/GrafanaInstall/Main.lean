import GrafanaInstall.CommandLine

/-!
# The operator as a program

Hands the arguments and the environment to the command line and prints what it says.
-/

open GrafanaInstall

def variableNames : List String :=
  ["RUST_LOG", "NO_COLOR", "CLICOLOR_FORCE", "GRAFANA_OPERATOR_REGISTRY",
    "GRAFANA_OPERATOR_VERSION", "OBSERVABILITY_REQUEUE_SECS", "KUBECONFIG", "HOME",
    "KUBERNETES_SERVICE_HOST", "KUBERNETES_SERVICE_PORT"]

def main (arguments : List String) : IO UInt32 := do
  let values ← variableNames.mapM fun name => do return (name, ← IO.getEnv name)
  let output := CommandLine.run (fun name => (values.lookup name).join) arguments
  IO.print output.stdout
  IO.eprint output.stderr
  return output.code.toUInt32
