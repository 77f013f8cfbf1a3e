import GrafanaInstall.CommandLine.Arguments
import GrafanaInstall.Connection
import GrafanaInstall.LogFilter
import GrafanaInstall.Manifest.Definition
import GrafanaInstall.Manifest.Yaml

/-!
# The command line

What a run of the operator prints and with which code it ends, on a machine that is not part of a
cluster.
-/

namespace GrafanaInstall.CommandLine

open Text (Styled)

structure Output where
  code : Nat := 0
  stdout : String := ""
  stderr : String := ""
  deriving DecidableEq

/-- Styles are kept only where that is asked for and not forbidden. -/
def keepsStyles (env : Environment) : Bool :=
  ((env "NO_COLOR").getD "").isEmpty && (env "CLICOLOR_FORCE").getD "0" ≠ "0"

def render (env : Environment) (text : Styled) : String :=
  if keepsStyles env then text.marked else text.unmarked

def answer (env : Environment) (arguments : List String) : Output :=
  match read env arguments with
  | .error .help => { stdout := render env (help env) }
  | .error .version => { stdout := render env version }
  | .error (.wrong error) => { code := 2, stderr := render env error.report }
  | .ok invocation =>
    if invocation.printsDefinition then
      { stdout := Yaml.document Manifest.definition ++ "\n" }
    else { code := 1, stderr := "Error: " ++ Connection.failure env ++ "\n" }

/-- The log is set up before anything else is looked at. -/
def run (env : Environment) (arguments : List String) : Output :=
  let output := answer env arguments
  { output with stderr := LogFilter.warnings ((env "RUST_LOG").getD "") ++ output.stderr }

end GrafanaInstall.CommandLine
