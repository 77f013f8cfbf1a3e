import GrafanaInstall.CommandLine.Opt
import GrafanaInstall.Text.Number

/-!
# Usage

What the command line says about itself: its help, its version, and why it does not take some
arguments.
-/

namespace GrafanaInstall.CommandLine

open Text (Styled NumberError)

def program : String := "observability-operator"

abbrev Environment := String → Option String

/-! ## Usage lines -/

def usageLine (arguments : List Styled) : Styled :=
  .heading "Usage:" ++ .plain " " ++ .literal program ++
    .join (arguments.map (.plain " " ++ ·)) ++ .plain "\n"

def usage (used : List Opt) : Styled :=
  usageLine (if used.isEmpty then [.plain "[OPTIONS]"] else used.map Opt.styled)

def anySetting : Styled :=
  .plain ("<" ++ "|".intercalate (Opt.settings.map Opt.shown) ++ ">")

def usageBeside (o : Opt) : Styled :=
  usageLine (if Opt.settings.contains o then [anySetting] else [o.styled, anySetting])

/-! ## Errors -/

inductive UsageError where
  /-- The options are those that a similar spelling would have used. -/
  | unknown (argument : String) (similar : Option Opt) (used : List Opt)
  | valueMissing (o : Opt)
  /-- The option may stand beside others. -/
  | valueUnexpected (o : Opt) (value : String) (beside : Bool)
  | repeated (o : Opt)
  | invalidNumber (o : Opt) (value : String) (cause : NumberError)
  deriving DecidableEq

def tip (o : Opt) : Styled :=
  .plain "  " ++ .valid "tip:" ++ .plain " a similar argument exists: '" ++
    .valid ("--" ++ o.long) ++ .plain "'\n\n"

namespace UsageError

def message : UsageError → Styled
  | .unknown argument similar used =>
    .plain "unexpected argument '" ++ .invalid argument ++ .plain "' found\n\n" ++
      .join (similar.map tip).toList ++ usage used
  | .valueMissing o =>
    .plain "a value is required for '" ++ .invalid o.shown ++
      .plain "' but none was supplied\n"
  | .valueUnexpected o value beside =>
    .plain "unexpected value '" ++ .invalid value ++ .plain "' for '" ++ .literal o.shown ++
      .plain "' found; no more were expected\n\n" ++
      if beside then usageBeside o else usage [o]
  | .repeated o =>
    .plain "the argument '" ++ .invalid o.shown ++
      .plain "' cannot be used multiple times\n\n" ++ usage []
  | .invalidNumber o value cause =>
    .plain "invalid value '" ++ .invalid value ++ .plain "' for '" ++ .literal o.shown ++
      .plain ("': " ++ cause.message ++ "\n")

/-- The message with a word on where to find help. -/
def report (error : UsageError) : Styled :=
  .error "error:" ++ .plain " " ++ error.message ++ .plain "\nFor more information, try '" ++
    .literal "--help" ++ .plain "'.\n"

end UsageError

/-! ## Help -/

/-- Puts all lines but the first where the text of an option stands. -/
def indented (text : String) : String :=
  text.replace "\n" "\n          "

def optionHelp (env : Environment) (o : Opt) : Styled :=
  let short : Styled := match o.short with
    | some c => .literal ("-" ++ String.ofList [c]) ++ .plain ", "
    | none => .plain "    "
  let fallback :=
    (o.fallback.map fun (name, value) =>
      " [env: " ++ name ++ "=" ++ (env name).getD "" ++ "] [default: " ++ value ++ "]").getD ""
  .plain "  " ++ short ++ o.styled ++
    .plain ("\n          " ++ indented (o.about ++ fallback) ++ "\n")

def help (env : Environment) : Styled :=
  .plain ("Controller host that drives Observability resources through the grafana " ++
      "installation stages\n\n") ++
    usage [] ++ .plain "\n" ++ .heading "Options:" ++ .plain "\n" ++
    .join (Opt.all.map (optionHelp env))

def version : Styled := .plain (program ++ " 0.1.0\n")

end GrafanaInstall.CommandLine
