import GrafanaInstall.Text.Alphanumeric
import GrafanaInstall.Text.Blank
import GrafanaInstall.Text.Number

/-!
# Log filters

A filter says which events are logged, by directives between commas. A directive names a level,
or a target with a span, its fields and a level, as in `target[span{field=value}]=level`. One that
is not well formed is passed over.
-/

namespace GrafanaInstall.LogFilter

inductive DirectiveError where
  | malformed
  | unknownLevel
  deriving DecidableEq

def DirectiveError.message : DirectiveError → String
  | .malformed => "invalid filter directive"
  | .unknownLevel =>
    "error parsing level filter: expected one of \"off\", \"error\", \"warn\", " ++
      "\"info\", \"debug\", \"trace\", or a number 0-5"

inductive State where
  | start
  | word
  | span
  /-- A field, of which something has been read or nothing yet. -/
  | field (begun : Bool)
  | afterField
  | afterSpan
  deriving DecidableEq

def beginsWord (c : Char) : Bool :=
  c = '-' || c = ':' || c = '_' || Text.isAlphanumeric c

/-- The part that a character leads to, or nothing if it may not stand there. -/
def State.step? (state : State) (c : Char) : Option State :=
  match state with
  | .start => if c = '[' then some .span else if beginsWord c then some .word else none
  | .word => some (if c = '[' then .span else .word)
  | .span => some (if c = ']' then .afterSpan else if c = '\x7b' then .field false else .span)
  | .field begun =>
    if c = '\x7d' then if begun then some .afterField else none else some (.field true)
  | .afterField => if c = ']' then some .afterSpan else none
  | .afterSpan => none

def State.mayEnd (state : State) : Bool := state = .word || state = .afterSpan

/-- Reads up to the level, and gives the place where it begins if there is one. -/
def levelStart (state : State) (place : Nat) : List Char → Except DirectiveError (Option Nat)
  | [] => if state.mayEnd then .ok none else .error .malformed
  | c :: rest =>
    if c = '=' && state.mayEnd then .ok (some (place + 1))
    else
      match state.step? c with
      | some state => levelStart state (place + 1) rest
      | none => .error .malformed

/-- A level is empty, a number up to five, or a word in letters of either case. -/
def isLevel (text : String) : Bool :=
  match Text.readNumber UInt64.size text with
  | .ok n => n ≤ 5
  | .error _ =>
    ["", "off", "error", "warn", "info", "debug", "trace"].contains (text.map Char.toLower)

def trim (text : List Char) : List Char :=
  ((text.dropWhile Text.isSpace).reverse.dropWhile Text.isSpace).reverse

/-- Blanks around a directive are skipped. But the level is taken from the directive with its
blanks, at the place where it begins without them. -/
def check (directive : String) : Except DirectiveError Unit := do
  match ← levelStart .start 0 (trim directive.toList) with
  | none => return ()
  | some place =>
    if isLevel (String.ofList (directive.toList.drop place)) then return ()
    else throw .unknownLevel

def warnings (filter : String) : String :=
  String.join (((filter.splitOn ",").filter (· ≠ "")).map fun directive =>
    match check directive with
    | .ok _ => ""
    | .error error => "ignoring `" ++ directive ++ "`: " ++ error.message ++ "\n")

end GrafanaInstall.LogFilter
