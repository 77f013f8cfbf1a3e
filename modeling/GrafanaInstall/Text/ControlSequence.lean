/-!
# Control sequences

An escape character starts a sequence that tells a terminal what to do. Here a text is cleared of
such sequences and of single controls, so that only what a terminal would show is left.
-/

namespace GrafanaInstall.Text.ControlSequence

inductive State where
  | outside
  | escape
  /-- After a blank or a mark that an escape character was followed by. -/
  | intermediate
  /-- In the numbers of a sequence that ends with a letter. -/
  | parameters
  /-- In a command to the terminal, which a bell may end. -/
  | command
  /-- In a text for the terminal, which only another escape character ends. -/
  | string
  deriving DecidableEq

def isLayout (c : Char) : Bool :=
  c = '\t' || c = '\n' || c = '\x0c' || c = '\r'

/-- The state in which a character after an escape character leaves the reader. -/
def afterEscape (c : Char) : State :=
  if c = '[' then .parameters
  else if c = ']' then .command
  else if c = 'P' || c = 'X' || c = '^' || c = '_' then .string
  else if ' ' ≤ c ∧ c < '0' then .intermediate
  else if '0' ≤ c ∧ c ≤ '~' then .outside
  else .escape

/-- The next state and whether the character is shown. Layout breaks off a short sequence. -/
def step (state : State) (c : Char) : State × Bool :=
  if c = '\x1b' then (.escape, false)
  else if c = '\x18' || c = '\x1a' then (.outside, false)
  else
    match state with
    | .command => (if c = '\x07' then .outside else .command, false)
    | .string => (.string, false)
    | .outside => (.outside, isLayout c || (' ' ≤ c && c ≠ '\x7f'))
    | state =>
      if isLayout c then (.outside, true)
      else if c < ' ' then (state, false)
      else
        match state with
        | .escape => (afterEscape c, false)
        | .intermediate => (if '0' ≤ c ∧ c ≤ '~' then .outside else state, false)
        | _ => (if '@' ≤ c ∧ c ≤ '~' then .outside else state, false)

def strip (state : State) : List Char → List Char
  | [] => []
  | c :: rest =>
    let (state, shown) := step state c
    if shown then c :: strip state rest else strip state rest

end GrafanaInstall.Text.ControlSequence
