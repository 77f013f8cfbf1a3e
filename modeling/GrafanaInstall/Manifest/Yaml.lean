import GrafanaInstall.Json.Printer
import GrafanaInstall.Json.Reader

/-!
# YAML text

Writes a value as YAML in block style. A text is written plain where it can be taken for nothing
else, else in single quotes. One of several lines is written as a block, and one with controls
in double quotes.
-/

namespace GrafanaInstall.Yaml

/-! ## Texts -/

def isPrintable (c : Char) : Bool :=
  c = '\n' || (' ' ≤ c && c ≤ '~') || c.toNat = 0x85 ||
    (0xa0 ≤ c.toNat && c.toNat ≠ 0xfeff)

/-- Whether a text starts like something other than a text. -/
def startsMarked : List Char → Bool
  | [] => true
  | [c] => "-?:,[]\x7b\x7d#&*!|>'\"%@\x60 ".toList.contains c
  | c :: d :: _ =>
    ",[]\x7b\x7d#&*!|>'\"%@\x60 ".toList.contains c ||
      ("-?:".toList.contains c && (d = ' ' || d = '\n'))

/-- A colon before a blank ends a key, and a number sign after one starts a comment. -/
def holdsMark : List Char → Bool
  | ':' :: rest => rest.head?.all (fun c => c = ' ' || c = '\n') || holdsMark rest
  | ' ' :: '#' :: _ => true
  | _ :: rest => holdsMark rest
  | [] => false

/-- Texts that would be read back as another kind of value. -/
def looksTyped (text : String) : Bool :=
  ["~", "Null", "NULL", "True", "TRUE", "False", "FALSE"].contains text ||
    match Json.ofText? text with
    | some (.string _) | some (.array _) | some (.object _) | none => false
    | some _ => true

def isPlain (text : String) : Bool :=
  let characters := text.toList
  !startsMarked characters && characters.getLast? ≠ some ' ' && !holdsMark characters &&
    !(["---", "..."].any fun mark => mark.toList.isPrefixOf characters) && !looksTyped text

def doubleQuotedChar (c : Char) : List Char :=
  match c with
  | '"' => ['\\', '"']
  | '\\' => ['\\', '\\']
  | '\n' => ['\\', 'n']
  | '\t' => ['\\', 't']
  | '\r' => ['\\', 'r']
  | '\x00' => ['\\', '0']
  | c =>
    if isPrintable c then [c]
    else ['\\', 'u'] ++ [12, 8, 4, 0].map fun shift =>
      Json.Printer.hexDigit ((c.toNat >>> shift) % 16)

def doubleQuoted (text : String) : String :=
  "\"" ++ String.ofList (text.toList.flatMap doubleQuotedChar) ++ "\""

def singleQuoted (text : String) : String :=
  "'" ++ String.ofList (text.toList.flatMap fun c => if c = '\'' then [c, c] else [c]) ++ "'"

/-! ## Values -/

inductive Layout where
  /-- Stands on the line of its key. -/
  | inline (text : String)
  /-- The mark stands on the line of the key, and the lines follow further in. -/
  | block (mark : String) (lines : List String)
  | mapping (lines : List String)
  | sequence (lines : List String)

def indent (lines : List String) : List String :=
  lines.map fun line => if line = "" then line else "  " ++ line

def textLayout (text : String) : Layout :=
  let characters := text.toList
  if !characters.all isPrintable then .inline (doubleQuoted text)
  else if characters.contains '\n' then
    if characters.getLast? = some '\n' || characters.head? = some ' ' then
      .inline (doubleQuoted text)
    else .block "|-" (text.splitOn "\n")
  else if isPlain text then .inline text
  else .inline (singleQuoted text)

def entryLines (key : String) : Layout → List String
  | .inline text => [key ++ ": " ++ text]
  | .block mark lines => (key ++ ": " ++ mark) :: indent lines
  | .mapping lines => (key ++ ":") :: indent lines
  | .sequence lines => (key ++ ":") :: lines

def itemLines : Layout → List String
  | .inline text => ["- " ++ text]
  | .block mark lines => ("- " ++ mark) :: indent lines
  | .mapping lines | .sequence lines =>
    match lines with
    | [] => []
    | line :: rest => ("- " ++ line) :: indent rest

mutual

def layout : Json → Layout
  | .array [] => .inline "[]"
  | .object [] => .inline "\x7b\x7d"
  | .array items => .sequence (sequenceLines items)
  | .object entries => .mapping (mappingLines entries)
  | .string text => textLayout text
  | value => .inline value.text

def sequenceLines : List Json → List String
  | [] => []
  | item :: rest => itemLines (layout item) ++ sequenceLines rest

def mappingLines : List (String × Json) → List String
  | [] => []
  | (key, value) :: rest =>
    let key := if isPlain key then key else singleQuoted key
    entryLines key (layout value) ++ mappingLines rest

end

def document (value : Json) : String :=
  let lines :=
    match layout value with
    | .inline text => [text]
    | .block mark lines => mark :: indent lines
    | .mapping lines | .sequence lines => lines
  String.join (lines.map (· ++ "\n"))

end GrafanaInstall.Yaml
