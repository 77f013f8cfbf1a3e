import GrafanaInstall.Json.Decimal
import GrafanaInstall.Json.Value

/-!
# Reading JSON text

A text is read without a judgement on what it means: an object keeps its entries in the order of
the text, a key may come again, and a part without a value is marked as such, also one that lies
too deep. Each reader takes the characters that are left and gives back what it read with the rest.
The readers that call each other count down a budget of steps, which `ofText?` sets above twice the
length of the text. Of two steps in a row one takes a character, so the budget never runs out.
-/

namespace GrafanaInstall.Json.Reader

def isBlank (c : Char) : Bool :=
  c = ' ' || c = '\n' || c = '\r' || c = '\t'

def skipBlanks (text : List Char) : List Char :=
  text.dropWhile isBlank

/-! ## Strings -/

def hexDigit? (c : Char) : Option Nat :=
  if c.isDigit then some (c.toNat - '0'.toNat)
  else if 'a' ≤ c ∧ c ≤ 'f' then some (c.toNat - 'a'.toNat + 10)
  else if 'A' ≤ c ∧ c ≤ 'F' then some (c.toNat - 'A'.toNat + 10)
  else none

def hexUnit? (a b c d : Char) : Option Nat := do
  return ((← hexDigit? a) * 16 + (← hexDigit? b)) * 256 + (← hexDigit? c) * 16 + (← hexDigit? d)

def escaped? : Char → Option Char
  | '"' => some '"'
  | '\\' => some '\\'
  | '/' => some '/'
  | 'b' => some '\x08'
  | 'f' => some '\x0c'
  | 'n' => some '\n'
  | 'r' => some '\r'
  | 't' => some '\t'
  | _ => none

def isHighSurrogate (unit : Nat) : Bool := 0xd800 ≤ unit && unit < 0xdc00

def isLowSurrogate (unit : Nat) : Bool := 0xdc00 ≤ unit && unit < 0xe000

/-- The characters of some code points, with each surrogate pair joined. Half a pair is none. -/
def characters? : List Nat → Option (List Char)
  | [] => some []
  | high :: low :: rest =>
    if isHighSurrogate high && isLowSurrogate low then
      let code := 0x10000 + (high - 0xd800) * 0x400 + (low - 0xdc00)
      (characters? rest).map (Char.ofNat code :: ·)
    else if isHighSurrogate high || isLowSurrogate high then none
    else (characters? (low :: rest)).map (Char.ofNat high :: ·)
  | [code] =>
    if isHighSurrogate code || isLowSurrogate code then none else some [Char.ofNat code]

/-- Reads the code points up to the closing quote. -/
def codes? (read : List Nat) : List Char → Option (List Nat × List Char)
  | '"' :: rest => some (read.reverse, rest)
  | '\\' :: 'u' :: a :: b :: c :: d :: rest =>
    match hexUnit? a b c d with
    | some unit => codes? (unit :: read) rest
    | none => none
  | '\\' :: c :: rest =>
    match escaped? c with
    | some meant => codes? (meant.toNat :: read) rest
    | none => none
  | ['\\'] | [] => none
  | c :: rest => if c.toNat < 0x20 then none else codes? (c.toNat :: read) rest

/-- A string after its opening quote, which need not be one of characters. -/
def string? (text : List Char) : Option (Option String × List Char) :=
  (codes? [] text).map fun (codes, rest) => ((characters? codes).map String.ofList, rest)

/-! ## Numbers -/

/-- The digits before the point. Only a lone zero starts with a zero. -/
def whole? (text : List Char) : Option (List Char × List Char) :=
  match text.takeWhile Char.isDigit with
  | [] => none
  | ['0'] => some (['0'], text.drop 1)
  | '0' :: _ => none
  | digits => some (digits, text.dropWhile Char.isDigit)

def fraction? : List Char → Option (List Char × List Char)
  | '.' :: rest =>
    match rest.takeWhile Char.isDigit with
    | [] => none
    | digits => some ('.' :: digits, rest.dropWhile Char.isDigit)
  | text => some ([], text)

def exponentDigits? (lead : List Char) (text : List Char) : Option (List Char × List Char) :=
  match text.takeWhile Char.isDigit with
  | [] => none
  | digits => some (lead ++ digits, text.dropWhile Char.isDigit)

def exponent? : List Char → Option (List Char × List Char)
  | e :: sign :: rest =>
    if e = 'e' ∨ e = 'E' then
      if sign = '+' ∨ sign = '-' then exponentDigits? [e, sign] rest
      else exponentDigits? [e] (sign :: rest)
    else some ([], e :: sign :: rest)
  | [e] => if e = 'e' ∨ e = 'E' then none else some ([], [e])
  | [] => some ([], [])

def power : List Char → Int
  | _ :: '-' :: digits => -Nat.ofDigitChars 10 digits 0
  | _ :: '+' :: digits | _ :: digits => Nat.ofDigitChars 10 digits 0
  | [] => 0

def decimal (sign whole fraction exponent : List Char) : Json :=
  match Decimal.ofDigits? whole (fraction.drop 1) (power exponent) with
  | some magnitude => .decimal (String.ofList sign ++ Decimal.text magnitude)
  | none => .unreadable

/-- A whole number is read by value if it fits 64 bits, with or without a sign. -/
def ofLiteral (sign whole fraction exponent : List Char) : Json :=
  let size := Nat.ofDigitChars 10 whole 0
  if fraction ≠ [] ∨ exponent ≠ [] then decimal sign whole fraction exponent
  else if sign = [] ∧ size < UInt64.size then .int size
  else if sign ≠ [] ∧ 0 < size ∧ Int64.minValue.toInt ≤ -size then .int (-size)
  else decimal sign whole fraction exponent

def number? (text : List Char) : Option (Json × List Char) := do
  let (sign, unsigned) := match text with
    | '-' :: rest => (['-'], rest)
    | _ => ([], text)
  let (whole, rest) ← whole? unsigned
  let (fraction, rest) ← fraction? rest
  let (exponent, rest) ← exponent? rest
  return (ofLiteral sign whole fraction exponent, rest)

/-! ## Values -/

/-- An object keeps all its entries as they come, unless one of the keys cannot be read. -/
def ofEntries (entries : List (Option String × Json)) : Json :=
  match entries.mapM fun (key, value) => key.map (·, value) with
  | some entries => .object entries
  | none => .unreadable

/-- An array or an object, where there may still be one. -/
def nested (depth : Nat) (value : Json) : Json :=
  if depth = 0 then .unreadable else value

mutual

/-- One value, in which arrays and objects may lie in one another down to a depth. -/
def value? (budget depth : Nat) (text : List Char) : Option (Json × List Char) :=
  match budget with
  | 0 => none
  | budget + 1 =>
    match skipBlanks text with
    | 'n' :: 'u' :: 'l' :: 'l' :: rest => some (.null, rest)
    | 't' :: 'r' :: 'u' :: 'e' :: rest => some (.bool true, rest)
    | 'f' :: 'a' :: 'l' :: 's' :: 'e' :: rest => some (.bool false, rest)
    | '"' :: rest =>
      (string? rest).map fun (value, rest) => ((value.map .string).getD .unreadable, rest)
    | '[' :: rest =>
      match skipBlanks rest with
      | ']' :: rest => some (nested depth (.array []), rest)
      | _ =>
        (items? budget (depth - 1) rest).map fun (items, rest) =>
          (nested depth (.array items), rest)
    | '{' :: rest =>
      match skipBlanks rest with
      | '}' :: rest => some (nested depth (.object []), rest)
      | _ =>
        (entries? budget (depth - 1) rest).map fun (entries, rest) =>
          (nested depth (ofEntries entries), rest)
    | text => number? text

/-- One item or more, up to the closing bracket. -/
def items? (budget depth : Nat) (text : List Char) : Option (List Json × List Char) :=
  match budget with
  | 0 => none
  | budget + 1 => do
    let (item, rest) ← value? budget depth text
    match skipBlanks rest with
    | ',' :: rest =>
      let (items, rest) ← items? budget depth rest
      return (item :: items, rest)
    | ']' :: rest => return ([item], rest)
    | _ => none

/-- One entry or more, up to the closing brace. -/
def entries? (budget depth : Nat) (text : List Char) :
    Option (List (Option String × Json) × List Char) :=
  match budget with
  | 0 => none
  | budget + 1 =>
    match skipBlanks text with
    | '"' :: rest => do
      let (key, rest) ← string? rest
      match skipBlanks rest with
      | ':' :: rest =>
        let (value, rest) ← value? budget depth rest
        match skipBlanks rest with
        | ',' :: rest =>
          let (entries, rest) ← entries? budget depth rest
          return ((key, value) :: entries, rest)
        | '}' :: rest => return ([(key, value)], rest)
        | _ => none
      | _ => none
    | _ => none

end

end GrafanaInstall.Json.Reader

namespace GrafanaInstall.Json

/-- What a text holds, if the whole text is JSON. -/
def ofText? (text : String) : Option Json :=
  let characters := text.toList
  match Reader.value? (2 * characters.length + 1) deepest characters with
  | some (value, rest) => if (Reader.skipBlanks rest).isEmpty then some value else none
  | none => none

end GrafanaInstall.Json
