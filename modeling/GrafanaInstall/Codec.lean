import GrafanaInstall.Instant
import GrafanaInstall.Json.Value

/-!
# Codecs

A codec reads a typed value from JSON and writes it back. A record is described once, by its
list of fields, and each field says what it makes of null, of an absent entry, and of a list that
ends before it.
-/

namespace GrafanaInstall

structure Codec (α : Type) where
  read : Json → Option α
  write : α → Json

namespace Codec

def string : Codec String where
  read := Json.string?
  write := .string

def bool : Codec Bool where
  read
    | .bool value => some value
    | _ => none
  write := .bool

def int32 : Codec Int32 where
  read
    | .int n =>
      if Int32.minValue.toInt ≤ n ∧ n ≤ Int32.maxValue.toInt then some (.ofInt n) else none
    | _ => none
  write n := .int n.toInt

def int64 : Codec Int64 where
  read
    | .int n =>
      if Int64.minValue.toInt ≤ n ∧ n ≤ Int64.maxValue.toInt then some (.ofInt n) else none
    | _ => none
  write n := .int n.toInt

def uint16 : Codec UInt16 where
  read
    | .int n => if 0 ≤ n ∧ n.toNat < UInt16.size then some (.ofNat n.toNat) else none
    | _ => none
  write n := .int n.toNat

def uint32 : Codec UInt32 where
  read
    | .int n => if 0 ≤ n ∧ n.toNat < UInt32.size then some (.ofNat n.toNat) else none
    | _ => none
  write n := .int n.toNat

def instant : Codec Instant where
  read value := value.string?.bind Instant.ofText?
  write i := .string i.text

/-- A value that is taken over as it is. -/
def plain : Codec Json.Plain where
  read := Json.plain?
  write := Json.Plain.json

/-- One of a few words, alone or as the only key of an object, over null. -/
def word (words : List (String × α)) (spell : α → String) : Codec α where
  read
    | .string text | .object [(text, .null)] => words.lookup text
    | _ => none
  write a := .string (spell a)

def list (item : Codec α) : Codec (List α) where
  read value := value.items?.bind (·.mapM item.read)
  write items := .array (items.map item.write)

/-- Entries under any keys, in the order of the keys. Of two with one key the later counts, but
both must be readable. -/
def map (entry : Codec α) : Codec (Dictionary α) where
  read
    | .object entries => do
      let values ← entries.mapM fun (key, value) => (entry.read value).map (key, ·)
      return .ofEntries values
    | _ => none
  write dictionary := .object (dictionary.entries.map fun (key, a) => (key, entry.write a))

/-- Writes some texts into the object besides. They are never looked at. -/
def stamped (codec : Codec α) (stamps : List (String × String)) : Codec α where
  read := codec.read
  write a := stamps.foldl (fun value (key, text) => value.set key (.string text)) (codec.write a)

end Codec

/-! ## Fields -/

structure Field (α : Type) where
  name : String
  read : Json → Option α
  /-- What an object without the entry means, if it may be left out. -/
  absent : Option α
  /-- What a list that ends before the field means, if it may end there. -/
  beyond : Option α
  /-- Nothing where the entry is left out. -/
  write : α → Option Json

namespace Field

def required (name : String) (codec : Codec α) : Field α where
  name
  read := codec.read
  absent := none
  beyond := none
  write a := some (codec.write a)

/-- Absent and null both mean that there is no value. -/
def optional (name : String) (codec : Codec α) : Field (Option α) where
  name
  read
    | .null => some none
    | value => (codec.read value).map some
  absent := some none
  beyond := some none
  write a := a.map codec.write

/-- Absent means the default. Null is refused unless the codec reads it. -/
def defaulted (name : String) (codec : Codec α) (default : α) : Field α where
  name
  read := codec.read
  absent := some default
  beyond := some default
  write a := some (codec.write a)

/-- Absent and null both mean the default. -/
def nullable (name : String) (codec : Codec α) (default : α) : Field α where
  name
  read
    | .null => some default
    | value => codec.read value
  absent := some default
  beyond := some default
  write a := some (codec.write a)

/-- A list that is left out when it is empty. -/
def nonempty (name : String) (item : Codec α) : Field (List α) where
  name
  read := item.list.read
  absent := some []
  beyond := some []
  write
    | [] => none
    | items => some (item.list.write items)

/-- A text that is always written, and that must agree where it is given. -/
def tag (name text : String) : Field Unit where
  name
  read value := if value = .string text then some () else none
  absent := some ()
  beyond := some ()
  write _ := some (.string text)

end Field

/-! ## Records -/

/-- What is made of an object that holds an entry of one name more than once. -/
inductive Repetition where
  | refused
  /-- Each must be readable. -/
  | lastCounts
  deriving DecidableEq

namespace Field

def readEntries (field : Field α) (repetition : Repetition) (entries : List (String × Json)) :
    Option α :=
  match (entries.filter (·.1 = field.name)).map Prod.snd with
  | [] => field.absent
  | [value] => field.read value
  | values =>
    match repetition with
    | .refused => none
    | .lastCounts => (values.mapM field.read).bind List.getLast?

def readItems (field : Field α) : List Json → Option (α × List Json)
  | [] => field.beyond.map (·, [])
  | value :: rest => (field.read value).map (·, rest)

end Field

/-- The fields of a record, in the order in which a list gives them. -/
structure Fields (α : Type) where
  readEntries : Repetition → List (String × Json) → Option α
  readItems : List Json → Option (α × List Json)
  write : α → List (String × Json)

namespace Fields

def none : Fields Unit where
  readEntries _ _ := some ()
  readItems items := some ((), items)
  write _ := []

def cons (field : Field α) (rest : Fields β) : Fields (α × β) where
  readEntries repetition entries := do
    let a ← field.readEntries repetition entries
    let b ← rest.readEntries repetition entries
    return (a, b)
  readItems items := do
    let (a, items) ← field.readItems items
    let (b, items) ← rest.readItems items
    return ((a, b), items)
  write | (a, b) => ((field.write a).map (field.name, ·)).toList ++ rest.write b

/-- The same fields for a type of the same content. -/
def as (fields : Fields α) (make : α → β) (parts : β → α) : Fields β where
  readEntries repetition entries := (fields.readEntries repetition entries).map make
  readItems items := (fields.readItems items).map fun (a, rest) => (make a, rest)
  write b := fields.write (parts b)

/-- Reads an object that names no field twice, or the values of the fields as a list. Entries that
are no fields are passed over. -/
def record (fields : Fields α) : Codec α where
  read
    | .object entries => fields.readEntries .refused entries
    | .array items =>
      match fields.readItems items with
      | some (a, []) => some a
      | _ => .none
    | _ => .none
  write a := .ofEntries (fields.write a)

/-- Reads an object. The last entry of each name counts, and entries that are no fields are passed
over. -/
def mapping (fields : Fields α) : Codec α where
  read
    | .object entries => fields.readEntries .lastCounts entries
    | _ => .none
  write a := .ofEntries (fields.write a)

end Fields

end GrafanaInstall
