import GrafanaInstall.Json

/-!
# Pointers

A pointer names a part of a value by keys and positions, each after a slash. In a key `~1`
stands for a slash and `~0` for a tilde.
-/

namespace GrafanaInstall.Json

def unescapeKey : List Char → List Char
  | '~' :: '1' :: rest => '/' :: unescapeKey rest
  | '~' :: '0' :: rest => '~' :: unescapeKey rest
  | c :: rest => c :: unescapeKey rest
  | [] => []

/-- A position is written in digits, without a sign or leading zeros. -/
def position? (key : String) : Option Nat :=
  match key.toList with
  | ['0'] => some 0
  | '0' :: _ | [] => none
  | digits =>
    if digits.all Char.isDigit then some (Nat.ofDigitChars 10 digits 0) else none

def child? (value : Json) (key : String) : Option Json :=
  match value with
  | .object entries => entries.lookup key
  | .array items => (position? key).bind (items[·]?)
  | _ => none

/-- The part a pointer names, if there is one. The empty pointer names the whole value. -/
def pointer? (value : Json) (pointer : String) : Option Json :=
  match pointer.splitOn "/" with
  | "" :: keys =>
    keys.foldlM (fun part key => part.child? (String.ofList (unescapeKey key.toList))) value
  | _ => none

end GrafanaInstall.Json
