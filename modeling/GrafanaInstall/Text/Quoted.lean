import GrafanaInstall.Text.Invisible

/-!
# Quoted text

A text between double quotes, as messages and log fields show it. Quotes, backslashes and the
usual controls are escaped by a letter. Other invisible characters are shown by their number.
-/

namespace GrafanaInstall.Text

/-- Lower case, without leading zeros. -/
def hexDigits (n : Nat) : List Char :=
  Nat.toDigits 16 n

def quotedChar (c : Char) : List Char :=
  match c with
  | '"' => ['\\', '"']
  | '\\' => ['\\', '\\']
  | '\n' => ['\\', 'n']
  | '\r' => ['\\', 'r']
  | '\t' => ['\\', 't']
  | '\x00' => ['\\', '0']
  | c =>
    if isInvisible c then ['\\', 'u', '\x7b'] ++ hexDigits c.toNat ++ ['\x7d'] else [c]

def quoted (text : String) : String :=
  "\"" ++ String.ofList (text.toList.flatMap quotedChar) ++ "\""

end GrafanaInstall.Text
