/-!
# Whole numbers

Reads a whole number of at most so many values, and says what is wrong with a text that is none.
-/

namespace GrafanaInstall.Text

inductive NumberError where
  | empty
  | notDigit
  | tooLarge
  deriving DecidableEq

def NumberError.message : NumberError → String
  | .empty => "cannot parse integer from empty string"
  | .notDigit => "invalid digit found in string"
  | .tooLarge => "number too large to fit in target type"

/-- A number below a limit. A plus sign may stand before it. The first character that will not do
decides what is wrong. -/
def readNumber (limit : Nat) (text : String) : Except NumberError Nat :=
  match text.toList with
  | [] => .error .empty
  | ['+'] => .error .notDigit
  | '+' :: digits => digits.foldlM step 0
  | digits => digits.foldlM step 0
where
  step (n : Nat) (c : Char) : Except NumberError Nat :=
    if !c.isDigit then .error .notDigit
    else
      let n := 10 * n + (c.toNat - '0'.toNat)
      if n < limit then .ok n else .error .tooLarge

end GrafanaInstall.Text
