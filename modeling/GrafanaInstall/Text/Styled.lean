import GrafanaInstall.Text.ControlSequence

/-!
# Styled text

Text in parts, each with a style. It is written with control sequences that switch the style on
and off, or as plain text. What the parts hold may bring control sequences of its own, so plain
text is what is left of the written form without any.
-/

namespace GrafanaInstall.Text

inductive Style where
  | plain
  | heading
  | literal
  | valid
  | invalid
  | error
  deriving DecidableEq

def Style.mark : Style → String
  | .plain => ""
  | .heading => "\x1b[1m\x1b[4m"
  | .literal => "\x1b[1m"
  | .valid => "\x1b[32m"
  | .invalid => "\x1b[33m"
  | .error => "\x1b[1m\x1b[31m"

structure Part where
  style : Style
  text : String
  deriving DecidableEq

def Part.marked (part : Part) : String :=
  if part.style = .plain then part.text else part.style.mark ++ part.text ++ "\x1b[0m"

structure Styled where
  parts : List Part
  deriving DecidableEq

namespace Styled

instance : Append Styled := ⟨fun a b => ⟨a.parts ++ b.parts⟩⟩

def join (texts : List Styled) : Styled := ⟨texts.flatMap parts⟩

def plain (text : String) : Styled := ⟨[⟨.plain, text⟩]⟩

def heading (text : String) : Styled := ⟨[⟨.heading, text⟩]⟩

def literal (text : String) : Styled := ⟨[⟨.literal, text⟩]⟩

def valid (text : String) : Styled := ⟨[⟨.valid, text⟩]⟩

def invalid (text : String) : Styled := ⟨[⟨.invalid, text⟩]⟩

def error (text : String) : Styled := ⟨[⟨.error, text⟩]⟩

def marked (styled : Styled) : String :=
  String.join (styled.parts.map Part.marked)

def unmarked (styled : Styled) : String :=
  String.ofList (ControlSequence.strip .outside styled.marked.toList)

end Styled

end GrafanaInstall.Text
