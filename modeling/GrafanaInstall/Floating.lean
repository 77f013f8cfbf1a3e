/-!
# Floating point numbers

Binary numbers of 53 bits without a sign. Each is a multiple of the smallest one above zero, and an
operation rounds its exact result once.
-/

namespace GrafanaInstall

/-- How often the smallest number above zero is counted. -/
abbrev Floating := Nat

namespace Floating

/-- How many binary places after the point the smallest number has. -/
def places : Nat := 1074

/-- All numbers stay below this one. -/
def limit : Floating := 1 <<< (places + 1024)

/-! ## Rounding -/

/-- The whole number next to a quotient. Of two the even one is taken. -/
def nearest (a b : Nat) : Nat :=
  let twice := 2 * (a % b)
  if twice < b ∨ (twice = b ∧ a / b % 2 = 0) then a / b else a / b + 1

/-- How many places of a whole number lie below its first 53 bits. -/
def spare (n : Nat) : Nat := n.log2 - 52

def round (a b : Nat) : Floating :=
  let low := spare (a / b)
  nearest a (b <<< low) <<< low

/-! ## Operations -/

def ofNat (n : Nat) : Floating := round (n <<< places) 1

def sum (a b : Floating) : Floating := round (a + b) 1

def product (a b : Floating) : Floating := round (a * b) (1 <<< places)

def quotient (a b : Floating) : Floating := round (a <<< places) b

/-! ## Lemmas -/

end Floating

end GrafanaInstall
