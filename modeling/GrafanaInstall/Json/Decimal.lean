import GrafanaInstall.Floating

/-!
# Decimal numbers

A number that is not a whole one of 64 bits is held as a floating point number. It is read in two
roundings, one of the digits and one of the power of ten, and written with as few digits as tell it
from all others.
-/

namespace GrafanaInstall.Json.Decimal

open Floating (limit places nearest spare product quotient)

def tenTo (power : Nat) : Nat := Nat.pow 10 power

/-! ## Reading -/

/-- The largest power of ten that is applied at once. -/
def largestPower : Nat := 308

/-- Divides by a power of ten. Nothing is left of 64 bits beyond two steps. -/
def shrink (a : Floating) (power : Nat) : Floating :=
  if power ≤ largestPower then quotient a (.ofNat (tenTo power))
  else if power ≤ 2 * largestPower then
    quotient (quotient a (.ofNat (tenTo largestPower))) (.ofNat (tenTo (power - largestPower)))
  else 0

/-- Multiplies a number of 64 bits by a power of ten, if the product is not too large. -/
def scaled? (n : Nat) (power : Int) : Option Floating :=
  if power < 0 then some (shrink (.ofNat n) power.natAbs)
  else if n = 0 then some 0
  else if largestPower < power then none
  else
    let result := product (.ofNat n) (.ofNat (tenTo power.natAbs))
    if result < limit then some result else none

/-- Appends digits to a number as long as it fits 64 bits, and counts them. -/
def append (n count : Nat) : List Char → Nat × Nat
  | [] => (n, count)
  | c :: rest =>
    let next := 10 * n + (c.toNat - '0'.toNat)
    if next < UInt64.size then append next (count + 1) rest else (n, count)

/-- The number with some digits before and after the point, times a power of ten. -/
def ofDigits? (whole fraction : List Char) (power : Int) : Option Floating :=
  let (n, before) := append 0 0 whole
  let (n, after) := append n 0 fraction
  scaled? n (power + whole.length - before - after)

/-! ## Writing -/

/-- A power of ten that makes every floating point number large enough to be cut to its digits. -/
def scale : Nat := 360

/-- How many decimal digits a number has. The logarithm tells all but whether it is one more. -/
def digitCount (n : Nat) : Nat :=
  let low := n.log2 * 30102 / 100000
  if n < tenTo (low + 1) then low + 1 else low + 2

structure Candidate where
  number : Nat
  power : Int

/-- Whether a candidate stands for a floating point number: it lies no farther away than half way to
the next ones. Half way counts if the last bit is zero. -/
def Candidate.standsFor (candidate : Candidate) (a : Floating) : Bool :=
  let low := spare a
  let below := if 0 < low ∧ a = 1 <<< a.log2 then 1 else 2
  let value := (4 * candidate.number * tenTo (candidate.power + scale).toNat) <<< places
  let least := (4 * a - (below <<< low)) * tenTo scale
  let greatest := (4 * a + (2 <<< low)) * tenTo scale
  if (a >>> low) % 2 = 0 then least ≤ value && value ≤ greatest
  else least < value && value < greatest

/-- The candidate of so many digits that is next to a floating point number, and the one above. -/
def candidates (a : Floating) (size count : Nat) : List Candidate :=
  let number := nearest (a * tenTo scale) ((tenTo (size - count)) <<< places)
  let power : Int := (size - count : Nat) - (scale : Int)
  [⟨number, power⟩, ⟨number + 1, power⟩]

/-- The candidate with the fewest digits. Seventeen are always enough. -/
def shortest (a : Floating) : Candidate :=
  let size := digitCount ((a * tenTo scale) >>> places)
  let found := (List.range 17).findSome? fun i =>
    (candidates a size (i + 1)).find? (·.standsFor a)
  found.getD ⟨0, 0⟩

def zeros (count : Nat) : List Char := List.replicate count '0'

/-- Digits with the point at a place. Numbers that are very large or small have an exponent. -/
def layout (digits : List Char) (point : Int) : List Char :=
  let count : Int := digits.length
  let front := point.toNat
  if count ≤ point ∧ point ≤ 16 then digits ++ zeros (point - count).toNat ++ ['.', '0']
  else if 0 < point ∧ point ≤ 16 then digits.take front ++ '.' :: digits.drop front
  else if -5 < point ∧ point ≤ 0 then '0' :: '.' :: zeros point.natAbs ++ digits
  else
    let fraction := if digits.length ≤ 1 then [] else '.' :: digits.drop 1
    digits.take 1 ++ fraction ++ 'e' :: (toString (point - 1)).toList

def text (a : Floating) : String :=
  if a = 0 then "0.0"
  else
    let ⟨number, power⟩ := shortest a
    let written := (toString number).toList
    let digits := (written.reverse.dropWhile (· = '0')).reverse
    String.ofList (layout digits (power + written.length))

end GrafanaInstall.Json.Decimal
