import Interception.Double.Basic

/-!
The shortest decimal that reads back as a given number. Grids of powers of
ten are tried from the coarsest to finer ones; on each the two neighbours of
the number are candidates, and the first grid with a candidate close enough
decides. Of two candidates on it the nearer one is taken, and when both are
equally near, the one that the kind of text asks for.
-/

namespace Interception

/-- `digits` times ten to the `exponent`. -/
structure Decimal where
  digits : Nat
  exponent : Int
  deriving DecidableEq, Repr

namespace Magnitude

/-- Which of two candidates is taken that are equally near. -/
inductive Tie
  | upper
  | even
  deriving DecidableEq, Repr

def Tie.prefersLower (tie : Tie) (lower : Nat) : Bool :=
  tie == .even && lower % 2 == 0

/-- What lies between the halfway points to the neighbours of a magnitude,
counted in quarters of its unit. The halfway points belong to it when its
count of units is even. -/
structure Neighbourhood where
  low : Nat
  centre : Nat
  high : Nat
  closed : Bool

/-- Below a power of two the next magnitude is only half as far away. -/
def neighbourhood (size : Magnitude) : Neighbourhood where
  low := 4 * size.units - (if size.units = Nat.pow 2 52 ∧ lowestPower < size.power then 1 else 2)
  centre := 4 * size.units
  high := 4 * size.units + 2
  closed := size.units % 2 == 0

def Neighbourhood.holds (around : Neighbourhood) (scale value : Nat) : Bool :=
  if around.closed then around.low * scale ≤ value && value ≤ around.high * scale
  else around.low * scale < value && value < around.high * scale

/-- The candidate on the grid of a power of ten. -/
def onGrid? (tie : Tie) (size : Magnitude) (exponent : Int) : Option Decimal :=
  let around := size.neighbourhood
  let (up, down) := twoTo (size.power - 2)
  let scale := up * Nat.pow 10 (-exponent).toNat
  let step := down * Nat.pow 10 exponent.toNat
  let value := around.centre * scale
  let below := value / step
  let fits (digits : Nat) : Bool := around.holds scale (digits * step)
  let lower := fits below
  let upper := fits (below + 1)
  let twice := 2 * (value % step)
  let nearer := twice < step || (twice == step && tie.prefersLower below)
  if lower && (!upper || nearer) then some ⟨below, exponent⟩
  else if upper then some ⟨below + 1, exponent⟩
  else none

/-- Tries grids from a power of ten downward. -/
def search (tie : Tie) (size : Magnitude) : Nat → Int → Decimal
  | 0, exponent => ⟨0, exponent⟩
  | steps + 1, exponent =>
      match onGrid? tie size exponent with
      | some found => found
      | none => search tie size steps (exponent - 1)

/-- A power of ten above a magnitude, by at most three. -/
def topExponent (size : Magnitude) : Int :=
  ((size.units.log2 : Int) + size.power) * 1233 / 4096 + 2

/-- Seventeen digits always suffice. -/
def gridSteps : Nat := 24

def shortest (tie : Tie) (size : Magnitude) : Decimal :=
  if size.units = 0 then ⟨0, 0⟩ else search tie size gridSteps size.topExponent

end Magnitude

namespace Decimal

def zeros (count : Nat) : String := "".pushn '0' count

/-- All places, and no exponent. -/
def plain (decimal : Decimal) : String :=
  let digits := toString decimal.digits
  let places := (-decimal.exponent).toNat
  if places = 0 then
    if decimal.digits = 0 then "0" else digits ++ zeros decimal.exponent.toNat
  else if places < digits.length then
    let split := digits.length - places
    String.ofList (digits.toList.take split) ++ "." ++ String.ofList (digits.toList.drop split)
  else "0." ++ zeros (places - digits.length) ++ digits

end Decimal

/-- The shortest decimal text without an exponent. -/
def Double.text : Double → String
  | .finite negative size => (if negative then "-" else "") ++ (size.shortest .upper).plain
  | .infinite negative => if negative then "-inf" else "inf"
  | .undefined => "NaN"

end Interception
