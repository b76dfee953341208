/-!
Numbers of double precision. A finite one is a whole count of units, fewer
than 2^53, where the unit is a power of two; every exact result is rounded to
the nearest of them, and of two that are equally near to the even count.
-/

namespace Interception

/-- `units` times two to the `power`. -/
structure Magnitude where
  units : Nat
  power : Int
  deriving DecidableEq, Repr

inductive Double
  | finite (negative : Bool) (size : Magnitude)
  | infinite (negative : Bool)
  | undefined
  deriving DecidableEq, Repr

namespace Magnitude

def lowestPower : Int := -1074

def highestPower : Int := 971

def zero : Magnitude := ⟨0, lowestPower⟩

/-- Two to a power as a fraction. -/
def twoTo (power : Int) : Nat × Nat := (Nat.pow 2 power.toNat, Nat.pow 2 (-power).toNat)

/-- A fraction rounded to a whole number, a half to an even one. -/
def halfEven (above below : Nat) : Nat :=
  let whole := above / below
  let twice := 2 * (above % below)
  if below < twice ∨ (twice = below ∧ whole % 2 = 1) then whole + 1 else whole

/-- The greatest power of two that a positive fraction reaches. -/
def reach (above below : Nat) : Int :=
  let guess : Int := (above.log2 : Int) - below.log2
  let (up, down) := twoTo guess
  if below * up ≤ above * down then guess else guess - 1

/-- The magnitude nearest to a fraction, if it is not too large. -/
def ofFraction (above below : Nat) : Option Magnitude :=
  if above = 0 then some zero
  else
    let power := max lowestPower (reach above below - 52)
    let (up, down) := twoTo power
    let units := halfEven (above * down) (below * up)
    let size : Magnitude :=
      if units = Nat.pow 2 53 then ⟨Nat.pow 2 52, power + 1⟩ else ⟨units, power⟩
    if highestPower < size.power then none else some size

def ofNat (value : Nat) : Option Magnitude := ofFraction value 1

/-- The size as a fraction. -/
def fraction (size : Magnitude) : Nat × Nat :=
  let (up, down) := twoTo size.power
  (size.units * up, down)

def times (size other : Magnitude) : Option Magnitude :=
  let (above, below) := size.fraction
  let (otherAbove, otherBelow) := other.fraction
  ofFraction (above * otherAbove) (below * otherBelow)

/-- The quotient by a magnitude that is not zero. -/
def dividedBy (size other : Magnitude) : Option Magnitude :=
  let (above, below) := size.fraction
  let (otherAbove, otherBelow) := other.fraction
  ofFraction (above * otherBelow) (below * otherAbove)

/-- The highest power of ten that is no larger than every magnitude. -/
def highestTen : Nat := 308

/-- Steps after which a magnitude below 2^64 has been divided down to zero. -/
def tenSteps : Nat := 4

/-- A magnitude times a power of ten. A power beyond the highest is taken in
several steps, and each step rounds. -/
def scaled : Nat → Magnitude → Int → Option Magnitude
  | 0, _, _ => some zero
  | steps + 1, size, exponent => do
      if exponent.natAbs ≤ highestTen then
        let ten ← ofNat (Nat.pow 10 exponent.natAbs)
        if 0 ≤ exponent then size.times ten else size.dividedBy ten
      else if size.units = 0 then some size
      else if 0 ≤ exponent then none
      else
        let lower ← size.dividedBy (← ofNat (Nat.pow 10 highestTen))
        scaled steps lower (exponent + highestTen)

/-- How far a decimal exponent may lie from the digits it belongs to before
the number is certainly too large, or certainly zero. -/
def farExponent : Int := 400

/-- The magnitude nearest to a number written in decimal, if it is not too
large. -/
def ofDecimal (digits : Nat) (exponent : Int) : Option Magnitude :=
  if digits = 0 then some zero
  else
    let reached := (digits.log2 : Int) / 3 + exponent
    if farExponent < exponent then none
    else if reached < -farExponent then some zero
    else ofFraction (digits * Nat.pow 10 exponent.toNat) (Nat.pow 10 (-exponent).toNat)

/-- The nearest whole number, halves upward. -/
def rounded (size : Magnitude) : Nat :=
  let (above, below) := size.fraction
  (2 * above + below) / (2 * below)

end Magnitude

namespace Double

def ofInt (value : Int) : Double :=
  match Magnitude.ofNat value.natAbs with
  | some size => finite (value < 0) size
  | none => infinite (value < 0)

def isZero : Double → Bool
  | finite _ size => size.units == 0
  | _ => false

/-- The nearest whole number between zero and a limit, halves upward. What is
no number counts as zero. -/
def clamped (limit : Nat) : Double → Nat
  | finite false size => min size.rounded limit
  | infinite false => limit
  | _ => 0

end Double

end Interception
