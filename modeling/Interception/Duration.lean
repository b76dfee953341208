import Interception.Text.Number

/-!
Time spans of the settings, in milliseconds. A number may carry one of four
units; a bare number counts milliseconds.
-/

namespace Interception.Duration

def second : Nat := 1000

/-- A number of units of whole seconds. Seconds are counted in 64 bits: a
product that does not fit starts over from zero. -/
def seconds (unit number : Nat) : Nat :=
  (UInt64.ofNat number * UInt64.ofNat unit).toNat * second

theorem seconds_exact {unit number : Nat} (fits : number * unit < UInt64.size) :
    seconds unit number = number * unit * second := by
  rw [seconds, UInt64.toNat_mul, UInt64.toNat_ofNat', UInt64.toNat_ofNat', ← Nat.mul_mod,
    Nat.mod_eq_of_lt fits]

example : seconds 60 4611686018427387904 = 0 := by decide

/-- Units in the order in which they are tried, so that `ms` is not taken
for `s`. -/
def units : List (String × (Nat → Nat)) :=
  [("ms", id), ("s", seconds 1), ("m", seconds 60), ("h", seconds 3600)]

def parseWith (text : String) : List (String × (Nat → Nat)) → Except Text.NumberError Nat
  | [] => Text.readNat Text.limit64 text
  | (unit, measure) :: rest =>
      match Text.before unit text with
      | some number => (Text.readNat Text.limit64 (Text.trim number)).map measure
      | none => parseWith text rest

def parse (text : String) : Except Text.NumberError Nat :=
  parseWith (Text.trim text) units

end Interception.Duration
