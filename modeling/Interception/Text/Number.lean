import Interception.Text.Blank

/-!
Decimal and hexadecimal integers as settings and messages write them. A
reader stops at the first character that decides: a digit that no longer
fits the limit is refused before a later character is looked at.
-/

namespace Interception.Text

inductive NumberError
  | empty
  | badDigit
  | tooLarge
  deriving DecidableEq, Repr

def NumberError.message : NumberError → String
  | .empty => "cannot parse integer from empty string"
  | .badDigit => "invalid digit found in string"
  | .tooLarge => "number too large to fit in target type"

def digitValue? (c : Char) : Option Nat :=
  if '0' ≤ c ∧ c ≤ '9' then some (c.toNat - 48) else none

/-- Reads on from the value of the digits seen. -/
def readDigits (limit : Nat) : Nat → List Char → Except NumberError Nat
  | value, [] => .ok value
  | value, c :: rest =>
      match digitValue? c with
      | none => .error .badDigit
      | some digit =>
          if value * 10 + digit ≤ limit then readDigits limit (value * 10 + digit) rest
          else .error .tooLarge

/-- An unsigned integer up to `limit`, with one leading plus sign allowed. -/
def readNat (limit : Nat) (text : String) : Except NumberError Nat :=
  match text.toList with
  | [] => .error .empty
  | ['+'] => .error .badDigit
  | '+' :: digits => readDigits limit 0 digits
  | digits => readDigits limit 0 digits

def limit8 : Nat := 255
def limit32 : Nat := 4294967295
def limit64 : Nat := 18446744073709551615

def hexDigits (value : Nat) : String :=
  String.ofList (Nat.toDigits 16 value)

def hex (value : Nat) : String :=
  "0x" ++ hexDigits value

/-- Hexadecimal with at least two digits. -/
def hexByte (value : Nat) : String :=
  if value < 16 then "0x0" ++ hexDigits value else hex value

end Interception.Text
