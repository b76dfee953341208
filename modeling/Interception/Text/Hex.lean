import Interception.Text.Number

/-!
Bytes as hexadecimal text, two digits each.
-/

namespace Interception.Text

def hexValue? (c : Char) : Option Nat :=
  if '0' ≤ c ∧ c ≤ '9' then some (c.toNat - 48)
  else if 'a' ≤ c ∧ c ≤ 'f' then some (c.toNat - 87)
  else if 'A' ≤ c ∧ c ≤ 'F' then some (c.toNat - 55)
  else none

def hexPair (byte : UInt8) : List Char :=
  if byte < 16 then '0' :: Nat.toDigits 16 byte.toNat else Nat.toDigits 16 byte.toNat

def hexText (bytes : List UInt8) : String :=
  String.ofList (bytes.flatMap hexPair)

def readHexPairs : List Char → Option (List UInt8)
  | [] => some []
  | [_] => none
  | high :: low :: rest => do
      let value := (← hexValue? high) * 16 + (← hexValue? low)
      return UInt8.ofNat value :: (← readHexPairs rest)

def hexBytes? (text : String) : Option (List UInt8) :=
  readHexPairs text.toList

end Interception.Text
