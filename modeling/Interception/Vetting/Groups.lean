import Interception.Text.Number
import Interception.Vetting.Routing

/-!
Vetting groups a client belongs to, one bit for each of the eight groups.
A client without any group is not admitted.
-/

namespace Interception.Vetting

structure GroupMask where
  bits : UInt8
  deriving DecidableEq, Repr

namespace GroupMask

def ofBits? (bits : UInt8) : Option GroupMask :=
  if bits = 0 then none else some ⟨bits⟩

def contains (mask : GroupMask) (group : Nat) : Bool :=
  group < groupCount && mask.bits.toNat.testBit group

def groups (mask : GroupMask) : List Nat :=
  (List.range groupCount).filter mask.contains

end GroupMask

end Interception.Vetting
