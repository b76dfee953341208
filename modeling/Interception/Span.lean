/-!
Spans of time: whole seconds and the nanoseconds beyond them. A span reaches as
far as 64 bits of seconds, so a product may have no span. Spans of the settings
are given and shown in milliseconds.
-/

namespace Interception

structure Span where
  seconds : UInt64
  nanos : Fin 1000000000
  deriving DecidableEq, Repr

namespace Span

def ofMillis (millis : Nat) : Span :=
  ⟨UInt64.ofNat (millis / 1000), Fin.ofNat _ (millis % 1000 * 1000000)⟩

/-- Whole milliseconds. -/
def millis (span : Span) : Nat :=
  span.seconds.toNat * 1000 + span.nanos / 1000000

instance : Zero Span := ⟨⟨0, 0⟩⟩

instance : Coe Nat Span := ⟨ofMillis⟩

instance : ToString Span := ⟨fun span => toString span.millis⟩

/-! ### Order -/

/-- Seconds come first, nanoseconds decide between equal seconds. -/
instance : LT Span where
  lt left right :=
    left.seconds < right.seconds ∨ left.seconds = right.seconds ∧ left.nanos < right.nanos

instance (left right : Span) : Decidable (left < right) :=
  inferInstanceAs
    (Decidable (left.seconds < right.seconds ∨
      left.seconds = right.seconds ∧ left.nanos < right.nanos))

instance : Min Span where
  min left right := if right < left then right else left

/-! ### Products -/

/-- A number as a word of 64 bits, if it fits one. -/
def word? (value : Nat) : Option UInt64 :=
  if value < UInt64.size then some (UInt64.ofNat value) else none

/-- A span taken a number of times. Nanoseconds that make whole seconds are
carried over to them. -/
def times? (span : Span) (factor : UInt32) : Option Span := do
  -- Both numbers stay below 2 ^ 32, so 64 bits hold their product.
  let nanos := UInt64.ofNat span.nanos * factor.toUInt64
  let product ← word? (span.seconds.toNat * factor.toNat)
  let seconds ← word? (product.toNat + (nanos / 1000000000).toNat)
  return ⟨seconds, Fin.ofNat _ (nanos % 1000000000).toNat⟩

end Span

end Interception
