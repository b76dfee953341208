import Interception.Span
import Interception.Text.Number

/-!
Retrying with growing delays. The delay doubles after each failed attempt
until it reaches the cap. A run is described by what it did, calls and sleeps
in their order, and the answer it ended with.
-/

namespace Interception

structure RetryPolicy where
  maxAttempts : Nat
  initialDelay : Span
  maxDelay : Span
  deriving DecidableEq, Repr

namespace RetryPolicy

def standard : RetryPolicy := ⟨5, .ofMillis 100, .ofMillis 30000⟩

/-- A word shifted to the left by fewer places than it has. -/
def shiftLeft? (word : UInt32) (places : Nat) : Option UInt32 :=
  if places < 32 then some (word <<< UInt32.ofNat places) else none

/-- The power of two for an attempt, as far as 32 bits reach. -/
def factor (attempt : Nat) : UInt32 :=
  (shiftLeft? 1 (attempt - 1)).getD (UInt32.ofNat Text.limit32)

/-- The delay after an attempt, attempts being counted from one. -/
def delayAfter (policy : RetryPolicy) (attempt : Nat) : Span :=
  min ((policy.initialDelay.times? (factor attempt)).getD policy.maxDelay) policy.maxDelay

inductive Deed
  | call
  | sleep (delay : Span)
  deriving DecidableEq, Repr

structure Account (Failure Value : Type) where
  deeds : List Deed
  result : Except Failure Value

def Account.calls {Failure Value : Type} (account : Account Failure Value) : Nat :=
  account.deeds.count .call

/-- Attempts on from one with the given number; `outcome n` answers the n-th
call from here on. -/
def runFrom {Failure Value : Type} (policy : RetryPolicy) (attempt : Nat)
    (outcome : Nat → Except Failure Value) : Account Failure Value :=
  match outcome 1 with
  | .ok value => ⟨[.call], .ok value⟩
  | .error failure =>
      if max policy.maxAttempts 1 ≤ attempt then ⟨[.call], .error failure⟩
      else
        let later := runFrom policy (attempt + 1) fun call => outcome (call + 1)
        ⟨.call :: .sleep (policy.delayAfter attempt) :: later.deeds, later.result⟩
termination_by max policy.maxAttempts 1 - attempt

def run {Failure Value : Type} (policy : RetryPolicy) (outcome : Nat → Except Failure Value) :
    Account Failure Value :=
  policy.runFrom 1 outcome

end RetryPolicy

end Interception
