/-!
Identifiers drawn from a wrapping counter. Zero is never handed out, and a
value still in use is skipped. A search needs at most two tries more than
there are values to skip: one for zero and one for the answer.
-/

namespace Interception.Identifier

variable {Id : Type} [DecidableEq Id] [Add Id] [OfNat Id 0] [OfNat Id 1]

/-- The first free value within the given number of tries, and the counter
after it. -/
def search (live : List Id) : Nat → Id → Option (Id × Id)
  | 0, _ => none
  | tries + 1, counter =>
      if counter ≠ 0 ∧ counter ∉ live then some (counter, counter + 1)
      else search live tries (counter + 1)

/-- A fresh identifier and the next counter. Zero says that none is free. -/
def allocate (live : List Id) (counter : Id) : Id × Id :=
  (search live (live.length + 2) counter).getD (0, counter)

end Interception.Identifier
