import RelyingParty.Calendar.InstantText

/-!
# Validity intervals

The half-open interval in which a value applies. A missing start means that it always did, a missing
end that it still does. An interval is ordered when its start is not after its end.
-/

namespace RelyingParty
set_option autoImplicit false
open Calendar

/-- The interval from `from?`, included, to `to?`, excluded. -/
structure Validity where
  from? : Option Instant
  to? : Option Instant
deriving DecidableEq

/-- An interval that ends before it starts. -/
structure ReversedInterval where
  start : Option Instant
  stop : Option Instant

/-- The wording of a reversed interval. -/
def ReversedInterval.message (e : ReversedInterval) : String :=
  "Invalid validity interval: " ++ (e.start.map Instant.messageText).getD "" ++ " is after "
    ++ (e.stop.map Instant.messageText).getD ""

namespace Validity

/-- The start is not after the end, where both are given. -/
def Ordered (v : Validity) : Prop :=
  ∀ f ∈ v.from?, ∀ t ∈ v.to?, f ≤ t

/-- Whether the start is not after the end. -/
def isOrdered (v : Validity) : Bool :=
  match v.from?, v.to? with
  | some f, some t => decide (f ≤ t)
  | _, _ => true

/-- The interval between two optional ends, when they are ordered. -/
def new (start stop : Option Instant) : Except ReversedInterval Validity :=
  let v : Validity := ⟨start, stop⟩
  if v.isOrdered then .ok v else .error ⟨start, stop⟩

/-- The interval between two ends, when they are ordered. -/
def between (start stop : Instant) : Except ReversedInterval Validity :=
  new (some start) (some stop)

/-- The interval from an instant on. -/
def since (start : Instant) : Validity := ⟨some start, none⟩

/-- The interval without ends. -/
def unbounded : Validity := ⟨none, none⟩

/-- Whether an instant lies in the interval. -/
def contains (v : Validity) (t : Instant) : Bool :=
  v.from?.all (fun f => decide (f ≤ t)) && v.to?.all (fun e => decide (t < e))

end Validity
end RelyingParty
