/-!
# Double precision

A natural number in double precision keeps 53 binary digits, rounded to the nearest such number, and to
the even one of two that are equally near. A number `m · 10 ^ e` is worked out as the product of its two
factors in double precision, and lies in range when that product does not round to infinity.
-/

namespace RelyingParty.Json
set_option autoImplicit false

/-- The binary digits that double precision keeps. -/
def precision : Nat := 53

/-- The place value of the last binary digit of `n` that double precision keeps. -/
def lastPlace (n : Nat) : Nat := Nat.pow 2 (Nat.log2 n + 1 - precision)

/-- The multiple of `unit` nearest to `n`, the even one when two are equally near. -/
def nearestMultiple (unit n : Nat) : Nat :=
  let below := n / unit
  if 2 * (n % unit) < unit ∨ 2 * (n % unit) = unit ∧ below % 2 = 0 then below * unit
  else (below + 1) * unit

/-- A natural number in double precision. -/
def inDouble (n : Nat) : Nat := nearestMultiple (lastPlace n) n

/-- The least number that rounds to infinity. -/
def doubleLimit : Nat := Nat.pow 2 1024 - Nat.pow 2 970

/-- The largest exponent of a power of ten in range. -/
def maxPower : Nat := 308

/-- Whether `m · 10 ^ e` lies in range. Dividing by a power of ten never leaves it. -/
def inRange (m e : Int) : Bool :=
  if m = 0 ∨ e < 0 then true
  else if maxPower < e then false
  else decide (inDouble m.natAbs * inDouble (Nat.pow 10 e.toNat) < doubleLimit)

end RelyingParty.Json
