/-!
# The twisted Edwards curve of Ed25519

Points of `-x² + y² = 1 + d x² y²` over the integers modulo `2²⁵⁵ - 19`, in extended coordinates:
`x = X / Z`, `y = Y / Z` and `x y = T / Z`. A point is encoded as its `y` in 255 bits, little-endian,
with the parity of `x` in the bit above.
-/

namespace RelyingParty.Signing.Edwards
set_option autoImplicit false

/-- The prime of the field. -/
def prime : Nat := Nat.pow 2 255 - 19

/-- The order of the base point. -/
def order : Nat := Nat.pow 2 252 + 27742317777372353535851937790883648493

/-- The power `b ^ e` modulo the prime, by the binary digits of the exponent. -/
def power (b e : Nat) : Nat :=
  if e = 0 then 1
  else
    let half := power (b * b % prime) (e / 2)
    if e % 2 = 1 then b * half % prime else half
termination_by e
decreasing_by omega

/-- The inverse of a number modulo the prime; zero has inverse zero. -/
def inverse (a : Nat) : Nat := power a (prime - 2)

/-- The negative of a number modulo the prime. -/
def negate (a : Nat) : Nat := (prime - a % prime) % prime

/-- The constant `d` of the curve. -/
def curveConstant : Nat :=
  37095705934669439343138083508754565189542113879843219016388785533085940283555

/-- A square root of minus one. -/
def rootOfMinusOne : Nat := power 2 ((prime - 1) / 4)

/-- A point in extended coordinates. -/
structure Point where
  x : Nat
  y : Nat
  z : Nat
  t : Nat

/-- The point with the affine coordinates `x` and `y`. -/
def Point.ofAffine (x y : Nat) : Point := ⟨x, y, 1, x * y % prime⟩

/-- The neutral element. -/
def Point.zero : Point := ⟨0, 1, 1, 0⟩

/-- The sum of two points. -/
def Point.add (p q : Point) : Point :=
  let a := (p.y + prime - p.x) * (q.y + prime - q.x) % prime
  let b := (p.y + p.x) * (q.y + q.x) % prime
  let c := 2 * curveConstant * p.t % prime * q.t % prime
  let d := 2 * p.z * q.z % prime
  let e := (b + prime - a) % prime
  let f := (d + prime - c) % prime
  let g := (d + c) % prime
  let h := (b + a) % prime
  ⟨e * f % prime, g * h % prime, f * g % prime, e * h % prime⟩

/-- The negative of a point. -/
def Point.neg (p : Point) : Point :=
  ⟨negate p.x, p.y, p.z, negate p.t⟩

/-- The multiple `n · p`, by the binary digits of `n`. -/
def Point.multiple (p : Point) (n : Nat) : Point :=
  if n = 0 then Point.zero
  else
    let half := (p.add p).multiple (n / 2)
    if n % 2 = 1 then half.add p else half
termination_by n
decreasing_by omega

/-- The number that little-endian bytes write. -/
def ofLittleEndian (bytes : List UInt8) : Nat :=
  bytes.foldr (fun b n => b.toNat + 256 * n) 0

/-- The first `count` little-endian bytes of a number. -/
def littleEndian : (count n : Nat) → List UInt8
  | 0, _ => []
  | count + 1, n => UInt8.ofNat (n % 256) :: littleEndian count (n / 256)

/-- The 32 bytes of a point. -/
def Point.encode (p : Point) : List UInt8 :=
  let i := inverse p.z
  let x := p.x * i % prime
  let y := p.y * i % prime
  littleEndian 32 (y + x % 2 * Nat.pow 2 255)

/-- The even square root of `u / v`, when there is one. -/
def evenRoot? (u v : Nat) : Option Nat :=
  let v3 := v * v % prime * v % prime
  let v7 := v3 * v3 % prime * v % prime
  let r := u * v3 % prime * power (u * v7 % prime) ((prime - 5) / 8) % prime
  let check := v * (r * r % prime) % prime
  let root :=
    if check = u % prime then some r
    else if check = negate u then some (r * rootOfMinusOne % prime)
    else none
  root.map fun r => if r % 2 = 1 then negate r else r

/-- The point that 32 bytes encode. The `y` they give need not be reduced, and a zero `x` may come
with either parity. -/
def Point.decode? (bytes : List UInt8) : Option Point :=
  let n := ofLittleEndian bytes
  let y := n % Nat.pow 2 255 % prime
  let y2 := y * y % prime
  (evenRoot? ((y2 + prime - 1) % prime) ((curveConstant * y2 + 1) % prime)).map fun x =>
    Point.ofAffine (if n / Nat.pow 2 255 % 2 = 1 then negate x else x) y

/-- The base point: `y = 4 / 5` with an even `x`. -/
def base : Point :=
  Point.ofAffine
    15112221349535400772501151409588531511454012693041857206046113283949847762202
    46316835694926478169428394003475163141307993866256225615783033603165251855960

end RelyingParty.Signing.Edwards
