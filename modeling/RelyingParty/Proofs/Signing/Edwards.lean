import Mathlib.Data.ZMod.Basic
import Mathlib.Tactic.LinearCombination
import Mathlib.Tactic.Ring
import RelyingParty.Signing.Edwards

/-!
# What is decompressed to a point

The arithmetic on numbers is that of the integers modulo the prime. A root that is found there is one, so bytes
that are decompressed give the coordinates of a point of the curve.
-/

namespace RelyingParty.Signing.Edwards
set_option autoImplicit false

/-- Both coordinates of an affine point satisfy the equation of the curve. -/
def Point.OnCurve (p : Point) : Prop :=
  p.z = 1 ∧ p.y ^ 2 ≡ p.x ^ 2 + 1 + curveConstant * p.x ^ 2 * p.y ^ 2 [MOD prime]

theorem prime_pos : 0 < prime := by decide

theorem cast_negate (a : Nat) : (negate a : ZMod prime) = -a := by
  rw [negate, ZMod.natCast_mod, Nat.cast_sub (Nat.mod_lt a prime_pos).le, ZMod.natCast_mod, ZMod.natCast_self,
    zero_sub]

theorem cast_rootOfMinusOne_sq : (rootOfMinusOne : ZMod prime) ^ 2 = -1 := by
  have square : rootOfMinusOne ^ 2 % prime = negate 1 := by decide +kernel
  rw [← Nat.cast_pow, ← ZMod.natCast_mod, square, cast_negate, Nat.cast_one]

/-- The root is made of a candidate, whichever that is, that passes one of two checks. -/
theorem exists_candidate (u v : Nat) : ∃ c, evenRoot? u v =
    (if v * (c * c % prime) % prime = u % prime then some c
      else if v * (c * c % prime) % prime = negate u then some (c * rootOfMinusOne % prime)
      else none).map fun r => if r % 2 = 1 then negate r else r :=
  ⟨_, rfl⟩

/-- A root of a fraction is one. -/
theorem evenRoot?_sq {u v r : Nat} (found : evenRoot? u v = some r) : (v : ZMod prime) * r ^ 2 = u := by
  obtain ⟨c, candidate⟩ := exists_candidate u v
  rw [candidate] at found
  obtain ⟨root, rooted, rfl⟩ := Option.map_eq_some_iff.1 found
  have checked : ((v * (c * c % prime) % prime : Nat) : ZMod prime) = v * c ^ 2 := by
    rw [ZMod.natCast_mod, Nat.cast_mul, ZMod.natCast_mod, Nat.cast_mul, sq]
  have squared : (v : ZMod prime) * root ^ 2 = u := by
    split at rooted
    · next same =>
      obtain rfl := Option.some.inj rooted
      rw [← checked, same, ZMod.natCast_mod]
    · split at rooted
      · next opposite =>
        obtain rfl := Option.some.inj rooted
        rw [opposite, cast_negate] at checked
        rw [ZMod.natCast_mod, Nat.cast_mul]
        linear_combination (v : ZMod prime) * c ^ 2 * cast_rootOfMinusOne_sq + checked
      · cases rooted
  split
  · rw [cast_negate, neg_sq, squared]
  · exact squared

theorem cast_numerator (y : Nat) : (((y * y % prime + prime - 1) % prime : Nat) : ZMod prime) = y ^ 2 - 1 := by
  have least : 1 ≤ y * y % prime + prime := Nat.le_add_left_of_le prime_pos
  rw [ZMod.natCast_mod, Nat.cast_sub least, Nat.cast_add, ZMod.natCast_self, ZMod.natCast_mod, add_zero, ← sq,
    Nat.cast_pow, Nat.cast_one]

theorem cast_denominator (y : Nat) :
    (((curveConstant * (y * y % prime) + 1) % prime : Nat) : ZMod prime) = curveConstant * y ^ 2 + 1 := by
  rw [ZMod.natCast_mod, Nat.cast_add, Nat.cast_mul, ZMod.natCast_mod, ← sq, Nat.cast_pow, Nat.cast_one]

/-- Bytes are decompressed to points of the curve only. -/
theorem onCurve_of_decode? {bytes : List UInt8} {p : Point} (decoded : Point.decode? bytes = some p) :
    p.OnCurve := by
  unfold Point.decode? at decoded
  obtain ⟨x, root, rfl⟩ := Option.map_eq_some_iff.1 decoded
  refine ⟨rfl, (ZMod.natCast_eq_natCast_iff _ _ _).1 ?_⟩
  have squared := evenRoot?_sq root
  rw [cast_numerator, cast_denominator] at squared
  have sign (n : Nat) : ((if n = 1 then negate x else x : Nat) : ZMod prime) ^ 2 = x ^ 2 := by
    split
    · rw [cast_negate, neg_sq]
    · rfl
  simp only [Point.ofAffine, Nat.cast_add, Nat.cast_mul, Nat.cast_pow, Nat.cast_one, sign]
  linear_combination -squared

/-- Bytes with a point have one on the curve. -/
theorem exists_onCurve {bytes : List UInt8} (valid : (Point.decode? bytes).isSome = true) :
    ∃ p, Point.decode? bytes = some p ∧ p.OnCurve := by
  obtain ⟨p, decoded⟩ := Option.isSome_iff_exists.1 valid
  exact ⟨p, decoded, onCurve_of_decode? decoded⟩

end RelyingParty.Signing.Edwards
