import Mathlib.Algebra.Group.Int.Defs
import RelyingParty.Json.Printer
import RelyingParty.Json.Reader
import RelyingParty.Proofs.Text.Digits

/-!
# Whole numbers read back

A whole number of 64 bits is read back from its digits, when a character follows that belongs to no
number.
-/

namespace RelyingParty.Json
set_option autoImplicit false

/-- What may follow a value: nothing, a blank character, a comma or a closing bracket. -/
def ValueEnd (rest : List Char) : Prop :=
  ∀ c ∈ rest.head?, c ∈ [' ', '\t', '\n', '\r', ',', ']', '\x7d']

namespace ValueEnd

variable {rest : List Char}

theorem noDigit (h : ValueEnd rest) : Text.NoDigit rest := by
  intro c hc
  have := h c hc
  simp only [List.mem_cons, List.not_mem_nil, or_false] at this
  rcases this with rfl | rfl | rfl | rfl | rfl | rfl | rfl <;> decide

theorem fractionDigits? (h : ValueEnd rest) : Json.fractionDigits? rest = some ([], rest) := by
  unfold Json.fractionDigits?
  split
  · exact absurd (h '.' rfl) (by decide)
  · rfl

theorem exponent? (h : ValueEnd rest) : Json.exponent? rest = some (none, rest) := by
  cases rest with
  | nil => rfl
  | cons c cs =>
    have mark : ¬ (c = 'e' ∨ c = 'E') := by
      rintro (rfl | rfl)
      · exact absurd (h 'e' rfl) (by decide)
      · exact absurd (h 'E' rfl) (by decide)
    simp only [Json.exponent?, if_neg mark]

end ValueEnd

theorem le_foldl_digits (n : Nat) (ds : List Char) :
    n ≤ ds.foldl (fun v c => 10 * v + (c.toNat - 48)) n := by
  induction ds generalizing n with
  | nil => exact Nat.le_refl n
  | cons d ds ih =>
    have tail := ih (10 * n + (d.toNat - 48))
    rw [List.foldl_cons]
    omega

/-- Digits whose number fits in 64 bits are all taken. -/
theorem extendNumber_of_fits (n : Nat) (ds : List Char)
    (fits : ds.foldl (fun v c => 10 * v + (c.toNat - 48)) n < 2 ^ 64) :
    extendNumber n ds = (ds.foldl (fun v c => 10 * v + (c.toNat - 48)) n, []) := by
  induction ds generalizing n with
  | nil => rfl
  | cons d ds ih =>
    rw [List.foldl_cons] at fits ⊢
    have longer := le_foldl_digits (10 * n + (d.toNat - 48)) ds
    simp only [extendNumber, Nat.pow_eq]
    rw [if_pos (by omega), ih _ fits]

theorem extendNumber_digits (n : Nat) (fits : n < 2 ^ 64) :
    extendNumber 0 (Text.digits n) = (n, []) := by
  have value := Text.ofDigits_digits n
  rw [Text.ofDigits] at value
  rw [extendNumber_of_fits 0 _ (by rwa [value]), value]

theorem numeral_digits (negative : Bool) (n : Nat) (fits : n < 2 ^ 64)
    (whole : isWhole negative n = true) :
    numeral negative (Text.digits n) [] none = .int (if negative then -n else n) := by
  simp only [numeral, extendNumber_digits n fits, extendNumber, whole, and_self, if_true]

/-- Only one digit can be a leading zero. -/
theorem not_leading_zero (n : Nat) :
    ¬ ((Text.digits n).head? = some '0' ∧ (Text.digits n).length > 1) := by
  rintro ⟨zero, long⟩
  have := Text.digits_head_zero n zero
  subst this
  simp [Text.digits] at long

theorem readMagnitude_digits (negative : Bool) (n : Nat) (fits : n < 2 ^ 64)
    (whole : isWhole negative n = true) {rest : List Char} (stop : ValueEnd rest) :
    readMagnitude negative (Text.digits n ++ rest) =
      some (.int (if negative then -n else n), rest) := by
  simp only [readMagnitude, Text.spanDigits_append (Text.isDigit_of_mem_digits n) stop.noDigit,
    if_neg (Text.digits_ne_nil n), if_neg (not_leading_zero n), stop.fractionDigits?, stop.exponent?,
    Option.bind_eq_bind, Option.bind_some, numeral_digits negative n fits whole]
  rfl

/-- A whole number of 64 bits is read back. -/
theorem readNumber_integerChars (i : Int) (low : -(2 ^ 63) ≤ i) (high : i < 2 ^ 64) {rest : List Char}
    (stop : ValueEnd rest) : readNumber (Text.integerChars i ++ rest) = some (.int i, rest) := by
  cases i with
  | ofNat n =>
    have digit := Text.isDigit_of_mem_digits n
    obtain ⟨d, ds, cons⟩ := List.exists_cons_of_ne_nil (Text.digits_ne_nil n)
    have fits : n < 2 ^ 64 := by rw [Int.ofNat_eq_natCast] at high; omega
    have read := readMagnitude_digits false n fits rfl stop
    simp only [Text.integerChars]
    unfold readNumber
    split
    · next h =>
      rw [cons] at h digit
      exact absurd (digit '-' (by rw [(List.cons.inj h).1]; simp)) (by decide)
    · exact read
  | negSucc n =>
    have whole : isWhole true (n + 1) = true := by
      simp only [isWhole, Bool.not_true, Bool.false_or, Bool.and_eq_true, decide_eq_true_eq, Nat.pow_eq]
      omega
    exact readMagnitude_digits true (n + 1) (by omega) whole stop

end RelyingParty.Json
