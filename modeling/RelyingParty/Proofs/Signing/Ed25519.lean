import RelyingParty.Signing.Ed25519

/-!
# What Ed25519 verification answers

A signature verifies when it has 64 bytes, its scalar is below the group order, and the point recomputed
from key, message and scalar is encoded as its first half. The first of these that fails is the fault.
-/

namespace RelyingParty.Signing.Ed25519
set_option autoImplicit false
open Edwards

/-- The response scalar in the second half of a signature. -/
def responseScalar (signature : List UInt8) : Nat := ofLittleEndian (signature.drop 32)

/-- The verification equation: `s · B - k · A` is encoded as the first half of the signature, where `A` is
the point of the key and `k` the challenge. -/
def Balanced (key message signature : List UInt8) : Prop :=
  ∃ a, Point.decode? key = some a ∧
    ((base.multiple (responseScalar signature)).add
      (a.neg.multiple (hashScalar (signature.take 32 ++ key ++ message)))).encode = signature.take 32

/-- A signature that is accepted for a message under a key. -/
structure Verifies (key message signature : List UInt8) : Prop where
  length : signature.length = 64
  canonical : responseScalar signature < order
  balanced : Balanced key message signature

/-- The faults of a signature, each where those before it are absent. -/
inductive Flawed (key message signature : List UInt8) : SignatureFault → Prop where
  | wrongLength (length : signature.length ≠ 64) : Flawed key message signature .wrongLength
  | scalarOutOfRange (length : signature.length = 64) (large : order ≤ responseScalar signature) :
    Flawed key message signature .scalarOutOfRange
  | equationNotSatisfied (length : signature.length = 64) (canonical : responseScalar signature < order)
    (unbalanced : ¬Balanced key message signature) : Flawed key message signature .equationNotSatisfied

section
variable {key message signature : List UInt8} {fault : SignatureFault}

theorem verify_of_length (length : signature.length = 64) :
    scheme.verify key message signature = verifyInput key message signature := by
  have long : scheme.isSignature signature = true := beq_iff_eq.2 length
  rw [Scheme.verify, if_pos long, scheme]

theorem verify_of_verifies (verifies : Verifies key message signature) :
    scheme.verify key message signature = .ok () := by
  obtain ⟨a, decoded, encoded⟩ := verifies.balanced
  have canonical := Nat.not_le.2 verifies.canonical
  unfold responseScalar at canonical encoded
  rw [verify_of_length verifies.length, verifyInput]
  simp only [if_neg canonical, decoded, if_pos encoded]

theorem verify_of_flawed (flawed : Flawed key message signature fault) :
    scheme.verify key message signature = .error fault := by
  cases flawed with
  | wrongLength length =>
    have short : ¬scheme.isSignature signature = true := fun long => length (eq_of_beq long)
    rw [Scheme.verify, if_neg short]
  | scalarOutOfRange length large =>
    unfold responseScalar at large
    rw [verify_of_length length, verifyInput]
    exact if_pos large
  | equationNotSatisfied length canonical unbalanced =>
    have small := Nat.not_le.2 canonical
    unfold Balanced at unbalanced
    unfold responseScalar at small unbalanced
    rw [verify_of_length length, verifyInput]
    cases decoded : Point.decode? key with
    | none => simp only [if_neg small]
    | some a =>
      have different := fun encoded => unbalanced ⟨a, decoded, encoded⟩
      simp only [if_neg small, if_neg different]

/-- Every signature verifies or has a fault. -/
theorem verifies_or_flawed (key message signature : List UInt8) :
    Verifies key message signature ∨ ∃ fault, Flawed key message signature fault := by
  by_cases length : signature.length = 64
  · rcases Nat.lt_or_ge (responseScalar signature) order with canonical | large
    · by_cases balanced : Balanced key message signature
      · exact .inl ⟨length, canonical, balanced⟩
      · exact .inr ⟨_, .equationNotSatisfied length canonical balanced⟩
    · exact .inr ⟨_, .scalarOutOfRange length large⟩
  · exact .inr ⟨_, .wrongLength length⟩

theorem verify_eq_error_iff :
    scheme.verify key message signature = .error fault ↔ Flawed key message signature fault := by
  refine ⟨fun failing => ?_, verify_of_flawed⟩
  rcases verifies_or_flawed key message signature with verifies | ⟨other, flawed⟩
  · rw [verify_of_verifies verifies] at failing
    cases failing
  · rw [verify_of_flawed flawed] at failing
    exact Except.error.inj failing ▸ flawed

end

end RelyingParty.Signing.Ed25519
