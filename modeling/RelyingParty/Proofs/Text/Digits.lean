import Mathlib.Algebra.Group.Nat.Defs
import Mathlib.Data.List.Induction
import Mathlib.Data.List.TakeWhile
import RelyingParty.Text.Blank
import RelyingParty.Text.Digits

/-!
# Decimal digits read back

The digits of a number are digits and write that number; padding changes neither, and fixes the length.
A run of digits is taken whole from the front of a text that goes on with something else, and blanks in
front of it are skipped.
-/

namespace RelyingParty.Text
set_option autoImplicit false

/-- A text that does not go on with a digit. -/
def NoDigit (cs : List Char) : Prop := ∀ c ∈ cs.head?, c.isDigit = false

theorem noDigit_nil : NoDigit [] := nofun

theorem noDigit_cons {c : Char} {cs : List Char} (h : c.isDigit = false) : NoDigit (c :: cs) := by
  intro d hd
  cases hd
  exact h

/-! ## Single digits -/

theorem digitChar_isDigit : ∀ d, d < 10 → (digitChar d).isDigit = true := by decide

theorem toNat_digitChar : ∀ d, d < 10 → (digitChar d).toNat - 48 = d := by decide

theorem digitChar_eq_zero : ∀ d, d < 10 → digitChar d = '0' → d = 0 := by decide

theorem toNat_of_isDigit {c : Char} (h : c.isDigit = true) : 48 ≤ c.toNat ∧ c.toNat ≤ 57 := by
  simp only [Char.isDigit, Bool.and_eq_true, decide_eq_true_eq, ge_iff_le, UInt32.le_iff_toNat_le] at h
  exact h

theorem not_isBlank_of_isDigit {c : Char} (h : c.isDigit = true) : isBlank c = false := by
  have range := toNat_of_isDigit h
  simp only [isBlank, blankRanges, List.any_cons, List.any_nil, Bool.or_false, Bool.or_eq_false_iff,
    Bool.and_eq_false_iff, decide_eq_false_iff_not]
  omega

/-! ## The digits of a number -/

theorem isDigit_of_mem_digits (n : Nat) : ∀ c ∈ digits n, c.isDigit = true := by
  induction n using digits.induct with
  | case1 n small =>
    intro c hc
    rw [digits, if_pos small, List.mem_singleton] at hc
    exact hc ▸ digitChar_isDigit n small
  | case2 n large ih =>
    intro c hc
    rw [digits, if_neg large, List.mem_append, List.mem_singleton] at hc
    rcases hc with hc | rfl
    · exact ih c hc
    · exact digitChar_isDigit _ (Nat.mod_lt _ (by decide))

theorem digits_ne_nil (n : Nat) : digits n ≠ [] := by
  rw [digits]
  split <;> simp

theorem ofDigits_append_singleton (ds : List Char) (c : Char) :
    ofDigits (ds ++ [c]) = 10 * ofDigits ds + (c.toNat - 48) := by
  simp [ofDigits, List.foldl_append]

/-- The digits of a number write that number. -/
theorem ofDigits_digits (n : Nat) : ofDigits (digits n) = n := by
  induction n using digits.induct with
  | case1 n small =>
    rw [digits, if_pos small]
    simpa [ofDigits] using toNat_digitChar n small
  | case2 n large ih =>
    rw [digits, if_neg large, ofDigits_append_singleton, ih, toNat_digitChar _ (Nat.mod_lt _ (by decide))]
    omega

/-- A number below a power of ten has no more digits than its exponent. -/
theorem length_digits_le (w n : Nat) (h : n < 10 ^ (w + 1)) : (digits n).length ≤ w + 1 := by
  induction w generalizing n with
  | zero => rw [digits, if_pos (by simpa using h)]; simp
  | succ w ih =>
    rw [digits]
    split
    · simp
    · have := ih (n / 10) (by rw [Nat.pow_succ] at h; omega)
      simp only [List.length_append, List.length_singleton]
      omega

/-- Only zero starts with a zero. -/
theorem digits_head_zero (n : Nat) (h : (digits n).head? = some '0') : n = 0 := by
  induction n using digits.induct with
  | case1 n small =>
    rw [digits, if_pos small] at h
    exact digitChar_eq_zero n small (by simpa using h)
  | case2 n large ih =>
    obtain ⟨d, ds, cons⟩ := List.exists_cons_of_ne_nil (digits_ne_nil (n / 10))
    rw [digits, if_neg large, cons] at h
    have zero := ih (by simpa [cons] using h)
    omega

/-! ## Padded digits -/

theorem isDigit_of_mem_paddedDigits (w n : Nat) : ∀ c ∈ paddedDigits w n, c.isDigit = true := by
  intro c hc
  simp only [paddedDigits, List.mem_append, List.mem_replicate] at hc
  rcases hc with ⟨-, rfl⟩ | hc
  · decide
  · exact isDigit_of_mem_digits n c hc

theorem ofDigits_zeros_append (k : Nat) (ds : List Char) :
    ofDigits (List.replicate k '0' ++ ds) = ofDigits ds := by
  induction k with
  | zero => rfl
  | succ k ih => simpa [ofDigits, List.replicate_succ] using ih

theorem ofDigits_paddedDigits (w n : Nat) : ofDigits (paddedDigits w n) = n := by
  rw [paddedDigits, ofDigits_zeros_append, ofDigits_digits]

/-- A run of digits writes a number of no more digits. -/
theorem ofDigits_lt {ds : List Char} (digit : ∀ c ∈ ds, c.isDigit = true) : ofDigits ds < 10 ^ ds.length := by
  induction ds using List.reverseRecOn with
  | nil => decide
  | append_singleton ds c ih =>
    rw [List.forall_mem_append, List.forall_mem_singleton] at digit
    have low := ih digit.1
    have last := toNat_of_isDigit digit.2
    rw [ofDigits_append_singleton, List.length_append, List.length_singleton, Nat.pow_succ]
    omega

/-- Runs of equally many digits that write the same number are the same. -/
theorem eq_of_ofDigits_eq {ds es : List Char} (length : ds.length = es.length)
    (digit : ∀ c ∈ ds, c.isDigit = true) (digit' : ∀ c ∈ es, c.isDigit = true)
    (same : ofDigits ds = ofDigits es) : ds = es := by
  induction ds using List.reverseRecOn generalizing es with
  | nil => exact (List.eq_nil_of_length_eq_zero length.symm).symm
  | append_singleton ds c ih =>
    rcases List.eq_nil_or_concat es with rfl | ⟨es, e, rfl⟩
    · simp at length
    · rw [List.concat_eq_append] at length digit' same ⊢
      rw [List.forall_mem_append, List.forall_mem_singleton] at digit digit'
      rw [ofDigits_append_singleton, ofDigits_append_singleton] at same
      rw [List.length_append, List.length_append] at length
      have last := toNat_of_isDigit digit.2
      have last' := toNat_of_isDigit digit'.2
      have front := ih (Nat.add_right_cancel length) digit.1 digit'.1 (by omega)
      have back : c = e := Char.toNat_inj.1 (by omega)
      rw [front, back]

theorem paddedDigits_ne_nil (w n : Nat) : paddedDigits w n ≠ [] := by
  simp [paddedDigits, digits_ne_nil]

/-- Numbers that fit are padded to the width exactly. -/
theorem length_paddedDigits (w n : Nat) (h : n < 10 ^ (w + 1)) :
    (paddedDigits (w + 1) n).length = w + 1 := by
  have := length_digits_le w n h
  simp only [paddedDigits, List.length_append, List.length_replicate]
  omega

/-- A run of as many digits as the width is what its number is padded to. -/
theorem paddedDigits_ofDigits {w : Nat} {ds : List Char} (length : ds.length = w + 1)
    (digit : ∀ c ∈ ds, c.isDigit = true) : paddedDigits (w + 1) (ofDigits ds) = ds := by
  have bound := ofDigits_lt digit
  rw [length] at bound
  refine eq_of_ofDigits_eq ?_ (isDigit_of_mem_paddedDigits _ _) digit (ofDigits_paddedDigits _ _)
  rw [length_paddedDigits w _ bound, length]

/-! ## Taking digits from the front -/

theorem spanDigits_append {ds rest : List Char} (digit : ∀ c ∈ ds, c.isDigit = true)
    (stop : NoDigit rest) :
    spanDigits (ds ++ rest) = (ds, rest) := by
  induction ds with
  | nil =>
    cases rest with
    | nil => rfl
    | cons c cs => simp [spanDigits, stop c rfl]
  | cons d ds ih =>
    have head := digit d (by simp)
    have tail := ih fun c hc => digit c (by simp [hc])
    simp only [spanDigits, Prod.mk.injEq] at tail
    simp [spanDigits, head, tail]

/-- The digits at the front are followed by something else. -/
theorem spanDigits_eq_iff {cs ds rest : List Char} :
    spanDigits cs = (ds, rest) ↔ cs = ds ++ rest ∧ (∀ c ∈ ds, c.isDigit = true) ∧ NoDigit rest := by
  constructor
  · intro taken
    obtain ⟨rfl, rfl⟩ := Prod.mk.inj taken
    refine ⟨List.takeWhile_append_dropWhile.symm, fun c member => List.mem_takeWhile_imp member, ?_⟩
    intro c head
    have stop := List.head?_dropWhile_not Char.isDigit cs
    rw [Option.mem_def.1 head] at stop
    exact stop
  · rintro ⟨rfl, digit, stop⟩
    exact spanDigits_append digit stop

/-- What is taken is a run of digits within the limit, which ends there or before something else. -/
theorem takeDigits_eq_iff {limit : Nat} {cs ds rest : List Char} :
    takeDigits limit cs = (ds, rest) ↔ cs = ds ++ rest ∧ (∀ c ∈ ds, c.isDigit = true) ∧ ds.length ≤ limit ∧
      (ds.length = limit ∨ NoDigit rest) := by
  induction limit, cs using takeDigits.induct generalizing ds with
  | case1 cs =>
    rw [takeDigits, Prod.mk.injEq]
    constructor
    · rintro ⟨rfl, rfl⟩
      exact ⟨rfl, nofun, Nat.le_refl _, .inl rfl⟩
    · rintro ⟨rfl, -, short, -⟩
      obtain rfl := List.eq_nil_of_length_eq_zero (Nat.le_zero.1 short)
      exact ⟨rfl, rfl⟩
  | case2 limit =>
    rw [takeDigits, Prod.mk.injEq]
    constructor
    · rintro ⟨rfl, rfl⟩
      exact ⟨rfl, nofun, Nat.zero_le _, .inr noDigit_nil⟩
    · rintro ⟨split, -⟩
      obtain ⟨rfl, rfl⟩ := List.append_eq_nil_iff.1 split.symm
      exact ⟨rfl, rfl⟩
  | case3 limit c cs digit ih =>
    simp only [takeDigits, if_pos digit, Prod.mk.injEq]
    constructor
    · rintro ⟨rfl, rfl⟩
      obtain ⟨split, digits, short, stop⟩ := ih.1 rfl
      refine ⟨congrArg (c :: ·) split, List.forall_mem_cons.2 ⟨digit, digits⟩, Nat.succ_le_succ short, ?_⟩
      exact stop.imp_left (congrArg (· + 1))
    · rintro ⟨split, digits, short, stop⟩
      cases ds with
      | nil =>
        obtain rfl : c :: cs = rest := split
        obtain full | stop := stop
        · cases full
        · exact absurd (stop c rfl) (by simp [digit])
      | cons d ds =>
        obtain ⟨rfl, tail⟩ := List.cons.inj split
        rw [List.forall_mem_cons] at digits
        have taken := ih.2 ⟨tail, digits.2, Nat.le_of_succ_le_succ short, stop.imp_left Nat.succ.inj⟩
        rw [taken]
        exact ⟨rfl, rfl⟩
  | case4 limit c cs other =>
    simp only [takeDigits, if_neg other, Prod.mk.injEq]
    constructor
    · rintro ⟨rfl, rfl⟩
      exact ⟨rfl, nofun, Nat.zero_le _, .inr (noDigit_cons (Bool.not_eq_true _ ▸ other))⟩
    · rintro ⟨split, digits, -⟩
      cases ds with
      | nil => exact ⟨rfl, split⟩
      | cons d ds =>
        obtain ⟨rfl, -⟩ := List.cons.inj split
        exact absurd (digits c List.mem_cons_self) other

/-! ## Reading whole runs -/

theorem readDigits?_eq_some_iff {ds : List Char} {n : Nat} :
    readDigits? ds = some n ↔ ds ≠ [] ∧ (∀ c ∈ ds, c.isDigit = true) ∧ ofDigits ds = n := by
  rw [readDigits?, ← List.all_eq_true]
  by_cases run : ds ≠ [] ∧ ds.all Char.isDigit = true
  · rw [if_pos run, Option.some.injEq, ← and_assoc, and_iff_right run]
  · rw [if_neg run, ← and_assoc]
    exact iff_of_false nofun fun read => run read.1

theorem readDigits?_paddedDigits (w n : Nat) : readDigits? (paddedDigits w n) = some n :=
  readDigits?_eq_some_iff.2
    ⟨paddedDigits_ne_nil w n, isDigit_of_mem_paddedDigits w n, ofDigits_paddedDigits w n⟩

/-- A text that writes a whole number: an optional sign, and one or more digits. -/
inductive SpellsInteger : List Char → Int → Prop where
  | plain {ds : List Char} (some : ds ≠ []) (digit : ∀ c ∈ ds, c.isDigit = true) : SpellsInteger ds (ofDigits ds)
  | plus {ds : List Char} (some : ds ≠ []) (digit : ∀ c ∈ ds, c.isDigit = true) :
    SpellsInteger ('+' :: ds) (ofDigits ds)
  | minus {ds : List Char} (some : ds ≠ []) (digit : ∀ c ∈ ds, c.isDigit = true) :
    SpellsInteger ('-' :: ds) (-(ofDigits ds : Int))

/-- A whole number is read from the texts that write it, if it is within the bound. -/
theorem readInteger?_eq_some_iff {bound : Nat} {s : String} {i : Int} :
    readInteger? bound s = some i ↔ SpellsInteger s.toList i ∧ -(bound : Int) ≤ i ∧ i < bound := by
  rw [readInteger?, Option.filter_eq_some_iff, decide_eq_true_eq]
  refine and_congr_left fun _ => ?_
  have value {ds : List Char} (some : ds ≠ []) (digit : ∀ c ∈ ds, c.isDigit = true) :
      readDigits? ds = Option.some (ofDigits ds) := readDigits?_eq_some_iff.2 ⟨some, digit, rfl⟩
  generalize s.toList = cs
  constructor
  · intro read
    split at read
    · next ds =>
      cases digits : readDigits? ds with
      | none =>
        rw [digits] at read
        cases read
      | some n =>
        rw [digits] at read
        obtain ⟨some, digit, rfl⟩ := readDigits?_eq_some_iff.1 digits
        cases read
        exact .minus some digit
    · obtain ⟨n, digits, rfl⟩ := Option.map_eq_some_iff.1 read
      obtain ⟨some, digit, rfl⟩ := readDigits?_eq_some_iff.1 digits
      exact .plus some digit
    · obtain ⟨n, digits, rfl⟩ := Option.map_eq_some_iff.1 read
      obtain ⟨some, digit, rfl⟩ := readDigits?_eq_some_iff.1 digits
      exact .plain some digit
  · intro spells
    cases spells with
    | plain some digit =>
      split
      · exact absurd (digit '-' List.mem_cons_self) (by decide)
      · exact absurd (digit '+' List.mem_cons_self) (by decide)
      · rw [value some digit]
        rfl
    | plus some digit => exact congrArg (Option.map Int.ofNat) (value some digit)
    | minus some digit =>
      simp only [value some digit]
      rfl

/-! ## Skipping blanks -/

/-- Blanks in front of anything else are skipped. -/
theorem skipBlanks_append {blanks rest : List Char} (blank : ∀ c ∈ blanks, isBlank c = true)
    (stop : ∀ c ∈ rest.head?, isBlank c = false) : skipBlanks (blanks ++ rest) = rest := by
  rw [skipBlanks, List.dropWhile_append_of_pos blank]
  cases rest with
  | nil => rfl
  | cons c rest => exact List.dropWhile_cons_of_neg (by simp [stop c rfl])

/-- What is skipped are blanks. -/
theorem exists_blanks (cs : List Char) :
    ∃ blanks, cs = blanks ++ skipBlanks cs ∧ ∀ c ∈ blanks, isBlank c = true :=
  ⟨cs.takeWhile isBlank, List.takeWhile_append_dropWhile.symm, fun _ member =>
    List.mem_takeWhile_imp member⟩

end RelyingParty.Text
