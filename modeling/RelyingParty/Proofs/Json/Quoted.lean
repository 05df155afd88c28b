import RelyingParty.Json.Quoted

/-!
# Quoted text read back

Every character is one piece of the quoted text, and the pieces form the characters again, so a text
of any characters is read back from its quoted form.
-/

namespace RelyingParty.Json
set_option autoImplicit false

theorem hexValue?_hexChar : ∀ d, d < 16 → hexValue? (hexChar d) = some d := by decide

/-- The four digits of an escaped control character give its code point. -/
theorem hexUnit?_control (n : Nat) (h : n < 32) :
    hexUnit? '0' '0' (hexChar (n / 16)) (hexChar (n % 16)) = some n := by
  have zero : hexValue? '0' = some 0 := by decide
  have high := hexValue?_hexChar (n / 16) (by omega)
  have low := hexValue?_hexChar (n % 16) (by omega)
  simp only [hexUnit?, zero, high, low, Option.bind_eq_bind, Option.bind_some, Option.pure_def,
    Option.some.injEq]
  omega

/-- The piece that a character is read as: control characters without a short escape are units. -/
def pieceOf (c : Char) : Piece :=
  if c.toNat < 32 ∧ c ∉ ['\x08', '\x0c', '\n', '\r', '\t'] then .unit c.toNat else .char c

theorem pieces_short {c e : Char} (short : escaped? e = some c) (notUnit : e ≠ 'u') (cs : List Char) :
    pieces ('\\' :: e :: cs) = (pieces cs).map fun p => (.char c :: p.1, p.2) := by
  have read : pieces ('\\' :: e :: cs) = (escaped? e).bind fun c =>
      (pieces cs).bind fun p => some (.char c :: p.1, p.2) := by
    rw [pieces.eq_def]
    split
    · next h => cases h
    · next h => exact absurd (List.cons.inj h).1 (by decide)
    · next h => exact absurd (List.cons.inj (List.cons.inj h).2).1 notUnit
    · next h => cases h; rfl
    · next noEscape h => exact (noEscape e cs (List.cons.inj h).1.symm (List.cons.inj h).2.symm).elim
  rw [read, short]
  cases pieces cs <;> rfl

/-- A character that is written as it is reads as itself. -/
theorem pieces_plain {c : Char} (quote : c ≠ '"') (slash : c ≠ '\\') (plain : ¬ c.toNat < 32)
    (cs : List Char) : pieces (c :: cs) = (pieces cs).map fun p => (.char c :: p.1, p.2) := by
  rw [pieces.eq_def]
  split
  · next h => cases h
  · next h => exact absurd (List.cons.inj h).1 quote
  · next h => exact absurd (List.cons.inj h).1 slash
  · next h => exact absurd (List.cons.inj h).1 slash
  · next h =>
    obtain ⟨rfl, rfl⟩ := List.cons.inj h
    rw [if_neg (by simp [plain, slash])]

theorem pieces_control {n : Nat} (control : n < 32) (cs : List Char) :
    pieces (['\\', 'u', '0', '0', hexChar (n / 16), hexChar (n % 16)] ++ cs) =
      (pieces cs).map fun p => (.unit n :: p.1, p.2) := by
  simp only [List.cons_append, List.nil_append, pieces, hexUnit?_control n control]
  cases pieces cs <;> rfl

/-- What is written for a character is read as its piece. -/
theorem pieces_escape (c : Char) (cs : List Char) :
    pieces (escape c ++ cs) = (pieces cs).map fun p => (pieceOf c :: p.1, p.2) := by
  unfold escape
  split
  · next e => subst e; exact pieces_short rfl (by decide) cs
  split
  · next e => subst e; exact pieces_short rfl (by decide) cs
  split
  · next e => subst e; exact pieces_short rfl (by decide) cs
  split
  · next e => subst e; exact pieces_short rfl (by decide) cs
  split
  · next e => subst e; exact pieces_short rfl (by decide) cs
  split
  · next e => subst e; exact pieces_short rfl (by decide) cs
  split
  · next e => subst e; exact pieces_short rfl (by decide) cs
  split
  · next control =>
    have piece : pieceOf c = .unit c.toNat := by rw [pieceOf, if_pos ⟨control, by simp [*]⟩]
    rw [piece]
    exact pieces_control control cs
  · next quote slash _ _ _ _ _ plain =>
    have piece : pieceOf c = .char c := by rw [pieceOf, if_neg (fun h => plain h.1)]
    rw [piece]
    exact pieces_plain quote slash plain cs

theorem pieces_flatMap_escape (cs rest : List Char) :
    pieces (cs.flatMap escape ++ '"' :: rest) = some (cs.map pieceOf, rest) := by
  induction cs with
  | nil => simp [pieces]
  | cons c cs ih =>
    rw [List.flatMap_cons, List.append_assoc, pieces_escape, ih]
    rfl

/-- A unit of a control character is no half of a pair, so it stands for a character by itself. -/
theorem characters_unit {u : Nat} (control : u < 32) (ps : List Piece) :
    characters (.unit u :: ps) = (characters ps).map (Char.ofNat u :: ·) := by
  have leading : isLeading u = false := by
    simp only [isLeading, Bool.and_eq_false_iff, decide_eq_false_iff_not]
    omega
  have trailing : isTrailing u = false := by
    simp only [isTrailing, Bool.and_eq_false_iff, decide_eq_false_iff_not]
    omega
  cases ps with
  | nil => simp [characters, leading, trailing]
  | cons p ps => cases p <;> simp [characters, leading, trailing]

theorem characters_map_pieceOf (cs : List Char) : characters (cs.map pieceOf) = some cs := by
  induction cs with
  | nil => rfl
  | cons c cs ih =>
    rw [List.map_cons, pieceOf]
    split
    · next unit => rw [characters_unit unit.1, ih, Option.map_some, Char.ofNat_toNat]
    · rw [characters, ih, Option.map_some]

/-- A text is read back from its quoted form, whatever follows it. -/
theorem readQuoted_quote (s : String) (rest : List Char) :
    ∃ tail, quote s ++ rest = '"' :: tail ∧ readQuoted tail = some (some s, rest) := by
  refine ⟨s.toList.flatMap escape ++ '"' :: rest, by simp [quote], ?_⟩
  simp only [readQuoted, pieces_flatMap_escape, Option.map_some, characters_map_pieceOf,
    String.ofList_toList]

end RelyingParty.Json
