import RelyingParty.Json.Printer
import RelyingParty.Json.Reader
import RelyingParty.Proofs.Text.Digits

/-!
# Documents as tokens

A document is written as a sequence of tokens: its strings, numbers and words, and the brackets, colons and
commas between them. Blank characters may stand around every token, and in the compact text none do.
-/

namespace RelyingParty.Json
set_option autoImplicit false

mutual

/-- The tokens of a document. -/
def tokens : Json → List (List Char)
  | .array elements => ['['] :: elementTokens elements
  | .object members => ['\x7b'] :: memberTokens members
  | leaf => [chars leaf]

/-- The tokens of the elements of an array, up to the closing bracket. -/
def elementTokens : List Json → List (List Char)
  | [] => [[']']]
  | [element] => tokens element ++ [[']']]
  | element :: next :: rest => tokens element ++ [','] :: elementTokens (next :: rest)

/-- The tokens of the members of an object, up to the closing brace. -/
def memberTokens : List (String × Json) → List (List Char)
  | [] => [['\x7d']]
  | [(name, value)] => quote name :: [':'] :: (tokens value ++ [['\x7d']])
  | (name, value) :: next :: rest =>
    quote name :: [':'] :: (tokens value ++ [','] :: memberTokens (next :: rest))

end

mutual

/-- The compact text is the tokens with nothing between them. -/
theorem flatten_tokens : ∀ j : Json, (tokens j).flatten = chars j
  | .array elements => by
    rw [tokens, chars, List.flatten_cons, flatten_elementTokens elements]
    rfl
  | .object members => by
    rw [tokens, chars, List.flatten_cons, flatten_memberTokens members]
    rfl
  | .null | .bool _ | .int _ | .decimal _ _ | .string _ | .garbled => by simp [tokens]

theorem flatten_elementTokens : ∀ es : List Json, (elementTokens es).flatten = elementChars es
  | [] => rfl
  | [e] => by simp [elementTokens, elementChars, flatten_tokens e]
  | e :: next :: rest => by
    simp [elementTokens, elementChars, flatten_tokens e, flatten_elementTokens (next :: rest)]

theorem flatten_memberTokens : ∀ ms : List (String × Json), (memberTokens ms).flatten = memberChars ms
  | [] => rfl
  | [(name, value)] => by simp [memberTokens, memberChars, flatten_tokens value]
  | (name, value) :: next :: rest => by
    simp [memberTokens, memberChars, flatten_tokens value, flatten_memberTokens (next :: rest)]

end

theorem elementTokens_ne_nil (es : List Json) : elementTokens es ≠ [] := by
  rcases es with - | ⟨e, - | ⟨next, rest⟩⟩ <;> simp [elementTokens]

theorem memberTokens_ne_nil (ms : List (String × Json)) : memberTokens ms ≠ [] := by
  rcases ms with - | ⟨m, - | ⟨next, rest⟩⟩ <;> simp [memberTokens]

theorem integerChars_ne_nil (i : Int) : Text.integerChars i ≠ [] := by
  cases i with
  | ofNat n => exact Text.digits_ne_nil n
  | negSucc n => exact List.cons_ne_nil _ _

mutual

theorem ne_nil_of_mem_tokens : ∀ j : Json, ∀ t ∈ tokens j, t ≠ []
  | .array elements => List.forall_mem_cons.2 ⟨nofun, ne_nil_of_mem_elementTokens elements⟩
  | .object members => List.forall_mem_cons.2 ⟨nofun, ne_nil_of_mem_memberTokens members⟩
  | .int i => by simpa [tokens, chars] using integerChars_ne_nil i
  | .bool b => by cases b <;> simp [tokens, chars]
  | .null | .decimal _ _ | .string _ | .garbled => by simp [tokens, chars, quote]

theorem ne_nil_of_mem_elementTokens : ∀ es : List Json, ∀ t ∈ elementTokens es, t ≠ []
  | [] => List.forall_mem_singleton.2 nofun
  | [e] => List.forall_mem_append.2 ⟨ne_nil_of_mem_tokens e, List.forall_mem_singleton.2 nofun⟩
  | e :: next :: rest => List.forall_mem_append.2
    ⟨ne_nil_of_mem_tokens e, List.forall_mem_cons.2 ⟨nofun, ne_nil_of_mem_elementTokens (next :: rest)⟩⟩

theorem ne_nil_of_mem_memberTokens : ∀ ms : List (String × Json), ∀ t ∈ memberTokens ms, t ≠ []
  | [] => List.forall_mem_singleton.2 nofun
  | [(_, value)] => List.forall_mem_cons.2 ⟨nofun, List.forall_mem_cons.2 ⟨nofun,
    List.forall_mem_append.2 ⟨ne_nil_of_mem_tokens value, List.forall_mem_singleton.2 nofun⟩⟩⟩
  | (_, value) :: next :: rest => List.forall_mem_cons.2 ⟨nofun, List.forall_mem_cons.2 ⟨nofun,
    List.forall_mem_append.2 ⟨ne_nil_of_mem_tokens value,
      List.forall_mem_cons.2 ⟨nofun, ne_nil_of_mem_memberTokens (next :: rest)⟩⟩⟩⟩

end

/-! ## Blank characters around tokens -/

/-- Only characters that may stand between tokens. -/
def Blank (cs : List Char) : Prop := ∀ c ∈ cs, isSpace c = true

theorem blank_nil : Blank [] := List.forall_mem_nil _

/-- The characters are some tokens in order, with blank ones before, between and after them. -/
inductive Spaced : List (List Char) → List Char → Prop
  | last {gap : List Char} (blank : Blank gap) : Spaced [] gap
  | token {gap t rest : List Char} {ts : List (List Char)} (blank : Blank gap) (more : Spaced ts rest) :
    Spaced (t :: ts) (gap ++ (t ++ rest))

/-- The same blank characters may stand before every token. -/
theorem spaced_flatMap {gap : List Char} (blank : Blank gap) (ts : List (List Char)) :
    Spaced ts (ts.flatMap (gap ++ ·)) := by
  induction ts with
  | nil => exact .last blank_nil
  | cons t ts ih =>
    rw [List.flatMap_cons, List.append_assoc]
    exact .token blank ih

theorem spaced_flatten (ts : List (List Char)) : Spaced ts ts.flatten := by
  have spaced := spaced_flatMap blank_nil ts
  simpa [List.flatMap_id'] using spaced

theorem skipSpace_append {gap : List Char} (blank : Blank gap) (cs : List Char) :
    skipSpace (gap ++ cs) = skipSpace cs :=
  List.dropWhile_append_of_pos blank

theorem skipSpace_cons {c : Char} (cs : List Char) (h : isSpace c = false) :
    skipSpace (c :: cs) = c :: cs := by
  simp [skipSpace, h]

/-- The first token is found behind the blank characters. -/
theorem Spaced.skipSpace {t : List Char} {ts : List (List Char)} {cs : List Char}
    (spaced : Spaced (t :: ts) cs) :
    ∃ rest, Json.skipSpace cs = Json.skipSpace (t ++ rest) ∧ Spaced ts rest := by
  cases spaced with
  | token blank more => exact ⟨_, skipSpace_append blank _, more⟩

/-- A token of one character is found behind the blank characters. -/
theorem Spaced.skipSpace_sign {c : Char} {ts : List (List Char)} {cs : List Char}
    (spaced : Spaced ([c] :: ts) cs) (sign : isSpace c = false) :
    ∃ rest, Json.skipSpace cs = c :: rest ∧ Spaced ts rest := by
  obtain ⟨rest, skip, more⟩ := spaced.skipSpace
  exact ⟨rest, skip.trans (skipSpace_cons rest sign), more⟩

theorem Spaced.skipSpace_nil {cs : List Char} (spaced : Spaced [] cs) : Json.skipSpace cs = [] := by
  cases spaced with
  | last blank =>
    have skip := skipSpace_append blank []
    rwa [List.append_nil] at skip

theorem length_le_of_spaced {ts : List (List Char)} {cs : List Char} (spaced : Spaced ts cs)
    (nonempty : ∀ t ∈ ts, t ≠ []) : ts.length ≤ cs.length := by
  induction spaced with
  | last blank => exact Nat.zero_le _
  | token blank more ih =>
    rw [List.forall_mem_cons] at nonempty
    have first := List.length_pos_iff.2 nonempty.1
    have others := ih nonempty.2
    simp only [List.length_cons, List.length_append]
    omega

end RelyingParty.Json
