import RelyingParty.Json.Record
import RelyingParty.Proofs.Json.Number
import RelyingParty.Proofs.Json.Quoted
import RelyingParty.Proofs.Json.Tokens

/-!
# Documents read back

A regular document, one whose strings are texts and whose numbers are whole and of 64 bits, is read
back from its tokens, whatever blank characters stand around them. In its compact form there are none, so
the compact text of a regular document determines the document.
-/

namespace RelyingParty.Json
set_option autoImplicit false

mutual

/-- Whether a document is read back as it was written. -/
def Regular : Json → Prop
  | .null | .bool _ | .string _ => True
  | .int i => -(2 ^ 63) ≤ i ∧ i < 2 ^ 64
  | .decimal _ _ | .garbled => False
  | .array elements => RegularElements elements
  | .object members => RegularMembers members

/-- Whether every element is regular. -/
def RegularElements : List Json → Prop
  | [] => True
  | element :: rest => Regular element ∧ RegularElements rest

/-- Whether the value of every member is regular. -/
def RegularMembers : List (String × Json) → Prop
  | [] => True
  | (_, value) :: rest => Regular value ∧ RegularMembers rest

end

theorem regularElements_iff {elements : List Json} :
    RegularElements elements ↔ ∀ e ∈ elements, Regular e := by
  induction elements with
  | nil => simp [RegularElements]
  | cons e es ih => simp [RegularElements, ih]

theorem regularMembers_iff {members : List (String × Json)} :
    RegularMembers members ↔ ∀ m ∈ members, Regular m.2 := by
  induction members with
  | nil => simp [RegularMembers]
  | cons m ms ih => simp [RegularMembers, ih]

@[simp] theorem regular_string (s : String) : Regular (.string s) := by simp [Regular]

@[simp] theorem regular_bool (b : Bool) : Regular (.bool b) := by simp [Regular]

@[simp] theorem regular_array {elements : List Json} :
    Regular (.array elements) ↔ ∀ e ∈ elements, Regular e := by
  rw [Regular, regularElements_iff]

@[simp] theorem regular_object {members : List (String × Json)} :
    Regular (.object members) ↔ ∀ m ∈ members, Regular m.2 := by
  rw [Regular, regularMembers_iff]

/-! ## The first character of a value -/

/-- How a value starts: not with a space, and not with the end of an array. -/
def ValueStart (c : Char) : Prop := isSpace c = false ∧ c ≠ ']'

theorem valueStart_of_isDigit {c : Char} (h : c.isDigit = true) : ValueStart c := by
  constructor
  · simp only [isSpace, Bool.or_eq_false_iff, decide_eq_false_iff_not]
    refine ⟨⟨⟨?_, ?_⟩, ?_⟩, ?_⟩ <;> (rintro rfl; revert h; decide)
  · rintro rfl
    revert h
    decide

theorem integerChars_start (i : Int) :
    ∃ c cs, Text.integerChars i = c :: cs ∧ (c = '-' ∨ c.isDigit = true) := by
  cases i with
  | ofNat n =>
    obtain ⟨d, ds, cons⟩ := List.exists_cons_of_ne_nil (Text.digits_ne_nil n)
    exact ⟨d, ds, cons, .inr (Text.isDigit_of_mem_digits n d (by simp [cons]))⟩
  | negSucc n => exact ⟨'-', Text.digits (n + 1), rfl, .inl rfl⟩

theorem valueStart_number {c : Char} (start : c = '-' ∨ c.isDigit = true) : ValueStart c := by
  rcases start with rfl | digit
  · exact ⟨by decide, by decide⟩
  · exact valueStart_of_isDigit digit

/-- The first token of a document starts as a value does. -/
theorem tokens_start (j : Json) (regular : Regular j) :
    ∃ c cs ts, tokens j = (c :: cs) :: ts ∧ ValueStart c := by
  cases j with
  | null => exact ⟨'n', _, _, rfl, by decide, by decide⟩
  | bool b => cases b <;> exact ⟨_, _, _, rfl, by decide, by decide⟩
  | int i =>
    obtain ⟨c, cs, cons, start⟩ := integerChars_start i
    exact ⟨c, cs, [], by simp [tokens, chars, cons], valueStart_number start⟩
  | decimal m e => simp [Regular] at regular
  | string s => exact ⟨'"', _, _, rfl, by decide, by decide⟩
  | array es => exact ⟨'[', _, _, by rw [tokens], by decide, by decide⟩
  | object ms => exact ⟨'\x7b', _, _, by rw [tokens], by decide, by decide⟩
  | garbled => simp [Regular] at regular

/-- The elements of an array start as the first of them does. -/
theorem elementTokens_start (e : Json) (es : List Json) (regular : Regular e) :
    ∃ c cs ts, elementTokens (e :: es) = (c :: cs) :: ts ∧ ValueStart c := by
  obtain ⟨c, cs, ts, first, start⟩ := tokens_start e regular
  cases es with
  | nil => exact ⟨c, cs, _, by rw [elementTokens, first, List.cons_append], start⟩
  | cons next rest => exact ⟨c, cs, _, by rw [elementTokens, first, List.cons_append], start⟩

/-- The members of an object start with the name of the first. -/
theorem memberTokens_start (name : String) (value : Json) (ms : List (String × Json)) :
    ∃ ts, memberTokens ((name, value) :: ms) = quote name :: ts := by
  cases ms <;> exact ⟨_, rfl⟩

/-! ## One value -/

theorem readValue_number {c : Char} {cs : List Char} (fuel : Nat) (start : c = '-' ∨ c.isDigit = true) :
    readValue (fuel + 1) (c :: cs) = readNumber (c :: cs) := by
  have skip : skipSpace (c :: cs) = c :: cs := skipSpace_cons cs (valueStart_number start).1
  have other (d : Char) (dash : d ≠ '-') (noDigit : d.isDigit = false) : c ≠ d := by
    intro same
    rcases start with minus | digit
    · exact dash (same.symm.trans minus)
    · rw [same, noDigit] at digit
      cases digit
  rw [readValue, skip]
  split
  · next h => exact absurd (List.cons.inj h).1 (other 'n' (by decide) (by decide))
  · next h => exact absurd (List.cons.inj h).1 (other 't' (by decide) (by decide))
  · next h => exact absurd (List.cons.inj h).1 (other 'f' (by decide) (by decide))
  · next h => exact absurd (List.cons.inj h).1 (other '"' (by decide) (by decide))
  · next h => exact absurd (List.cons.inj h).1 (other '[' (by decide) (by decide))
  · next h => exact absurd (List.cons.inj h).1 (other '\x7b' (by decide) (by decide))
  · rfl

theorem readValue_quote (fuel : Nat) (s : String) (rest : List Char) :
    readValue (fuel + 1) (quote s ++ rest) = some (.string s, rest) := by
  obtain ⟨tail, start, read⟩ := readQuoted_quote s rest
  rw [start, readValue, show skipSpace ('"' :: tail) = '"' :: tail from rfl]
  simp only [read, Option.map_some, Option.elim_some]

/-- A value that is one token is read from it. -/
theorem readValue_leaf {j : Json} (fuel : Nat) {rest : List Char} (regular : Regular j)
    (leaf : tokens j = [chars j]) (stop : ValueEnd rest) :
    readValue (fuel + 1) (chars j ++ rest) = some (j, rest) := by
  cases j with
  | null => rfl
  | bool b => cases b <;> rfl
  | int i =>
    rw [Regular] at regular
    obtain ⟨c, cs, cons, start⟩ := integerChars_start i
    have read := readNumber_integerChars i regular.1 regular.2 stop
    rw [chars]
    rw [cons, List.cons_append] at read ⊢
    rw [readValue_number fuel start, read]
  | decimal m e => simp [Regular] at regular
  | string s => exact readValue_quote fuel s rest
  | array es =>
    rw [tokens, List.cons.injEq] at leaf
    exact absurd leaf.2 (elementTokens_ne_nil es)
  | object ms =>
    rw [tokens, List.cons.injEq] at leaf
    exact absurd leaf.2 (memberTokens_ne_nil ms)
  | garbled => simp [Regular] at regular

/-- The readers look behind the blank characters first. -/
theorem readValue_congr (fuel : Nat) {cs cs' : List Char} (same : skipSpace cs = skipSpace cs') :
    readValue fuel cs = readValue fuel cs' := by
  cases fuel with
  | zero => rfl
  | succ fuel => rw [readValue, readValue, same]

theorem readValue_elements (fuel : Nat) {cs rest rest' : List Char} {c : Char}
    (opened : skipSpace cs = '[' :: rest) (first : skipSpace rest = c :: rest') (start : c ≠ ']') :
    readValue (fuel + 1) cs = (readElements fuel rest).map fun r => (.array r.1, r.2) := by
  rw [readValue, opened]
  simp only [first]
  split
  · next h => exact absurd (List.cons.inj h).1 start
  · rfl

theorem readValue_members (fuel : Nat) {cs rest rest' : List Char}
    (opened : skipSpace cs = '\x7b' :: rest) (first : skipSpace rest = '"' :: rest') :
    readValue (fuel + 1) cs =
      (readMembers fuel rest).map fun r => (r.1.elim .garbled .object, r.2) := by
  rw [readValue, opened]
  simp only [first]
  rfl

/-! ## Documents -/

/-- What follows a value among tokens: nothing, a comma or a closing bracket. -/
def Follows (ts : List (List Char)) : Prop := ∀ t ∈ ts.head?, t ∈ [[','], [']'], ['\x7d']]

theorem follows_nil : Follows [] := nofun

theorem follows_cons {t : List Char} (ts : List (List Char)) (h : t ∈ [[','], [']'], ['\x7d']]) :
    Follows (t :: ts) := by
  intro s first
  cases first
  exact h

theorem Blank.valueEnd_append {gap rest : List Char} (blank : Blank gap) (next : ValueEnd rest) :
    ValueEnd (gap ++ rest) := by
  cases gap with
  | nil => exact next
  | cons c gap =>
    intro d first
    cases first
    have space := blank c List.mem_cons_self
    simp only [isSpace, Bool.or_eq_true, decide_eq_true_eq] at space
    rcases space with ((rfl | rfl) | rfl) | rfl <;> decide

theorem Follows.valueEnd {ts : List (List Char)} {cs : List Char} (follows : Follows ts)
    (spaced : Spaced ts cs) : ValueEnd cs := by
  cases spaced with
  | last blank =>
    have none : ValueEnd [] := nofun
    have whole := blank.valueEnd_append none
    rwa [List.append_nil] at whole
  | token blank more =>
    refine blank.valueEnd_append ?_
    have closes := follows _ rfl
    simp only [List.mem_cons, List.not_mem_nil, or_false] at closes
    rcases closes with rfl | rfl | rfl <;> (intro c first; cases first; decide)

/-- With this fuel, all values, elements and members of up to so many tokens are read back, however they are
spaced. -/
structure ReadsBack (fuel : Nat) : Prop where
  value : ∀ j ts cs, Regular j → (tokens j).length ≤ fuel → Follows ts → Spaced (tokens j ++ ts) cs →
    ∃ rest, readValue fuel cs = some (j, rest) ∧ Spaced ts rest
  elements : ∀ e es ts cs, RegularElements (e :: es) → (elementTokens (e :: es)).length ≤ fuel →
    Spaced (elementTokens (e :: es) ++ ts) cs →
    ∃ rest, readElements fuel cs = some (e :: es, rest) ∧ Spaced ts rest
  members : ∀ name value ms ts cs, RegularMembers ((name, value) :: ms) →
    (memberTokens ((name, value) :: ms)).length ≤ fuel →
    Spaced (memberTokens ((name, value) :: ms) ++ ts) cs →
    ∃ rest, readMembers fuel cs = some (some ((name, value) :: ms), rest) ∧ Spaced ts rest

namespace ReadsBack

variable {fuel : Nat}

theorem zero : ReadsBack 0 := by
  constructor
  · intro j ts cs regular enough
    obtain ⟨c, cs, ts, first, -⟩ := tokens_start j regular
    simp [first] at enough
  · intro e es ts cs regular enough
    rw [RegularElements] at regular
    obtain ⟨c, cs, ts, first, -⟩ := elementTokens_start e es regular.1
    simp [first] at enough
  · intro name value ms ts cs regular enough
    obtain ⟨ts, first⟩ := memberTokens_start name value ms
    simp [first] at enough

theorem leaf_succ {j : Json} (ts : List (List Char)) (cs : List Char) (regular : Regular j)
    (leaf : tokens j = [chars j]) (follows : Follows ts) (spaced : Spaced (tokens j ++ ts) cs) :
    ∃ rest, readValue (fuel + 1) cs = some (j, rest) ∧ Spaced ts rest := by
  rw [leaf, List.singleton_append] at spaced
  obtain ⟨rest, skip, more⟩ := spaced.skipSpace
  refine ⟨rest, ?_, more⟩
  rw [readValue_congr (fuel + 1) skip, readValue_leaf fuel regular leaf (follows.valueEnd more)]

theorem array_succ (h : ReadsBack fuel) (es : List Json) (ts : List (List Char)) (cs : List Char)
    (regular : Regular (.array es)) (enough : (tokens (.array es)).length ≤ fuel + 1)
    (spaced : Spaced (tokens (.array es) ++ ts) cs) :
    ∃ rest, readValue (fuel + 1) cs = some (.array es, rest) ∧ Spaced ts rest := by
  rw [tokens, List.cons_append] at spaced
  obtain ⟨inner, opened, more⟩ := spaced.skipSpace_sign (by decide)
  cases es with
  | nil =>
    obtain ⟨rest, closed, after⟩ := more.skipSpace_sign (by decide)
    refine ⟨rest, ?_, after⟩
    rw [readValue, opened]
    simp only [closed]
  | cons e es =>
    rw [Regular] at regular
    rw [tokens, List.length_cons] at enough
    obtain ⟨rest, read, after⟩ := h.elements e es ts inner regular (by omega) more
    refine ⟨rest, ?_, after⟩
    rw [RegularElements] at regular
    obtain ⟨c, _, _, first, start⟩ := elementTokens_start e es regular.1
    rw [first, List.cons_append] at more
    obtain ⟨_, skip, -⟩ := more.skipSpace
    rw [List.cons_append, skipSpace_cons _ start.1] at skip
    rw [readValue_elements fuel opened skip start.2, read, Option.map_some]

theorem object_succ (h : ReadsBack fuel) (ms : List (String × Json)) (ts : List (List Char))
    (cs : List Char) (regular : Regular (.object ms))
    (enough : (tokens (.object ms)).length ≤ fuel + 1) (spaced : Spaced (tokens (.object ms) ++ ts) cs) :
    ∃ rest, readValue (fuel + 1) cs = some (.object ms, rest) ∧ Spaced ts rest := by
  rw [tokens, List.cons_append] at spaced
  obtain ⟨inner, opened, more⟩ := spaced.skipSpace_sign (by decide)
  cases ms with
  | nil =>
    obtain ⟨rest, closed, after⟩ := more.skipSpace_sign (by decide)
    refine ⟨rest, ?_, after⟩
    rw [readValue, opened]
    simp only [closed]
  | cons m ms =>
    obtain ⟨name, value⟩ := m
    rw [Regular] at regular
    rw [tokens, List.length_cons] at enough
    obtain ⟨rest, read, after⟩ := h.members name value ms ts inner regular (by omega) more
    refine ⟨rest, ?_, after⟩
    obtain ⟨_, first⟩ := memberTokens_start name value ms
    rw [first, List.cons_append] at more
    obtain ⟨_, skip, -⟩ := more.skipSpace
    rw [readValue_members fuel opened skip, read]
    rfl

theorem value_succ (h : ReadsBack fuel) (j : Json) (ts : List (List Char)) (cs : List Char)
    (regular : Regular j) (enough : (tokens j).length ≤ fuel + 1) (follows : Follows ts)
    (spaced : Spaced (tokens j ++ ts) cs) :
    ∃ rest, readValue (fuel + 1) cs = some (j, rest) ∧ Spaced ts rest := by
  cases j with
  | array es => exact h.array_succ es ts cs regular enough spaced
  | object ms => exact h.object_succ ms ts cs regular enough spaced
  | null | bool _ | int _ | decimal _ _ | string _ | garbled =>
    exact leaf_succ ts cs regular (by simp only [tokens]) follows spaced

theorem elements_succ (h : ReadsBack fuel) (e : Json) (es : List Json) (ts : List (List Char))
    (cs : List Char) (regular : RegularElements (e :: es))
    (enough : (elementTokens (e :: es)).length ≤ fuel + 1)
    (spaced : Spaced (elementTokens (e :: es) ++ ts) cs) :
    ∃ rest, readElements (fuel + 1) cs = some (e :: es, rest) ∧ Spaced ts rest := by
  rw [RegularElements] at regular
  cases es with
  | nil =>
    simp only [elementTokens, List.length_append, List.length_singleton] at enough
    rw [elementTokens, List.append_assoc] at spaced
    obtain ⟨mid, value, more⟩ := h.value e _ cs regular.1 (by omega) (follows_cons ts (by decide)) spaced
    obtain ⟨rest, closed, after⟩ := more.skipSpace_sign (by decide)
    exact ⟨rest, by simp only [readElements, value, closed], after⟩
  | cons next es =>
    simp only [elementTokens, List.length_append, List.length_cons] at enough
    rw [elementTokens, List.append_assoc] at spaced
    obtain ⟨mid, value, more⟩ := h.value e _ cs regular.1 (by omega) (follows_cons _ (by decide)) spaced
    obtain ⟨tail, comma, others⟩ := more.skipSpace_sign (by decide)
    obtain ⟨rest, read, after⟩ := h.elements next es ts tail regular.2 (by omega) others
    exact ⟨rest, by simp only [readElements, value, comma, read, Option.map_some], after⟩

/-- The name, the colon and the value of a member are found one after the other. -/
theorem member (h : ReadsBack fuel) (name : String) {value : Json} {ts : List (List Char)} {cs : List Char}
    (regular : Regular value) (enough : (tokens value).length ≤ fuel) (follows : Follows ts)
    (spaced : Spaced (quote name :: [':'] :: (tokens value ++ ts)) cs) :
    ∃ tail beyond inner rest, skipSpace cs = '"' :: tail ∧ readQuoted tail = some (some name, beyond) ∧
      skipSpace beyond = ':' :: inner ∧ readValue fuel inner = some (value, rest) ∧ Spaced ts rest := by
  obtain ⟨beyond, skip, more⟩ := spaced.skipSpace
  obtain ⟨tail, start, named⟩ := readQuoted_quote name beyond
  rw [start, skipSpace_cons _ (by decide)] at skip
  obtain ⟨inner, colon, more⟩ := more.skipSpace_sign (by decide)
  obtain ⟨rest, read, after⟩ := h.value value ts inner regular enough follows more
  exact ⟨tail, beyond, inner, rest, skip, named, colon, read, after⟩

theorem members_succ (h : ReadsBack fuel) (name : String) (value : Json) (ms : List (String × Json))
    (ts : List (List Char)) (cs : List Char) (regular : RegularMembers ((name, value) :: ms))
    (enough : (memberTokens ((name, value) :: ms)).length ≤ fuel + 1)
    (spaced : Spaced (memberTokens ((name, value) :: ms) ++ ts) cs) :
    ∃ rest, readMembers (fuel + 1) cs = some (some ((name, value) :: ms), rest) ∧ Spaced ts rest := by
  rw [RegularMembers] at regular
  cases ms with
  | nil =>
    simp only [memberTokens, List.length_append, List.length_cons] at enough
    simp only [memberTokens, List.cons_append, List.append_assoc] at spaced
    obtain ⟨tail, beyond, inner, mid, skip, named, colon, read, more⟩ :=
      h.member name regular.1 (by omega) (follows_cons ts (by decide)) spaced
    obtain ⟨rest, closed, after⟩ := more.skipSpace_sign (by decide)
    exact ⟨rest, by simp only [readMembers, skip, named, colon, read, closed, Option.map_some], after⟩
  | cons next ms =>
    obtain ⟨nextName, nextValue⟩ := next
    simp only [memberTokens, List.length_append, List.length_cons] at enough
    simp only [memberTokens, List.cons_append, List.append_assoc] at spaced
    obtain ⟨tail, beyond, inner, mid, skip, named, colon, read, more⟩ :=
      h.member name regular.1 (by omega) (follows_cons _ (by decide)) spaced
    obtain ⟨others, comma, more⟩ := more.skipSpace_sign (by decide)
    obtain ⟨rest, reads, after⟩ := h.members nextName nextValue ms ts others regular.2 (by omega) more
    exact ⟨rest, by simp only [readMembers, skip, named, colon, read, comma, reads, Option.map_some,
      Option.bind_some], after⟩

/-- By induction on the fuel: every reader calls the others with one less. -/
theorem all (fuel : Nat) : ReadsBack fuel := by
  induction fuel with
  | zero => exact zero
  | succ fuel ih => exact ⟨ih.value_succ, ih.elements_succ, ih.members_succ⟩

end ReadsBack

/-- A regular document is read back from its tokens, with any blank characters around them. -/
theorem ofText?_of_spaced {j : Json} {text : String} (regular : Regular j)
    (spaced : Spaced (tokens j) text.toList) : ofText? text = some j := by
  have enough := length_le_of_spaced spaced (ne_nil_of_mem_tokens j)
  have whole : Spaced (tokens j ++ []) text.toList := by rwa [List.append_nil]
  obtain ⟨rest, read, after⟩ := (ReadsBack.all (2 * text.toList.length + 2)).value j [] text.toList
    regular (by omega) follows_nil whole
  simp only [ofText?, ofChars?, read, after.skipSpace_nil, if_true]

/-- The compact text has no blank characters. -/
theorem spaced_text (j : Json) : Spaced (tokens j) j.text.toList := by
  rw [text, String.toList_ofList, ← flatten_tokens]
  exact spaced_flatten _

/-- A regular document is read back from its text. -/
theorem ofText?_text (j : Json) (regular : Regular j) : ofText? j.text = some j :=
  ofText?_of_spaced regular j.spaced_text

/-- Regular documents of one text are one document. -/
theorem text_injective {i j : Json} (left : Regular i) (right : Regular j) (same : i.text = j.text) :
    i = j := by
  have read := ofText?_text i left
  rw [same, ofText?_text j right] at read
  exact (Option.some.inj read).symm

end RelyingParty.Json
