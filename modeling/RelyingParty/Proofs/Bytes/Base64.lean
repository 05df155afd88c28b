import Mathlib.Data.List.Basic
import RelyingParty.Bytes.Base64
import RelyingParty.Proofs.Success
import RelyingParty.Proofs.Text.Utf8

/-!
# Base64 is canonical

A byte string is split into six-bit values, and padding tells how many of its last group count. Decoding takes
the text of a byte string back to it, and takes no other text.
-/

namespace RelyingParty.Bytes.Base64
set_option autoImplicit false

/-! ## Symbols -/

theorem forall_byte {P : UInt8 → Prop} (all : ∀ n < 256, P (UInt8.ofNat n)) (b : UInt8) : P b := by
  have holds := all b.toNat b.toNat_lt
  rwa [UInt8.ofNat_toNat] at holds

theorem value?_symbol : ∀ v < 64, value? (symbol v) = some v := by decide

theorem symbol_ne_pad : ∀ v < 64, symbol v ≠ pad := by decide

theorem symbol_of_value? (b : UInt8) : ∀ v ∈ value? b, v < 64 ∧ symbol v = b :=
  forall_byte (P := fun b => ∀ v ∈ value? b, v < 64 ∧ symbol v = b) (by decide +kernel) b

theorem values_eq_ok_iff {offset : Nat} {bs : List UInt8} {vs : List Nat} :
    values offset bs = .ok vs ↔ (∀ v ∈ vs, v < 64) ∧ vs.map symbol = bs := by
  induction bs generalizing offset vs with
  | nil =>
    rw [values, Except.ok.injEq, List.map_eq_nil_iff]
    constructor
    · rintro rfl
      exact ⟨nofun, rfl⟩
    · rintro ⟨-, rfl⟩
      rfl
  | cons b bs ih =>
    rw [values]
    constructor
    · intro read
      cases value : value? b with
      | none =>
        rw [value] at read
        cases read
      | some v =>
        rw [value] at read
        obtain ⟨rest, others, rfl⟩ := map_eq_ok_iff.1 read
        obtain ⟨small, symbols⟩ := ih.1 others
        obtain ⟨least, same⟩ := symbol_of_value? b v value
        exact ⟨List.forall_mem_cons.2 ⟨least, small⟩, by rw [List.map_cons, same, symbols]⟩
    · rintro ⟨small, symbols⟩
      obtain ⟨v, rest, rfl, rfl, others⟩ := List.map_eq_cons_iff.1 symbols
      rw [List.forall_mem_cons] at small
      rw [value?_symbol v small.1]
      exact map_eq_ok_iff.2 ⟨rest, ih.2 ⟨small.2, others⟩, rfl⟩

theorem checkPadding_eq_ok_iff {first : Nat} {bs : List UInt8} :
    checkPadding first bs = .ok () ↔ ∀ b ∈ bs, b = pad := by
  induction bs with
  | nil => exact iff_of_true rfl nofun
  | cons b bs ih =>
    rw [checkPadding, List.forall_mem_cons]
    by_cases padding : b = pad
    · rw [if_pos padding, ih, and_iff_right padding]
    · rw [if_neg padding]
      exact iff_of_false nofun fun all => padding all.1

theorem lastValues_symbols {start seen : Nat} {vs : List Nat} {pads : List UInt8} (small : ∀ v ∈ vs, v < 64)
    (padding : ∀ b ∈ pads, b = pad) (enough : pads ≠ [] → 2 ≤ seen + vs.length) :
    lastValues start seen (vs.map symbol ++ pads) = .ok vs := by
  induction vs generalizing seen with
  | nil =>
    cases pads with
    | nil => rfl
    | cons b rest =>
      have late := enough nofun
      rw [List.length_nil, Nat.add_zero] at late
      obtain ⟨rfl, others⟩ := List.forall_mem_cons.1 padding
      rw [List.map_nil, List.nil_append, lastValues, if_pos rfl, if_neg (Nat.not_lt.2 late),
        checkPadding_eq_ok_iff.2 others]
      rfl
  | cons v vs ih =>
    obtain ⟨least, others⟩ := List.forall_mem_cons.1 small
    have rest : lastValues start (seen + 1) (vs.map symbol ++ pads) = .ok vs := by
      refine ih others fun some => ?_
      have late := enough some
      rw [List.length_cons] at late
      omega
    rw [List.map_cons, List.cons_append, lastValues, if_neg (symbol_ne_pad v least), value?_symbol v least, rest]
    rfl

/-- The last group is symbols and then padding, which leaves at least two symbols. -/
theorem exists_pads_of_lastValues {start seen : Nat} {group : List UInt8} {vs : List Nat}
    (read : lastValues start seen group = .ok vs) : ∃ pads, group = vs.map symbol ++ pads ∧ (∀ v ∈ vs, v < 64) ∧
      (∀ b ∈ pads, b = pad) ∧ (pads ≠ [] → 2 ≤ seen + vs.length) := by
  induction group generalizing seen vs with
  | nil =>
    obtain rfl := Except.ok.inj read
    exact ⟨[], rfl, nofun, nofun, fun some => absurd rfl some⟩
  | cons b rest ih =>
    rw [lastValues] at read
    by_cases padding : b = pad
    · subst padding
      rw [if_pos rfl, error_else_eq_ok_iff, map_eq_ok_iff] at read
      obtain ⟨late, _, all, rfl⟩ := read
      refine ⟨pad :: rest, rfl, nofun, List.forall_mem_cons.2 ⟨rfl, checkPadding_eq_ok_iff.1 all⟩, fun _ => ?_⟩
      exact Nat.not_lt.1 late
    · rw [if_neg padding] at read
      cases value : value? b with
      | none =>
        rw [value] at read
        cases read
      | some v =>
        rw [value] at read
        obtain ⟨vs, others, rfl⟩ := map_eq_ok_iff.1 read
        obtain ⟨pads, rfl, small, all, enough⟩ := ih others
        obtain ⟨least, rfl⟩ := symbol_of_value? b v value
        refine ⟨pads, rfl, List.forall_mem_cons.2 ⟨least, small⟩, all, fun some => ?_⟩
        have late := enough some
        rw [List.length_cons]
        omega

/-! ## Groups -/

/-- The six-bit values of a byte string, with zeros for the bits that its last group lacks. -/
def sextets : List UInt8 → List Nat
  | [] => []
  | [a] => [a.toNat / 4, a.toNat % 4 * 16]
  | [a, b] => [a.toNat / 4, a.toNat % 4 * 16 + b.toNat / 16, b.toNat % 16 * 4]
  | a :: b :: c :: rest =>
    a.toNat / 4 :: (a.toNat % 4 * 16 + b.toNat / 16) :: (b.toNat % 16 * 4 + c.toNat / 64) ::
      c.toNat % 64 :: sextets rest

/-- The padding of a byte string. -/
def padding : List UInt8 → List UInt8
  | [] => []
  | [_] => [pad, pad]
  | [_, _] => [pad]
  | _ :: _ :: _ :: rest => padding rest

theorem encode_eq (bytes : List UInt8) : encode bytes = (sextets bytes).map symbol ++ padding bytes := by
  induction bytes using encode.induct with
  | case1 => rfl
  | case2 a => rfl
  | case3 a b => rfl
  | case4 a b c rest ih =>
    rw [encode, ih]
    rfl

theorem sextets_lt (bytes : List UInt8) : ∀ v ∈ sextets bytes, v < 64 := by
  induction bytes using encode.induct with
  | case1 => exact nofun
  | case2 a =>
    have := a.toNat_lt
    simp only [sextets, List.forall_mem_cons]
    exact ⟨by omega, by omega, nofun⟩
  | case3 a b =>
    have := a.toNat_lt
    have := b.toNat_lt
    simp only [sextets, List.forall_mem_cons]
    exact ⟨by omega, by omega, by omega, nofun⟩
  | case4 a b c rest ih =>
    have := a.toNat_lt
    have := b.toNat_lt
    have := c.toNat_lt
    simp only [sextets, List.forall_mem_cons]
    exact ⟨by omega, by omega, by omega, by omega, ih⟩

theorem eq_pad_of_mem_padding (bytes : List UInt8) : ∀ b ∈ padding bytes, b = pad := by
  induction bytes using encode.induct with
  | case1 => exact nofun
  | case2 a => simp [padding]
  | case3 a b => simp [padding]
  | case4 a b c rest ih => exact ih

theorem toNat_ofNat {n : Nat} (small : n < 256) : (UInt8.ofNat n).toNat = n := by
  rw [UInt8.toNat_ofNat', Nat.mod_eq_of_lt small]

theorem ofNat_of_eq {n : Nat} {b : UInt8} (same : n = b.toNat) : UInt8.ofNat n = b := by
  rw [same, UInt8.ofNat_toNat]

/-- Whole groups of bytes are the bytes of their values. -/
theorem bytesOfValues_sextets {bytes : List UInt8} (whole : 3 ∣ bytes.length) :
    bytesOfValues (sextets bytes) = bytes ∧ padding bytes = [] ∧ 4 ∣ (sextets bytes).length := by
  induction bytes using encode.induct with
  | case1 => exact ⟨rfl, rfl, by decide⟩
  | case2 a => simp at whole
  | case3 a b => simp at whole
  | case4 a b c rest ih =>
    simp only [List.length_cons] at whole
    obtain ⟨back, none, groups⟩ := ih (by omega)
    have := b.toNat_lt
    have := c.toNat_lt
    rw [sextets, bytesOfValues, back, ofNat_of_eq (b := a) (by omega), ofNat_of_eq (b := b) (by omega),
      ofNat_of_eq (b := c) (by omega)]
    refine ⟨rfl, none, ?_⟩
    simp only [List.length_cons]
    omega

/-- Whole groups of values are the values of their bytes. -/
theorem sextets_bytesOfValues {vs : List Nat} (whole : 4 ∣ vs.length) (small : ∀ v ∈ vs, v < 64) :
    sextets (bytesOfValues vs) = vs ∧ 3 ∣ (bytesOfValues vs).length := by
  induction vs using bytesOfValues.induct with
  | case1 a b c d rest ih =>
    simp only [List.length_cons] at whole
    simp only [List.forall_mem_cons] at small
    obtain ⟨back, groups⟩ := ih (by omega) small.2.2.2.2
    rw [bytesOfValues, sextets, back, toNat_ofNat (by omega), toNat_ofNat (by omega), toNat_ofNat (by omega)]
    simp only [List.cons.injEq, List.length_cons, and_true]
    omega
  | case2 vs short =>
    rcases vs with _ | ⟨a, _ | ⟨b, _ | ⟨c, _ | ⟨d, rest⟩⟩⟩⟩
    · exact ⟨rfl, by decide⟩
    · simp at whole
    · simp at whole
    · simp at whole
    · exact absurd rfl (short a b c d rest)

/-- The last group of values gives back the bytes that they are the values of. -/
theorem lastBytes?_sextets {bytes : List UInt8} (short : bytes.length ≤ 3) :
    lastBytes? (sextets bytes) = some bytes := by
  rcases bytes with _ | ⟨a, _ | ⟨b, _ | ⟨c, _ | ⟨d, rest⟩⟩⟩⟩
  · rfl
  · rw [sextets, lastBytes?, if_pos (by omega), ofNat_of_eq (b := a) (by omega)]
  · have := b.toNat_lt
    rw [sextets, lastBytes?, if_pos (by omega), ofNat_of_eq (b := a) (by omega), ofNat_of_eq (b := b) (by omega)]
  · have whole : 3 ∣ [a, b, c].length := Nat.dvd_refl 3
    exact congrArg some (bytesOfValues_sextets whole).1
  · simp only [List.length_cons] at short
    omega

/-- Bytes of a last group have its values, and padding in place of the values that it lacks. -/
theorem sextets_of_lastBytes? {vs : List Nat} {bytes : List UInt8} (small : ∀ v ∈ vs, v < 64)
    (enough : 2 ≤ vs.length) (short : vs.length ≤ 4) (read : lastBytes? vs = some bytes) :
    sextets bytes = vs ∧ padding bytes = List.replicate (4 - vs.length) pad ∧ bytes.length ≤ 3 := by
  rcases vs with _ | ⟨a, _ | ⟨b, _ | ⟨c, _ | ⟨d, _ | ⟨e, rest⟩⟩⟩⟩⟩
  · simp at enough
  · simp at enough
  · simp only [List.forall_mem_cons] at small
    rw [lastBytes?, Option.ite_none_right_eq_some] at read
    obtain ⟨unused, read⟩ := read
    obtain rfl := Option.some.inj read
    rw [sextets, toNat_ofNat (by omega), List.cons.injEq, List.cons.injEq, and_iff_left rfl]
    exact ⟨⟨by omega, by omega⟩, rfl, by simp⟩
  · simp only [List.forall_mem_cons] at small
    rw [lastBytes?, Option.ite_none_right_eq_some] at read
    obtain ⟨unused, read⟩ := read
    obtain rfl := Option.some.inj read
    rw [sextets, toNat_ofNat (by omega), toNat_ofNat (by omega), List.cons.injEq, List.cons.injEq, List.cons.injEq,
      and_iff_left rfl]
    exact ⟨⟨by omega, by omega, by omega⟩, rfl, by simp⟩
  · obtain rfl := Option.some.inj read
    exact ⟨(sextets_bytesOfValues (by simp) small).1, rfl, by simp [bytesOfValues]⟩
  · simp only [List.length_cons] at short
    omega

theorem length_encode_mod (bytes : List UInt8) : (encode bytes).length % 4 = 0 := by
  induction bytes using encode.induct with
  | case1 => rfl
  | case2 a => simp [encode]
  | case3 a b => simp [encode]
  | case4 a b c rest ih =>
    simp only [encode, List.length_cons]
    omega

theorem two_le_length_sextets {bytes : List UInt8} (some : bytes ≠ []) : 2 ≤ (sextets bytes).length := by
  rcases bytes with _ | ⟨a, _ | ⟨b, _ | ⟨c, rest⟩⟩⟩
  · exact absurd rfl some
  all_goals simp [sextets]

/-! ## Texts -/

theorem decodeLast_eq_ok_iff {start : Nat} {group bytes : List UInt8} (short : group.length ≤ 4) :
    decodeLast start group = .ok bytes ↔ encode bytes = group ∧ bytes.length ≤ 3 := by
  simp only [decodeLast, bind_eq_ok_iff, throw_bind_else_eq_ok_iff, ne_eq, not_not]
  constructor
  · rintro ⟨vs, read, filled, whole, answer⟩
    obtain ⟨pads, rfl, small, all, -⟩ := exists_pads_of_lastValues read
    cases found : lastBytes? vs with
    | none =>
      rw [found] at answer
      cases answer
    | some bytes =>
      rw [found] at answer
      obtain rfl := Except.ok.inj answer
      rw [List.length_append, List.length_map] at short whole
      rcases Nat.lt_or_ge vs.length 2 with few | some
      · have none : vs.map symbol ++ pads = [] := by
          by_contra some
          exact filled ⟨few, some⟩
        obtain ⟨noValue, rfl⟩ := List.append_eq_nil_iff.1 none
        obtain rfl := List.map_eq_nil_iff.1 noValue
        obtain rfl := Option.some.inj found
        exact ⟨rfl, by simp [bytesOfValues]⟩
      · obtain ⟨values, padded, few⟩ := sextets_of_lastBytes? small some (by omega) found
        have rest : pads = List.replicate (4 - vs.length) pad :=
          List.eq_replicate_iff.2 ⟨by omega, all⟩
        exact ⟨by rw [encode_eq, values, padded, rest], few⟩
  · rintro ⟨rfl, few⟩
    have whole := length_encode_mod bytes
    refine ⟨sextets bytes, ?_, ?_, whole, ?_⟩
    · rw [encode_eq]
      -- Padding is only looked for behind two symbols, and any byte that is encoded gives two.
      refine lastValues_symbols (sextets_lt bytes) (eq_pad_of_mem_padding bytes) fun some => ?_
      rw [Nat.zero_add]
      refine two_le_length_sextets ?_
      rintro rfl
      exact some rfl
    · rintro ⟨few, some⟩
      have filled : bytes ≠ [] := by
        rintro rfl
        exact some rfl
      exact absurd (two_le_length_sextets filled) (Nat.not_le.2 few)
    · rw [lastBytes?_sextets few]
      rfl

theorem encode_append {whole last : List UInt8} (groups : 3 ∣ whole.length) :
    encode (whole ++ last) = encode whole ++ encode last := by
  induction whole using encode.induct with
  | case1 => rfl
  | case2 a => simp at groups
  | case3 a b => simp at groups
  | case4 a b c rest ih =>
    simp only [List.length_cons] at groups
    simp only [List.cons_append, encode, ih (by omega)]

/-- A byte string is whole groups and a last one, which is empty only when nothing is before it. -/
theorem exists_groups (bytes : List UInt8) : ∃ whole last, bytes = whole ++ last ∧ 3 ∣ whole.length ∧
    last.length ≤ 3 ∧ (last = [] → whole = []) := by
  refine ⟨bytes.take ((bytes.length - 1) / 3 * 3), bytes.drop ((bytes.length - 1) / 3 * 3),
    (List.take_append_drop _ _).symm, ?_, ?_, ?_⟩
  · rw [List.length_take]
    omega
  · rw [List.length_drop]
    omega
  · rw [List.drop_eq_nil_iff, List.take_eq_nil_iff]
    omega

theorem length_encode_last {last : List UInt8} (some : last ≠ []) (few : last.length ≤ 3) :
    (encode last).length = 4 := by
  rcases last with _ | ⟨a, _ | ⟨b, _ | ⟨c, _ | ⟨d, rest⟩⟩⟩⟩
  · exact absurd rfl some
  · rfl
  · rfl
  · rfl
  · simp only [List.length_cons] at few
    omega

/-- The last group has at most four bytes, and starts behind whole groups. -/
theorem lastLength_spec (n : Nat) : lastLength n ≤ n ∧ lastLength n ≤ 4 ∧ (n - lastLength n) % 4 = 0 := by
  unfold lastLength
  split <;> omega

/-- Decoding without the search for a foreign byte that stands alone after whole groups. -/
def decodeGroups (input : List UInt8) : Except Fault (List UInt8) := do
  let start := input.length - lastLength input.length
  let vs ← values 0 (input.take start)
  let last ← decodeLast start (input.drop start)
  return bytesOfValues vs ++ last

theorem decodeGroups_of_encode (bytes : List UInt8) : decodeGroups (encode bytes) = .ok bytes := by
  obtain ⟨front, last, rfl, groups, few, filled⟩ := exists_groups bytes
  have split : encode (front ++ last) = encode front ++ encode last := encode_append groups
  have whole := length_encode_mod front
  have size : (encode last).length ≤ 4 ∧ (encode (front ++ last)).length -
      lastLength (encode (front ++ last)).length = (encode front).length := by
    by_cases empty : last = []
    · obtain rfl := filled empty
      subst empty
      exact ⟨by decide, rfl⟩
    · have four := length_encode_last empty few
      rw [split, List.length_append, four]
      refine ⟨Nat.le_refl 4, ?_⟩
      unfold lastLength
      split <;> omega
  obtain ⟨back, none, -⟩ := bytesOfValues_sextets groups
  have first : values 0 (encode front) = .ok (sextets front) := by
    rw [values_eq_ok_iff, encode_eq, none, List.append_nil]
    exact ⟨sextets_lt front, rfl⟩
  have second (start : Nat) : decodeLast start (encode last) = .ok last :=
    (decodeLast_eq_ok_iff size.1).2 ⟨rfl, few⟩
  simp only [decodeGroups, size.2]
  rw [split, List.take_left, List.drop_left, first, ok_bind, second, ok_bind, back]
  rfl

theorem encode_of_decodeGroups {input bytes : List UInt8} (read : decodeGroups input = .ok bytes) :
    encode bytes = input := by
  simp only [decodeGroups, bind_eq_ok_iff] at read
  obtain ⟨vs, first, last, second, answer⟩ := read
  obtain rfl := Except.ok.inj answer
  obtain ⟨bound, short, whole⟩ := lastLength_spec input.length
  obtain ⟨small, symbols⟩ := values_eq_ok_iff.1 first
  obtain ⟨encoded, -⟩ := (decodeLast_eq_ok_iff (by rw [List.length_drop]; omega)).1 second
  have length := congrArg List.length symbols
  rw [List.length_map, List.length_take] at length
  obtain ⟨back, groups⟩ := sextets_bytesOfValues (by omega) small
  rw [encode_append groups, encode_eq (bytesOfValues vs), back, symbols, (bytesOfValues_sextets groups).2.1,
    List.append_nil, encoded, List.take_append_drop]

/-- Decoding takes what encoding gives back to where it is from, and takes nothing else. -/
theorem decode_eq_ok_iff {input bytes : List UInt8} : decode input = .ok bytes ↔ encode bytes = input := by
  constructor
  · intro read
    refine encode_of_decodeGroups ?_
    simp only [decode] at read
    split at read
    · split at read
      · split at read
        · cases read
        · exact read
      · exact read
    · exact read
  · rintro rfl
    have whole := length_encode_mod bytes
    have groups := decodeGroups_of_encode bytes
    simp only [decode]
    rw [if_neg (by omega)]
    exact groups

theorem symbol_lt : ∀ v < 64, (symbol v).toNat < 128 := by decide

theorem toList_toUTF8_text (bytes : List UInt8) : (text bytes).toUTF8.toList = encode bytes := by
  refine toList_toUTF8_of_ascii fun b member => ?_
  rw [encode_eq, List.mem_append, List.mem_map] at member
  rcases member with ⟨v, value, rfl⟩ | padded
  · exact symbol_lt v (sextets_lt bytes v value)
  · rw [eq_pad_of_mem_padding bytes b padded]
    decide

/-- **A base64 text is read as the bytes whose text it is**, and no other text is read. -/
theorem ofText_eq_ok_iff {s : String} {bytes : List UInt8} : ofText s = .ok bytes ↔ s = text bytes := by
  rw [ofText, decode_eq_ok_iff, ← toList_toUTF8_text]
  constructor
  · intro same
    exact (toList_toUTF8_injective same).symm
  · rintro rfl
    rfl

end RelyingParty.Bytes.Base64
