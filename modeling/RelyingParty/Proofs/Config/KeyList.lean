import RelyingParty.Config.Variables
import RelyingParty.Proofs.Refusal
import RelyingParty.Proofs.Text.Split
import RelyingParty.Trust.Role

/-!
# What a key list says

A key list is entries with commas between them. An entry is blank, or the identifier of a key, the first equals
sign of the entry and the text of the key. A list with any other entry is refused for the first such one.
-/

namespace RelyingParty.Config
set_option autoImplicit false
open Text Trust

/-- The configured keys of a role. -/
def TrustKeys.of (k : TrustKeys) : SignerRole → List TrustedKey
  | .idp => k.idp
  | .hub => k.hub

/-! ## Entries -/

/-- A key that an entry can hold: its parts have no blank at their ends, and its identifier no equals sign. -/
structure TrustedKey.Listable (k : TrustedKey) : Prop where
  kid : Trimmed k.kid.toList
  noSeparator : '=' ∉ k.kid.toList
  publicKey : Trimmed k.publicKey.toList

/-- An entry with a key: its identifier, an equals sign and its text, with blanks around each of these. -/
def TrustedKey.EntryFor (k : TrustedKey) (entry : List Char) : Prop :=
  ∃ kid key, entry = kid ++ '=' :: key ∧ Spaced k.kid.toList kid ∧ Spaced k.publicKey.toList key

/-- An entry that is refused, and the failure that shows it without the blanks around it. -/
structure Malformed (entry : List Char) (failure : Error) : Prop where
  notBlank : ¬Blank entry
  noSeparator : '=' ∉ entry
  reported : failure = .invalidValue (.keyWithoutSeparator (String.ofList (trimChars entry)))

section
variable {entry : List Char} {k : TrustedKey}

theorem isBlank_separator : isBlank '=' = false := by decide

/-- Which key an entry holds is told by its parts around the first equals sign. -/
theorem keyOfEntry_eq_ok_iff_split : keyOfEntry (trimChars entry) = .ok k ↔
    ∃ kid key, splitFirst? '=' entry = some (kid, key) ∧ trimChars kid = k.kid.toList ∧
      trimChars key = k.publicKey.toList := by
  have parts := splitFirst?_trimChars isBlank_separator entry
  rw [keyOfEntry]
  cases inner : splitFirst? '=' (trimChars entry) with
  | none =>
    rw [inner, Option.map_none, eq_comm, Option.map_eq_none_iff] at parts
    rw [parts]
    exact iff_of_false nofun nofun
  | some inner =>
    rw [inner, Option.map_some, eq_comm, Option.map_eq_some_iff] at parts
    obtain ⟨⟨kid, key⟩, outer, same⟩ := parts
    obtain ⟨same, same'⟩ := Prod.mk.inj same
    rw [outer, Except.ok.injEq]
    constructor
    · rintro rfl
      exact ⟨kid, key, rfl, by rw [same, String.toList_ofList], by rw [same', String.toList_ofList]⟩
    · rintro ⟨_, _, found, identifier, text⟩
      cases found
      rw [← same, ← same', identifier, text, String.ofList_toList, String.ofList_toList]

theorem keyOfEntry_eq_ok_iff : keyOfEntry (trimChars entry) = .ok k ↔ k.Listable ∧ k.EntryFor entry := by
  rw [keyOfEntry_eq_ok_iff_split]
  simp only [splitFirst?_eq_some_iff, trimChars_eq_iff]
  constructor
  · rintro ⟨kid, key, ⟨split, absent⟩, ⟨trimmed, spaced⟩, trimmed', spaced'⟩
    have absent := mt (spaced.mem_iff isBlank_separator).2 absent
    exact ⟨⟨trimmed, absent, trimmed'⟩, kid, key, split, spaced, spaced'⟩
  · rintro ⟨listable, kid, key, split, spaced, spaced'⟩
    have absent := mt (spaced.mem_iff isBlank_separator).1 listable.noSeparator
    exact ⟨kid, key, ⟨split, absent⟩, ⟨listable.kid, spaced⟩, listable.publicKey, spaced'⟩

theorem reports_keyOfEntry (visible : ¬Blank entry) :
    Reports Malformed [entry] (keyOfEntry (trimChars entry)) := by
  have same := (spaced_trimChars entry).mem_iff isBlank_separator
  rw [keyOfEntry]
  cases found : splitFirst? '=' (trimChars entry) with
  | none =>
    have absent : '=' ∉ entry := mt same.1 (splitFirst?_eq_none_iff.1 found)
    exact reports_error (List.forall_mem_nil _) ⟨visible, absent, rfl⟩
  | some parts =>
    refine reports_ok _ (List.forall_mem_singleton.2 fun failure refused => refused.noSeparator ?_)
    rw [same, (splitFirst?_eq_some_iff.1 found).1]
    exact List.mem_append_right _ List.mem_cons_self

theorem TrustedKey.EntryFor.not_blank (entryFor : k.EntryFor entry) : ¬Blank entry := by
  obtain ⟨kid, key, rfl, -, -⟩ := entryFor
  exact fun blank => blank.notMem isBlank_separator (List.mem_append_right _ List.mem_cons_self)

end

/-! ## Lists -/

/-- Entries that hold some keys in order, with any blank entries among them. -/
inductive Lists : List (List Char) → List TrustedKey → Prop where
  | nil : Lists [] []
  | blank {entry : List Char} {rest : List (List Char)} {keys : List TrustedKey} (blank : Blank entry)
    (others : Lists rest keys) : Lists (entry :: rest) keys
  | key {entry : List Char} {k : TrustedKey} {rest : List (List Char)} {keys : List TrustedKey}
    (holds : k.EntryFor entry) (others : Lists rest keys) : Lists (entry :: rest) (k :: keys)

/-- The keys that some entries hold. -/
def keysOfEntries (entries : List (List Char)) : Except Error (List TrustedKey) :=
  ((entries.map trimChars).filter fun entry => !entry.isEmpty).mapM keyOfEntry

theorem keyList_eq (raw : String) : keyList raw = keysOfEntries (raw.toList.splitOn ',') := by
  rw [keyList, keyEntries, splitChars_eq_splitOn, keysOfEntries]

section
variable {entry : List Char} {rest entries : List (List Char)} {keys : List TrustedKey}

theorem keysOfEntries_blank (blank : Blank entry) : keysOfEntries (entry :: rest) = keysOfEntries rest := by
  rw [keysOfEntries, List.map_cons, trimChars_eq_nil_iff.2 blank]
  rfl

theorem keysOfEntries_visible (visible : ¬Blank entry) :
    keysOfEntries (entry :: rest) = do
      let k ← keyOfEntry (trimChars entry)
      let keys ← keysOfEntries rest
      return k :: keys := by
  have filled : (trimChars entry).isEmpty = false :=
    List.isEmpty_eq_false_iff.2 (mt trimChars_eq_nil_iff.1 visible)
  rw [keysOfEntries, List.map_cons, List.filter_cons_of_pos (by rw [filled]; rfl), List.mapM_cons]
  rfl

theorem keysOfEntries_eq_ok_iff :
    keysOfEntries entries = .ok keys ↔ (∀ k ∈ keys, k.Listable) ∧ Lists entries keys := by
  induction entries generalizing keys with
  | nil =>
    constructor
    · intro read
      obtain rfl : [] = keys := Except.ok.inj read
      exact ⟨nofun, .nil⟩
    · rintro ⟨-, lists⟩
      cases lists
      rfl
  | cons entry rest ih =>
    by_cases blank : Blank entry
    · rw [keysOfEntries_blank blank, ih]
      refine and_congr_right fun _ => ⟨.blank blank, ?_⟩
      intro lists
      cases lists with
      | blank _ others => exact others
      | key holds => exact absurd blank holds.not_blank
    · simp only [keysOfEntries_visible blank, bind_eq_ok_iff, keyOfEntry_eq_ok_iff, ih]
      constructor
      · rintro ⟨k, ⟨listable, holds⟩, others, ⟨all, lists⟩, made⟩
        obtain rfl : k :: others = keys := Except.ok.inj made
        exact ⟨List.forall_mem_cons.2 ⟨listable, all⟩, .key holds lists⟩
      · rintro ⟨all, lists⟩
        cases lists with
        | blank blank' => exact absurd blank' blank
        | key holds lists =>
          rw [List.forall_mem_cons] at all
          exact ⟨_, ⟨all.1, holds⟩, _, ⟨all.2, lists⟩, rfl⟩

/-- Reading entries fails as the first malformed one does. -/
theorem reports_keysOfEntries (entries : List (List Char)) :
    Reports Malformed entries (keysOfEntries entries) := by
  induction entries with
  | nil => exact reports_ok [] (List.forall_mem_nil _)
  | cons entry rest ih =>
    by_cases blank : Blank entry
    · rw [keysOfEntries_blank blank]
      have clear : ∀ c ∈ [entry], ∀ failure, ¬Malformed c failure :=
        List.forall_mem_singleton.2 fun _ refused => refused.notBlank blank
      exact ih.after clear
    · rw [keysOfEntries_visible blank]
      exact (reports_keyOfEntry blank).bind fun k _ => ih.map_answer (k :: ·)

end

/-- A key list is read when every entry that is not blank has an equals sign. -/
theorem exists_keyList_iff {raw : String} :
    (∃ keys, keyList raw = .ok keys) ↔ ∀ entry ∈ raw.toList.splitOn ',', ¬Blank entry → '=' ∈ entry := by
  rw [keyList_eq, (reports_keysOfEntries _).ok_iff]
  refine forall₂_congr fun entry _ => ?_
  constructor
  · intro fine visible
    by_contra absent
    exact fine _ ⟨visible, absent, rfl⟩
  · rintro separated failure ⟨visible, absent, -⟩
    exact absent (separated visible)

theorem keyList_eq_ok_iff {raw : String} {keys : List TrustedKey} :
    keyList raw = .ok keys ↔ (∀ k ∈ keys, k.Listable) ∧ Lists (raw.toList.splitOn ',') keys := by
  rw [keyList_eq, keysOfEntries_eq_ok_iff]

end RelyingParty.Config
