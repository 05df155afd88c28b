import RelyingParty.Proofs.Config.Material
import RelyingParty.Proofs.Config.Variables

/-!
# Key lists read back

Public keys that are written to the variables as key lists are loaded in their order, whatever blanks and blank
entries are put between them, and are trusted again under their identifiers for their roles. The equals signs at
the end of a base64 text are no separators, because an entry is split at the first one only.
-/

namespace RelyingParty.Config
set_option autoImplicit false
open Text Signing Trust

/-! ## Written keys -/

/-- The configured key that holds a public key. -/
def TrustedKey.ofKey (key : PublicKey) : TrustedKey := ⟨key.kid, Bytes.Base64.text key.bytes⟩

/-- A public key that a key list can hold: a valid one, whose identifier has no blank at its ends and none of the
separators. -/
structure Exportable (key : PublicKey) : Prop where
  kid : Trimmed key.kid.toList
  noComma : ',' ∉ key.kid.toList
  noSeparator : '=' ∉ key.kid.toList
  length : key.bytes.length = 32
  point : (Edwards.Point.decode? key.bytes).isSome = true

/-- The value of a variable that holds some keys in order: their entries, with any blanks and blank entries, joined
by commas. A variable that is not set holds none. -/
inductive Carries (keys : List PublicKey) : Option String → Prop where
  | unset (empty : keys = []) : Carries keys none
  | set {entries : List (List Char)} (lists : Lists entries (keys.map TrustedKey.ofKey)) :
    Carries keys (some (String.ofList ([','].intercalate entries)))

theorem visible_symbol : ∀ v < 64, isBlank (Char.ofNat (Bytes.Base64.symbol v).toNat) = false ∧
    Char.ofNat (Bytes.Base64.symbol v).toNat ≠ ',' := by decide

/-- A base64 text has no blank and no comma. -/
theorem visible_of_mem_text {bytes : List UInt8} {c : Char} (member : c ∈ (Bytes.Base64.text bytes).toList) :
    isBlank c = false ∧ c ≠ ',' := by
  rw [Bytes.Base64.text, String.toList_ofList, Bytes.Base64.encode_eq, List.map_append, List.mem_append] at member
  rcases member with symbols | padding
  · simp only [List.mem_map] at symbols
    obtain ⟨_, ⟨v, value, rfl⟩, rfl⟩ := symbols
    exact visible_symbol v (Bytes.Base64.sextets_lt bytes v value)
  · obtain ⟨b, padded, rfl⟩ := List.mem_map.1 padding
    rw [Bytes.Base64.eq_pad_of_mem_padding bytes b padded]
    decide

section
variable {key : PublicKey} {keys : List PublicKey}

theorem Exportable.listable (exportable : Exportable key) : (TrustedKey.ofKey key).Listable := by
  refine ⟨exportable.kid, exportable.noSeparator, ?_, ?_⟩
  · intro c first
    exact (visible_of_mem_text (List.mem_of_mem_head? first)).1
  · intro c last
    exact (visible_of_mem_text (List.mem_of_mem_getLast? last)).1

theorem Exportable.decodes (exportable : Exportable key) : (TrustedKey.ofKey key).Decodes key :=
  ⟨rfl, rfl, exportable.length, Edwards.exists_onCurve exportable.point⟩

theorem TrustedKey.EntryFor.noComma {entry : List Char} (exportable : Exportable key)
    (holds : (TrustedKey.ofKey key).EntryFor entry) : ',' ∉ entry := by
  obtain ⟨kid, text, rfl, spaced, spaced'⟩ := holds
  have visible : isBlank ',' = false := by decide
  rw [List.mem_append, List.mem_cons, spaced.mem_iff visible, spaced'.mem_iff visible]
  rintro (member | same | member)
  · exact exportable.noComma member
  · cases same
  · exact (visible_of_mem_text member).2 rfl

theorem Lists.noComma {entries : List (List Char)} (exportable : ∀ key ∈ keys, Exportable key)
    (lists : Lists entries (keys.map TrustedKey.ofKey)) : ∀ entry ∈ entries, ',' ∉ entry := by
  have visible : isBlank ',' = false := by decide
  generalize held : keys.map TrustedKey.ofKey = ks at lists
  induction lists generalizing keys with
  | nil => exact nofun
  | blank blank _ ih => exact List.forall_mem_cons.2 ⟨blank.notMem visible, ih exportable held⟩
  | key holds _ ih =>
    obtain ⟨key, rest, rfl, rfl, rfl⟩ := List.map_eq_cons_iff.1 held
    rw [List.forall_mem_cons] at exportable
    exact List.forall_mem_cons.2 ⟨holds.noComma exportable.1, ih exportable.2 rfl⟩

/-- What carries some keys is loaded as these keys. -/
theorem Carries.loaded {value : Option String} (exportable : ∀ key ∈ keys, Exportable key)
    (carries : Carries keys value) : fromVariable value [] keyList = .ok (keys.map TrustedKey.ofKey) := by
  have listable : ∀ k ∈ keys.map TrustedKey.ofKey, k.Listable :=
    List.forall_mem_map.2 fun key member => (exportable key member).listable
  cases carries with
  | unset empty =>
    rw [empty]
    rfl
  | @set entries lists =>
    rw [fromVariable, keyList_eq_ok_iff, String.toList_ofList]
    refine ⟨listable, ?_⟩
    cases entries with
    | nil =>
      cases keys with
      | nil => exact .blank nofun .nil
      | cons key rest => cases lists
    | cons entry rest =>
      rw [List.splitOn_intercalate ',' (lists.noComma exportable) (List.cons_ne_nil entry rest)]
      exact lists

end

/-! ## Loading them -/

/-- The variables without the key lists. -/
def withoutKeys (lookup : String → Option String) : String → Option String := fun name =>
  if name = keysVariable .idp ∨ name = keysVariable .hub then none else lookup name

/-- The key lists change nothing but the keys. -/
theorem ofVariables_eq_map {lookup : String → Option String} {idp hub : List TrustedKey}
    (read : fromVariable (lookup (keysVariable .idp)) [] keyList = .ok idp)
    (read' : fromVariable (lookup (keysVariable .hub)) [] keyList = .ok hub) :
    Settings.ofVariables lookup =
      (Settings.ofVariables (withoutKeys lookup)).map fun s => { s with trustKeys := ⟨idp, hub⟩ } := by
  have unset (role : SignerRole) : fromVariable (withoutKeys lookup (keysVariable role)) [] keyList = .ok [] := by
    cases role <;> rfl
  simp only [Settings.ofVariables, map_bind]
  refine bind_congr_of_ok fun e _ => bind_congr_of_ok fun n _ => bind_congr_of_ok fun l _ => ?_
  refine (bind_of_eq_ok read).trans (Eq.trans ?_ (bind_of_eq_ok (unset .idp)).symm)
  refine (bind_of_eq_ok read').trans (Eq.trans ?_ (bind_of_eq_ok (unset .hub)).symm)
  -- The keys are read already, and the check of the settings looks at none of them.
  rfl

/-- The last one under a name is any one, where all names are different. -/
theorem lastNamed_iff_mem {α β : Type} {name : α → β} {list : List α} {a : α} (distinct : (list.map name).Nodup) :
    LastNamed name list a ↔ a ∈ list := by
  constructor
  · rintro ⟨before, after, rfl, -⟩
    exact List.mem_append_right before List.mem_cons_self
  · intro member
    obtain ⟨before, after, rfl⟩ := List.append_of_mem member
    refine ⟨before, after, rfl, ?_⟩
    rw [List.map_append, List.map_cons, List.nodup_append] at distinct
    exact (List.nodup_cons.1 distinct.2.1).1

/-- **Key lists are read back.** Keys under different identifiers, written to the variables with any blanks and
blank entries, are loaded in order as they were written, and nothing else that is loaded depends on them. The
material then has each of them under its identifier for its role, and no others. -/
theorem keys_read_back {keys : SignerRole → List PublicKey} {lookup : String → Option String}
    (exportable : ∀ role, ∀ key ∈ keys role, Exportable key)
    (distinct : ∀ role, ((keys role).map PublicKey.kid).Nodup)
    (carries : ∀ role, Carries (keys role) (lookup (keysVariable role))) :
    (Settings.ofVariables lookup = (Settings.ofVariables (withoutKeys lookup)).map fun s =>
        { s with trustKeys := ⟨(keys .idp).map .ofKey, (keys .hub).map .ofKey⟩ }) ∧
      ∀ s, Settings.ofVariables lookup = .ok s →
        (∀ role, s.trustKeys.of role = (keys role).map .ofKey) ∧
          (∀ role, ∀ key ∈ keys role, (TrustedKey.ofKey key).decode Ed25519.scheme = .ok key) ∧
          ∃ m, s.material Ed25519.scheme = .ok m ∧
            ∀ role kid key, m.key? role kid = some key ↔ key ∈ keys role ∧ key.kid = kid := by
  have loaded (role : SignerRole) := (carries role).loaded (exportable role)
  refine ⟨ofVariables_eq_map (loaded .idp) (loaded .hub), ?_⟩
  intro s made
  have listed (role : SignerRole) : s.trustKeys.of role = (keys role).map .ofKey := by
    rw [ofVariables_eq_map (loaded .idp) (loaded .hub), map_eq_ok_iff] at made
    obtain ⟨_, -, rfl⟩ := made
    cases role <;> rfl
  have held : ∀ role, ∀ k ∈ s.trustKeys.of role, ∃ key, k.Decodes key := by
    intro role
    rw [listed, List.forall_mem_map]
    exact fun key member => ⟨key, (exportable role key member).decodes⟩
  refine ⟨listed, fun role key member => decode_of_decodes (exportable role key member).decodes, ?_⟩
  obtain ⟨m, trusted⟩ := exists_material_iff.2 held
  have answers := trusts_of_material trusted
  refine ⟨m, trusted, ?_⟩
  intro role kid key
  -- Each key is the only one, so also the last one, under its identifier.
  have names : (((keys role).map TrustedKey.ofKey).map TrustedKey.kid).Nodup := by
    rw [List.map_map]
    exact distinct role
  rw [answers.key?_eq_some_iff, listed]
  simp only [lastNamed_iff_mem names, List.mem_map]
  constructor
  · rintro ⟨_, ⟨other, member, rfl⟩, rfl, decodes⟩
    obtain rfl := decodes.unique (exportable role other member).decodes
    exact ⟨member, rfl⟩
  · rintro ⟨member, rfl⟩
    exact ⟨_, ⟨key, member, rfl⟩, rfl, (exportable role key member).decodes⟩

namespace Sample

/-- A key under an identifier that is not ASCII and has a blank inside. -/
def second : PublicKey := { level with kid := "ключ 2" }

/-- Two keys of identity providers, and none of the hub. -/
def written : SignerRole → List PublicKey := perRole [neutral, second] []

/-- The entries of both keys, with a blank one between them. -/
def entries : List String :=
  [" idp-1 = " ++ neutralText ++ "\u3000", "\t", "ключ 2\u00a0=\u2003" ++ levelText]

/-- The list of these entries as the only variable. -/
def writtenTo (name : String) : Option String :=
  if name = "VERIFY_IDP_SIGNING_KEYS" then some (",".intercalate entries) else none

theorem exportable_written : ∀ role, ∀ key ∈ written role, Exportable key := by
  have trimmed (kid : String) (same : trimChars kid.toList = kid.toList) : Trimmed kid.toList :=
    (trimChars_eq_iff.1 same).1
  rintro (_ | _)
  · refine List.forall_mem_cons.2 ⟨?_, List.forall_mem_singleton.2 ?_⟩
    · exact ⟨trimmed _ (by decide), by decide, by decide, decodes_neutral.length, by decide +kernel⟩
    · exact ⟨trimmed _ (by decide), by decide, by decide, decodes_level.length, by decide +kernel⟩
  · exact nofun

theorem lists_entries : Lists (entries.map String.toList) ((written .idp).map TrustedKey.ofKey) := by
  have spaced {core cs : List Char} (same : trimChars cs = core) : Spaced core cs := (trimChars_eq_iff.1 same).2
  have first : (TrustedKey.ofKey neutral).EntryFor (" idp-1 = " ++ neutralText ++ "\u3000").toList :=
    ⟨" idp-1 ".toList, (" " ++ neutralText ++ "\u3000").toList, by decide +kernel, spaced (by decide +kernel),
      spaced (by decide +kernel)⟩
  have blank : Blank "\t".toList := trimChars_eq_nil_iff.1 (by decide +kernel)
  have last : (TrustedKey.ofKey second).EntryFor ("ключ 2\u00a0=\u2003" ++ levelText).toList :=
    ⟨"ключ 2\u00a0".toList, ("\u2003" ++ levelText).toList, by decide +kernel, spaced (by decide +kernel),
      spaced (by decide +kernel)⟩
  exact .key first (.blank blank (.key last .nil))

theorem carries_written (role : SignerRole) : Carries (written role) (writtenTo (keysVariable role)) := by
  cases role with
  | idp =>
    have value : ",".intercalate entries = String.ofList ([','].intercalate (entries.map String.toList)) := by
      decide +kernel
    rw [show writtenTo (keysVariable .idp) = some (",".intercalate entries) from rfl, value]
    exact .set lists_entries
  | hub => exact .unset rfl

end Sample

theorem keys_read_back_sample : ∃ s m, Settings.ofVariables Sample.writtenTo = .ok s ∧
    s.trustKeys = ⟨[.ofKey Sample.neutral, .ofKey Sample.second], []⟩ ∧ s.material Ed25519.scheme = .ok m ∧
      m.key? .idp "ключ 2" = some Sample.second ∧ m.key? .hub "ключ 2" = none := by
  have distinct : ∀ role, ((Sample.written role).map PublicKey.kid).Nodup := by
    rintro (_ | _) <;> decide
  obtain ⟨loaded, held⟩ := keys_read_back Sample.exportable_written distinct Sample.carries_written
  have others : Settings.ofVariables (withoutKeys Sample.writtenTo) = .ok .default := by decide +kernel
  rw [others] at loaded
  obtain ⟨-, -, m, made, answers⟩ := held _ loaded
  refine ⟨_, m, loaded, rfl, made, (answers _ _ _).2 ⟨by decide, rfl⟩, ?_⟩
  rw [Option.eq_none_iff_forall_ne_some]
  exact fun key found => nomatch ((answers _ _ _).1 found).1

end RelyingParty.Config
