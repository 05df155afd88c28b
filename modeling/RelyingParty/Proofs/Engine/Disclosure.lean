import RelyingParty.Proofs.Engine.FirstFailure
import RelyingParty.Proofs.Schema.Disclosure

/-!
# What engines disclose of attributes

The attribute errors in the failures of an engine are those of the check and of the extraction, so they
disclose no more about a person: the text of a gender that is none.
-/

namespace RelyingParty
set_option autoImplicit false
open Schema AttributeError

theorem withRole_redacted (role : AssertionRole) (bundle : List Assertion) :
    withRole role (bundle.map Assertion.redacted) = (withRole role bundle).map Assertion.redacted := by
  unfold withRole
  rw [List.filter_map]
  rfl

/-- Bundles that differ in nothing but texts have such assertions with a role. -/
theorem exists_only_of_redacted {bundle others : List Assertion} {role : AssertionRole} {a : Assertion}
    (same : bundle.map Assertion.redacted = others.map Assertion.redacted)
    (only : withRole role bundle = [a]) :
    ∃ b, withRole role others = [b] ∧ a.redacted = b.redacted := by
  have roles := congrArg (withRole role) same
  rw [withRole_redacted, withRole_redacted, only, List.map_singleton] at roles
  obtain ⟨b, other, redacted⟩ := List.map_eq_singleton_iff.1 roles.symm
  exact ⟨b, other, redacted.symm⟩

theorem textual_or_plain_of_check {a : Assertion} {x : AttributeError} (failing : check a = .error x) :
    x.Textual ∨ x.Plain := by
  have alike := alike_check (a := a) rfl
  rw [failing] at alike
  exact alike.excused_or_plain

theorem textual_or_plain_of_extract {a : Assertion} {x : AttributeError} (failing : extract a = .error x) :
    x.Textual ∨ x.Plain := by
  have alike := alike_extract (a := a) rfl
  rw [failing] at alike
  exact alike.excused_or_plain

/-- An error on attributes that were in order with other texts is about a text. -/
theorem textual_of_later {e : Engine} {bundle others : List Assertion} {expected : String}
    {minimum : AssuranceLevel} {role : AssertionRole} {a : Assertion} {x : AttributeError}
    (schema : e.attributes = check)
    (same : bundle.map Assertion.redacted = others.map Assertion.redacted)
    (only : withRole role bundle = [a]) (failing : check a = .error x)
    {c : BundleCheck} {f : ValidationFailure}
    (first : FirstRefusal (e.Refuses others expected minimum) BundleCheck.all c f)
    (later : BundleCheck.all.idxOf (.assertion role .attributes) < BundleCheck.all.idxOf c) :
    x.Textual := by
  obtain ⟨b, other, redacted⟩ := exists_only_of_redacted same only
  have clear := first.clear_of_idxOf_lt later
  have alike := alike_check redacted
  rw [failing] at alike
  cases passing : check b with
  | ok _ =>
    rw [passing] at alike
    cases alike with
    | left textual => exact textual
  | error y =>
    have rejected : e.attributes b = .error y := schema ▸ passing
    exact absurd (.assertion other (.attributes rejected)) (clear _)

/-- The attribute errors in the failures of two runs compare as those of the check or of the extraction
do. -/
theorem alike_of_identify {e e' : Engine} (schema : e.attributes = check ∧ e.extract = extract)
    (schema' : e'.attributes = check ∧ e'.extract = extract) {bundle others : List Assertion}
    (same : bundle.map Assertion.redacted = others.map Assertion.redacted) {expected expected' : String}
    {minimum minimum' : AssuranceLevel} {id id' : String} {x y : AttributeError}
    (left : e.identify bundle expected minimum = .error (.invalidAttributeStatement id x))
    (right : e'.identify others expected' minimum' = .error (.invalidAttributeStatement id' y)) :
    (x.Textual ∨ x.Plain) ∧ (y.Textual ∨ y.Plain) ∧ (x.Textual ∨ y.Textual ∨ x = y) := by
  obtain ⟨c, first⟩ := Engine.reports_identify.failed _ left
  obtain ⟨c', first'⟩ := Engine.reports_identify.failed _ right
  obtain ⟨role, a, only, source⟩ := first.refused.accounts
  obtain ⟨role', b, only', source'⟩ := first'.refused.accounts
  rw [schema.1, schema.2] at source
  rw [schema'.1, schema'.2] at source'
  -- unless the errors come from one place, the run that got further had passed the other's place
  rcases source with ⟨rfl, failing⟩ | ⟨rfl, rfl, failing⟩
  · have kind := textual_or_plain_of_check failing
    rcases source' with ⟨rfl, failing'⟩ | ⟨rfl, rfl, failing'⟩
    · refine ⟨kind, textual_or_plain_of_check failing', ?_⟩
      rcases Nat.lt_trichotomy (BundleCheck.all.idxOf (.assertion role .attributes))
        (BundleCheck.all.idxOf (.assertion role' .attributes)) with earlier | equal | later
      · exact .inl (textual_of_later schema'.1 same only failing first' earlier)
      · obtain rfl : role = role' := by
          have listed : BundleCheck.assertion role .attributes ∈ BundleCheck.all := by
            cases role <;> decide
          exact (BundleCheck.assertion.inj ((List.idxOf_inj listed).1 equal)).1
        obtain ⟨b', other, redacted⟩ := exists_only_of_redacted same only
        obtain ⟨rfl⟩ := other.symm.trans only'
        have alike := alike_check redacted
        rw [failing, failing'] at alike
        exact alike.eq_of_error
      · exact .inr (.inl (textual_of_later schema.1 same.symm only' failing' first later))
    · have earlier : BundleCheck.all.idxOf (.assertion role .attributes) <
          BundleCheck.all.idxOf .dataset := by
        cases role <;> decide
      exact ⟨kind, textual_or_plain_of_extract failing',
        .inl (textual_of_later schema'.1 same only failing first' earlier)⟩
  · have kind := textual_or_plain_of_extract failing
    rcases source' with ⟨rfl, failing'⟩ | ⟨rfl, rfl, failing'⟩
    · have later : BundleCheck.all.idxOf (.assertion role' .attributes) <
          BundleCheck.all.idxOf .dataset := by
        cases role' <;> decide
      exact ⟨kind, textual_or_plain_of_check failing',
        .inr (.inl (textual_of_later schema.1 same.symm only' failing' first later))⟩
    · refine ⟨kind, textual_or_plain_of_extract failing', ?_⟩
      obtain ⟨b', other, redacted⟩ := exists_only_of_redacted same only
      obtain ⟨rfl⟩ := other.symm.trans only'
      have alike := alike_extract redacted
      rw [failing, failing'] at alike
      exact alike.eq_of_error

/-- Two errors for which the attributes are rejected of two assertions, or bundles, that differ in
nothing but the texts in attribute values: by the check, by the extraction, or by engines that make use of
both. -/
inductive TwinErrors : AttributeError → AttributeError → Prop
  | check {a b : Assertion} {x y : AttributeError} (same : a.redacted = b.redacted)
    (left : check a = .error x) (right : check b = .error y) : TwinErrors x y
  | extract {a b : Assertion} {x y : AttributeError} (same : a.redacted = b.redacted)
    (left : extract a = .error x) (right : extract b = .error y) : TwinErrors x y
  | engine {e e' : Engine} (schema : e.attributes = Schema.check ∧ e.extract = Schema.extract)
    (schema' : e'.attributes = Schema.check ∧ e'.extract = Schema.extract)
    {bundle others : List Assertion}
    (same : bundle.map Assertion.redacted = others.map Assertion.redacted)
    {expected expected' : String} {minimum minimum' : AssuranceLevel} {id id' : String}
    {x y : AttributeError}
    (left : e.identify bundle expected minimum = .error (.invalidAttributeStatement id x))
    (right : e'.identify others expected' minimum' = .error (.invalidAttributeStatement id' y)) :
    TwinErrors x y

theorem TwinErrors.alike {x y : AttributeError} (twins : TwinErrors x y) :
    (x.Textual ∨ x.Plain) ∧ (y.Textual ∨ y.Plain) ∧ (x.Textual ∨ y.Textual ∨ x = y) := by
  cases twins with
  | check same left right =>
    have alike := alike_check same
    rw [left, right] at alike
    exact ⟨textual_or_plain_of_check left, textual_or_plain_of_check right, alike.eq_of_error⟩
  | extract same left right =>
    have alike := alike_extract same
    rw [left, right] at alike
    exact ⟨textual_or_plain_of_extract left, textual_or_plain_of_extract right, alike.eq_of_error⟩
  | engine schema schema' same left right => exact alike_of_identify schema schema' same left right

/-- **Of the texts in attribute values, messages disclose genders only.** When the texts decide nothing
but between two errors of one variant about one attribute, the messages are the same, unless each repeats
a gender. -/
theorem message_eq_iff {x y : AttributeError} (twins : TwinErrors x y) (same : x.Matches y) :
    x.message = y.message ↔ ¬x.DifferInGender y := by
  obtain ⟨left, right, alike⟩ := twins.alike
  exact message_eq_iff_of_alike same left right alike

namespace Sample

/-- An assertion of a gender only. -/
def ofGender (raw : String) : Assertion :=
  { Assertion.empty with
    attributeStatement := some ⟨[⟨Field.gender.name, [.gender ⟨raw, true, none, none⟩]⟩]⟩ }

/-- The error about a text that names no gender. -/
def unknownGender (raw : String) : AttributeError :=
  .invalidValue Field.gender.name (.unknownGender raw)

theorem twins : TwinErrors (unknownGender "female") (unknownGender "") := by
  have same : (ofGender "female").redacted = (ofGender "").redacted := rfl
  exact .check same rfl rfl

end Sample

theorem message_eq_iff_sample :
    TwinErrors (Sample.unknownGender "female") (Sample.unknownGender "") ∧
      (Sample.unknownGender "female").Matches (Sample.unknownGender "") ∧
      ((Sample.unknownGender "female").message = (Sample.unknownGender "").message ↔
        ¬(Sample.unknownGender "female").DifferInGender (Sample.unknownGender "")) :=
  ⟨Sample.twins, ⟨rfl, rfl⟩, message_eq_iff Sample.twins ⟨rfl, rfl⟩⟩

/-- Two assertions that differ in the text of a gender only are rejected for one attribute in one way,
and yet with different messages. -/
theorem gender_disclosed :
    (Sample.ofGender "female").redacted = (Sample.ofGender "").redacted ∧
      check (Sample.ofGender "female") = .error (Sample.unknownGender "female") ∧
      check (Sample.ofGender "") = .error (Sample.unknownGender "") ∧
      (Sample.unknownGender "female").Matches (Sample.unknownGender "") ∧
      (Sample.unknownGender "female").message ≠ (Sample.unknownGender "").message := by
  refine ⟨rfl, rfl, rfl, ⟨rfl, rfl⟩, ?_⟩
  intro same
  exact absurd (message_unknownGender_injective same) (by decide)

end RelyingParty
