import RelyingParty.Proofs.Calendar.DateSpelling
import RelyingParty.Proofs.Schema.Agreement

/-!
# The text of the date of birth

The schema asks for the date of birth in the form `YYYY-MM-DD`, and the check reads it more generously. What
it accepts are the spellings of a date, which is the one that is extracted; of these only the text of the
date has the form.
-/

namespace RelyingParty
set_option autoImplicit false
open Calendar

/-- A value with another text, if it is a date. -/
def AttributeValue.redated (s : String) : AttributeValue → AttributeValue
  | .date t => .date { t with value := s }
  | v => v

/-- An attribute with another text in its dates. -/
def Attribute.redated (s : String) (a : Attribute) : Attribute :=
  { a with values := a.values.map (.redated s) }

namespace Schema

/-- The assertion with another text in place of its date of birth. -/
def redated (a : Assertion) (s : String) : Assertion :=
  withAttributes a (a.attributes.map (.redated s))

section
variable {s : String} {d : Date}

theorem valuesOf_redated (f : Field) (attributes : List Attribute) :
    valuesOf f (attributes.map (.redated s)) = (valuesOf f attributes).map (.redated s) := by
  have kept : named f (attributes.map (.redated s)) = (named f attributes).map (.redated s) :=
    List.filter_map
  rw [valuesOf, kept, List.flatMap_map, valuesOf, List.map_flatMap]
  rfl

/-- A good value stays good with another spelling of a date. -/
theorem Good.redated {f : Field} {v : AttributeValue} (read : Date.ofCompactText? s = some d)
    (good : Good f v) : Good f (v.redated s) := by
  obtain ⟨kind, sound⟩ := good
  cases v with
  | date t => exact ⟨kind, sound.1, d, read⟩
  | _ => exact ⟨kind, sound⟩

theorem Fits.redated {role : AssertionRole} {x : Attribute} {f : Field}
    (read : Date.ofCompactText? s = some d) (fits : Fits role x f) : Fits role (x.redated s) f := by
  obtain ⟨name, allowed, nonempty, single, good⟩ := fits
  refine ⟨name, allowed, mt List.map_eq_nil_iff.1 nonempty, ?_, ?_⟩
  · intro one
    exact List.length_map _ |>.trans (single one)
  · intro v member
    obtain ⟨w, present, rfl⟩ := List.mem_map.1 member
    exact (good w present).redated read

theorem Conforms.redated {a : Assertion} (read : Date.ofCompactText? s = some d) (conforms : Conforms a) :
    Conforms (redated a s) := by
  obtain ⟨-, distinct, fits, required⟩ := conforms
  refine ⟨fun _ => Option.some_ne_none _, ?_, ?_, ?_⟩
  · have names : (a.attributes.map (.redated s)).map Attribute.name = a.attributes.map Attribute.name :=
      List.map_map
    exact names ▸ distinct
  · intro x member
    obtain ⟨y, present, rfl⟩ := List.mem_map.1 member
    obtain ⟨f, fit⟩ := fits y present
    exact ⟨f, fit.redated read⟩
  · intro role f needed
    obtain ⟨x, present, same⟩ := required role f needed
    exact ⟨x.redated s, List.mem_map_of_mem present, same⟩

/-- The only date of birth of an accepted identity assertion is the text that was read for the dataset. -/
theorem exists_dateOfBirth {a : Assertion} (role : a.role = .identity) (checked : check a = .ok ()) :
    ∃ t d, valuesOf .dateOfBirth a.attributes = [.date t] ∧ extract a = .ok d ∧
      Date.ofCompactText? t.value = some d.dateOfBirth.value := by
  obtain ⟨d, extracted, released⟩ := exists_extract role (check_eq_ok_iff.1 checked)
  obtain ⟨v, _, ⟨raw, rfl, read⟩, others, only⟩ := List.forall₂_cons_right_iff.1 released.dateOfBirth
  obtain rfl := List.forall₂_nil_right_iff.1 others
  exact ⟨_, d, only, extracted, read⟩

/-- The date of birth of an accepted assertion may be any text that is read as a date. -/
theorem check_redated_iff {a : Assertion} (role : a.role = .identity) (checked : check a = .ok ()) :
    check (redated a s) = .ok () ↔ ∃ d, Date.ofCompactText? s = some d := by
  constructor
  · intro accepted
    obtain ⟨t, -, before, -⟩ := exists_dateOfBirth role checked
    obtain ⟨t', d, after, -, read⟩ := exists_dateOfBirth (a := redated a s) role accepted
    have changed : valuesOf .dateOfBirth (redated a s).attributes = [.date { t with value := s }] :=
      (valuesOf_redated .dateOfBirth a.attributes).trans (by rw [before]; rfl)
    obtain ⟨same, -⟩ := List.cons.inj (after.symm.trans changed)
    obtain rfl := AttributeValue.date.inj same
    exact ⟨_, read⟩
  · rintro ⟨d, read⟩
    exact check_eq_ok_iff.2 ((check_eq_ok_iff.1 checked).redated read)

end

/-- **A date of birth is accepted in every spelling, and extracted as the date that is spelled.** Among the
spellings of that date only its own text has the form `YYYY-MM-DD`, and it has so when the year needs no
sign. So no date of birth is accepted in two texts of that form. -/
theorem dateOfBirth_of_check {a : Assertion} (role : a.role = .identity) (checked : check a = .ok ()) :
    ∃ t d, valuesOf .dateOfBirth a.attributes = [.date t] ∧ extract a = .ok d ∧
      Spells t.value.toList d.dateOfBirth.value.civil ∧ d.dateOfBirth.value.civil.Exists ∧
      (∀ s, Spells s.toList d.dateOfBirth.value.civil →
        (IsoForm s ↔ s = d.dateOfBirth.value.text ∧ d.dateOfBirth.value.FourDigitYear)) ∧
      ∀ s, check (redated a s) = .ok () ↔ ∃ c, Spells s.toList c ∧ c.Exists ∧ c.Supported := by
  obtain ⟨t, d, only, extracted, read⟩ := exists_dateOfBirth role checked
  refine ⟨t, d, only, extracted, Date.ofCompactText?_eq_some_iff.1 read, exists_civilOfDay _, ?_, ?_⟩
  · intro s spelled
    exact Date.isoForm_iff_of_spells spelled
  · intro s
    rw [check_redated_iff role checked, Date.exists_ofCompactText?_iff]

theorem dateOfBirth_of_check_married :
    married.role = .identity ∧ check married = .ok () ∧
      ∃ t d, valuesOf .dateOfBirth married.attributes = [.date t] ∧ extract married = .ok d ∧
        Spells t.value.toList d.dateOfBirth.value.civil ∧ d.dateOfBirth.value.civil.Exists ∧
        (∀ s, Spells s.toList d.dateOfBirth.value.civil →
          (IsoForm s ↔ s = d.dateOfBirth.value.text ∧ d.dateOfBirth.value.FourDigitYear)) ∧
        ∀ s, check (redated married s) = .ok () ↔ ∃ c, Spells s.toList c ∧ c.Exists ∧ c.Supported :=
  ⟨rfl, rfl, dateOfBirth_of_check rfl rfl⟩

/-- The same date of birth is accepted with a month of one digit, which is neither the form nor the text of
the date. -/
theorem short_month_accepted :
    (redated married "1970-2-28").role = .identity ∧ check (redated married "1970-2-28") = .ok () ∧
      valuesOf .dateOfBirth (redated married "1970-2-28").attributes =
        [.date ⟨"1970-2-28", true, none, none⟩] ∧
      ¬IsoForm "1970-2-28" ∧ extract (redated married "1970-2-28") = extract married ∧
      ∃ d, extract married = .ok d ∧ d.dateOfBirth.value.text = "1970-02-28" := by
  have form : IsoForm "1970-02-28" :=
    ⟨['1', '9', '7', '0'], ['0', '2'], ['2', '8'], rfl, rfl, rfl, rfl, List.all_eq_true.1 rfl⟩
  have longer : ¬IsoForm "1970-2-28" := fun short => absurd short.length (by decide)
  obtain ⟨t, d, only, extracted, read⟩ := exists_dateOfBirth (a := married) rfl rfl
  obtain rfl := AttributeValue.date.inj (List.cons.inj only).1
  have spelled := Date.ofCompactText?_eq_some_iff.1 read
  exact ⟨rfl, rfl, rfl, longer, rfl, d, extracted, ((Date.isoForm_iff_of_spells spelled).1 form).1.symm⟩

end Schema
end RelyingParty
