import RelyingParty.Proofs.Assurance
import RelyingParty.Proofs.Canonical
import RelyingParty.Proofs.Engine.Authenticity

/-!
# Response bodies are all or nothing

A body has all parts of an identity when its scenario says that one was verified, and none of them
otherwise, whichever way an engine came to it. It is read back from its text, and the body of an identity
is written just as the identity is.
-/

namespace RelyingParty
set_option autoImplicit false

/-! ## Reading back -/

theorem Scenario.ofJson?_toJson (s : Scenario) : ofJson? s.toJson = some s := by
  cases s <;> exact Json.constant?_name _ (by decide)

theorem AssuranceLevel.toJson_ne_null (level : AssuranceLevel) : level.toJson ≠ .null := nofun

namespace ResponseBody

/-- All instants in the body are legible. -/
def Legible (b : ResponseBody) : Prop := ∀ a ∈ b.attributes.toList, a.Legible

instance (b : ResponseBody) : Decidable b.Legible :=
  inferInstanceAs (Decidable (∀ a ∈ b.attributes.toList, a.Legible))

theorem ofJson?_toJson {b : ResponseBody} (legible : b.Legible) : ofJson? b.toJson = some b := by
  have order : Json.InOrder _ ["scenario", "pid", "levelOfAssurance", "attributes"] :=
    (((Json.inOrder_single "scenario" b.scenario.toJson).append
      (Json.inOrder_member? "pid" .string b.pid)).append
      (Json.inOrder_member? "levelOfAssurance" AssuranceLevel.toJson b.levelOfAssurance)).append
      (Json.inOrder_member? "attributes" CanonicalAttributes.toJson b.attributes)
  obtain ⟨r, record, fields⟩ := Json.Record.ofJson?_object order (by decide)
  have scenario : r.required "scenario" Scenario.ofJson? = some b.scenario :=
    fields.required (by simp) (Scenario.ofJson?_toJson _)
  have pid : r.optional "pid" Json.string? = some b.pid :=
    fields.optional (by simp) Json.string?_string Json.string_ne_null
  have level : r.optional "levelOfAssurance" AssuranceLevel.ofJson? = some b.levelOfAssurance :=
    fields.optional (by simp) AssuranceLevel.ofJson?_toJson AssuranceLevel.toJson_ne_null
  have attributes : r.optional "attributes" CanonicalAttributes.ofJson? = some b.attributes :=
    fields.optional_of_mem (by simp)
      (fun a given => CanonicalAttributes.ofJson?_toJson (legible a given)) CanonicalAttributes.toJson_ne_null
  simp only [ofJson?, toJson, record, Option.bind_eq_bind, Option.bind_some, scenario, pid, level,
    attributes]
  rfl

theorem regular_toJson (b : ResponseBody) : b.toJson.Regular := by
  have pid := Json.regular_member? "pid" b.pid Json.regular_string
  have level := Json.regular_member? "levelOfAssurance" b.levelOfAssurance fun level =>
    Json.regular_string level.name
  have attributes := Json.regular_member? "attributes" b.attributes CanonicalAttributes.regular_toJson
  rw [toJson, Json.regular_object]
  simp only [List.forall_mem_append, List.forall_mem_singleton]
  exact ⟨⟨⟨Json.regular_string b.scenario.name, pid⟩, level⟩, attributes⟩

/-- A body is read back from its text. -/
theorem ofText?_text {b : ResponseBody} (legible : b.Legible) : ofText? b.text = some b := by
  have document : Json.ofText? b.text = some b.toJson := Json.ofText?_text b.toJson b.regular_toJson
  rw [ofText?, Json.decodeText?, document, Option.bind_some, ofJson?_toJson legible]

/-- An identity has one document, by itself and as a body. -/
theorem toJson_ofIdentity (i : VerifiedIdentity) : (ofIdentity i).toJson = i.toJson := rfl

theorem text_ofIdentity (i : VerifiedIdentity) : (ofIdentity i).text = i.text := by
  rw [text, toJson_ofIdentity, VerifiedIdentity.text]

end ResponseBody

namespace VerifiedIdentity

theorem ofJson?_toJson {i : VerifiedIdentity} (legible : i.attributes.Legible) :
    ofJson? i.toJson = some i := by
  have order : Json.InOrder [("scenario", i.scenario.toJson), ("pid", .string i.pid),
      ("levelOfAssurance", i.levelOfAssurance.toJson), ("attributes", i.attributes.toJson)]
      ["scenario", "pid", "levelOfAssurance", "attributes"] := List.Sublist.refl _
  obtain ⟨r, record, fields⟩ := Json.Record.ofJson?_object order (by decide)
  have scenario : r.required "scenario" Scenario.ofJson? = some i.scenario :=
    fields.required (by simp) (Scenario.ofJson?_toJson _)
  have pid : r.required "pid" Json.string? = some i.pid :=
    fields.required (by simp) (Json.string?_string _)
  have level : r.required "levelOfAssurance" AssuranceLevel.ofJson? = some i.levelOfAssurance :=
    fields.required (by simp) (AssuranceLevel.ofJson?_toJson _)
  have attributes : r.required "attributes" CanonicalAttributes.ofJson? = some i.attributes :=
    fields.required (by simp) (CanonicalAttributes.ofJson?_toJson legible)
  simp only [ofJson?, toJson, record, Option.bind_eq_bind, Option.bind_some, scenario, pid, level,
    attributes]
  rfl

/-- An identity is read back from its text. -/
theorem ofText?_text {i : VerifiedIdentity} (legible : i.attributes.Legible) :
    ofText? i.text = some i := by
  have regular : i.toJson.Regular := by
    rw [← ResponseBody.toJson_ofIdentity]
    exact ResponseBody.regular_toJson _
  have document : Json.ofText? i.text = some i.toJson := Json.ofText?_text i.toJson regular
  rw [ofText?, Json.decodeText?, document, Option.bind_some, ofJson?_toJson legible]

end VerifiedIdentity

/-! ## The bodies of an engine -/

namespace ResponseBody

/-- The bodies that answer a response: that of an identity which some engine released, and that of a status
other than success. -/
inductive HandedOn : ResponseBody → Prop where
  | identity {e : Engine} {bundle : List Assertion} {expected : String} {minimum : AssuranceLevel}
    {i : VerifiedIdentity} (released : e.identify bundle expected minimum = .ok i) :
    HandedOn (ofIdentity i)
  | status {s : StatusCode} {b : ResponseBody} (answered : s.body = .ok b) : HandedOn b

/-- All parts of an identity are there when one was verified, and none otherwise. -/
structure AllOrNothing (b : ResponseBody) : Prop where
  all : b.scenario = .identityVerified →
    b.pid.isSome ∧ b.levelOfAssurance.isSome ∧ b.attributes.isSome
  nothing : b.scenario ≠ .identityVerified →
    b.pid = none ∧ b.levelOfAssurance = none ∧ b.attributes = none

end ResponseBody

theorem Engine.scenario_of_identify {e : Engine} {bundle : List Assertion} {expected : String}
    {minimum : AssuranceLevel} {i : VerifiedIdentity}
    (released : e.identify bundle expected minimum = .ok i) : i.scenario = .identityVerified := by
  obtain ⟨_, _, _, _, _, _, _, _, _, _, _, _, rfl⟩ := e.identify_eq_ok_iff.1 released
  rfl

/-- No status, however odd, stands for a verified identity. -/
theorem StatusCode.scenario_ne_identityVerified {s : StatusCode} {x : Scenario}
    (answered : s.scenario = .ok x) : x ≠ .identityVerified := by
  rintro rfl
  unfold scenario at answered
  repeat' split at answered
  all_goals cases answered

namespace ResponseBody

theorem allOrNothing_ofScenario {x : Scenario} (other : x ≠ .identityVerified) :
    AllOrNothing (ofScenario x) :=
  ⟨fun verified => absurd verified other, fun _ => ⟨rfl, rfl, rfl⟩⟩

theorem allOrNothing_ofIdentity {i : VerifiedIdentity} (verified : i.scenario = .identityVerified) :
    AllOrNothing (ofIdentity i) :=
  ⟨fun _ => ⟨rfl, rfl, rfl⟩, fun other => absurd verified other⟩

theorem HandedOn.allOrNothing {b : ResponseBody} (handedOn : HandedOn b) : AllOrNothing b := by
  cases handedOn with
  | identity released => exact allOrNothing_ofIdentity (Engine.scenario_of_identify released)
  | @status s _ answered =>
    obtain ⟨x, mapped, rfl⟩ := map_eq_ok_iff.1 answered
    exact allOrNothing_ofScenario (StatusCode.scenario_ne_identityVerified mapped)

end ResponseBody

/-- **Bodies are all or nothing, and nothing of them is lost.** Every body that answers a response is read
back from its text, when its instants are legible; that of an identity has the very text of the identity,
which gives the identity back. -/
theorem responses_all_or_nothing {b : ResponseBody} (handedOn : b.HandedOn) :
    b.AllOrNothing ∧ (b.Legible → ResponseBody.ofText? b.text = some b) ∧
      ∀ i : VerifiedIdentity, b = .ofIdentity i →
        b.text = i.text ∧ (b.Legible → VerifiedIdentity.ofText? b.text = some i) := by
  refine ⟨handedOn.allOrNothing, ResponseBody.ofText?_text, ?_⟩
  rintro i rfl
  rw [ResponseBody.text_ofIdentity]
  exact ⟨rfl, fun legible => i.ofText?_text (legible i.attributes (by simp [ResponseBody.ofIdentity]))⟩

theorem responses_all_or_nothing_sample :
    (ResponseBody.ofIdentity Sample.identity).HandedOn ∧ (ResponseBody.ofIdentity Sample.identity).Legible ∧
      (ResponseBody.ofIdentity Sample.identity).AllOrNothing ∧
      ResponseBody.ofText? (ResponseBody.ofIdentity Sample.identity).text =
        some (.ofIdentity Sample.identity) ∧
      (ResponseBody.ofIdentity Sample.identity).text = Sample.identity.text ∧
      VerifiedIdentity.ofText? (ResponseBody.ofIdentity Sample.identity).text = some Sample.identity := by
  have handedOn : (ResponseBody.ofIdentity Sample.identity).HandedOn := .identity Sample.identify
  have legible : (ResponseBody.ofIdentity Sample.identity).Legible := by decide
  obtain ⟨allOrNothing, read, whole⟩ := responses_all_or_nothing handedOn
  obtain ⟨text, identity⟩ := whole Sample.identity rfl
  exact ⟨handedOn, legible, allOrNothing, read legible, text, identity legible⟩

end RelyingParty
