import RelyingParty.Proofs.Dataset.ReadBack

/-!
# What is read is legible

A document shows an instant as a text, and what is read from a text is legible. So the assertions that can be
read are the ones of which all instants are legible, and so it is with datasets: of no others can what is
written be read back.
-/

namespace RelyingParty
set_option autoImplicit false
open Calendar

/-! ## What readers give -/

/-- A reader gives nothing but values of a kind. -/
def Json.Gives {α : Type} (read : Json.Decoder α) (good : α → Prop) : Prop :=
  ∀ json a, read json = some a → good a

namespace Json.Gives

variable {α : Type} {read : Json.Decoder α} {good : α → Prop} {r : Json.Record} {name : String}

theorem required {a : α} (gives : Gives read good) (found : r.required name read = some a) : good a := by
  obtain ⟨json, -, value⟩ := Option.bind_eq_some_iff.1 found
  exact gives json a value

theorem optional {o : Option α} (gives : Gives read good) (found : r.optional name read = some o) :
    ∀ a ∈ o.toList, good a := by
  unfold Record.optional at found
  split at found
  · split at found
    · cases found
    · obtain rfl := Option.some.inj found
      exact List.forall_mem_nil _
  · obtain rfl := Option.some.inj found
    exact List.forall_mem_nil _
  · obtain ⟨a, value, rfl⟩ := Option.map_eq_some_iff.1 found
    exact List.forall_mem_singleton.2 (gives _ a value)

theorem mapM {elements : List Json} {as : List α} (gives : Gives read good)
    (found : elements.mapM read = some as) : ∀ a ∈ as, good a := by
  induction elements generalizing as with
  | nil =>
    obtain rfl := Option.some.inj found
    exact List.forall_mem_nil _
  | cons json rest ih =>
    simp only [List.mapM_cons, Option.bind_eq_bind, Option.bind_eq_some_iff] at found
    obtain ⟨a, value, others, values, same⟩ := found
    obtain rfl := Option.some.inj same
    exact List.forall_mem_cons.2 ⟨gives json a value, ih values⟩

theorem list {as : List α} (gives : Gives read good)
    (found : r.withDefault name (Json.list? read) [] = some as) : ∀ a ∈ as, good a := by
  unfold Record.withDefault at found
  split at found
  · obtain rfl := Option.some.inj found
    exact List.forall_mem_nil _
  · next json _ =>
    cases json with
    | array elements => exact gives.mapM found
    | _ => cases found

end Json.Gives

theorem Calendar.Instant.gives : Json.Gives Instant.ofJson? Instant.Legible := by
  intro json t found
  obtain ⟨text, -, read⟩ := Option.bind_eq_some_iff.1 found
  exact Instant.exists_ofText?_eq_some_iff.1 ⟨text, read⟩

/-! ## Assertions -/

theorem ConfirmationData.gives : Json.Gives ofJson? fun d => ∀ t ∈ d.instants, t.Legible := by
  intro json d found
  simp only [ofJson?, Option.bind_eq_bind, Option.bind_eq_some_iff] at found
  obtain ⟨_, -, _, -, _, start, _, stop, _, -, same⟩ := found
  obtain rfl := Option.some.inj same
  exact List.forall_mem_append.2 ⟨Instant.gives.optional start, Instant.gives.optional stop⟩

theorem Confirmation.gives : Json.Gives ofJson? fun c => ∀ t ∈ c.instants, t.Legible := by
  intro json c found
  simp only [ofJson?, Option.bind_eq_bind, Option.bind_eq_some_iff] at found
  obtain ⟨_, -, _, -, _, data, same⟩ := found
  obtain rfl := Option.some.inj same
  exact List.forall_mem_flatMap.2 (ConfirmationData.gives.optional data)

theorem Subject.gives : Json.Gives ofJson? fun s => ∀ t ∈ s.instants, t.Legible := by
  intro json s found
  simp only [ofJson?, Option.bind_eq_bind, Option.bind_eq_some_iff] at found
  obtain ⟨_, -, _, -, _, confirmations, same⟩ := found
  obtain rfl := Option.some.inj same
  exact List.forall_mem_flatMap.2 (Confirmation.gives.list confirmations)

theorem AuthnStatement.gives : Json.Gives ofJson? fun s => ∀ t ∈ s.instants, t.Legible := by
  intro json s found
  simp only [ofJson?, Option.bind_eq_bind, Option.bind_eq_some_iff] at found
  obtain ⟨_, -, _, instant, _, -, same⟩ := found
  obtain rfl := Option.some.inj same
  exact Instant.gives.optional instant

theorem VerifiableText.gives : Json.Gives ofJson? fun v => ∀ t ∈ v.instants, t.Legible := by
  intro json v found
  simp only [ofJson?, Option.bind_eq_bind, Option.bind_eq_some_iff] at found
  obtain ⟨_, -, _, -, _, -, _, start, _, stop, same⟩ := found
  obtain rfl := Option.some.inj same
  exact List.forall_mem_append.2 ⟨Instant.gives.optional start, Instant.gives.optional stop⟩

theorem AddressValue.gives : Json.Gives ofJson? fun a => ∀ t ∈ a.instants, t.Legible := by
  intro json a found
  simp only [ofJson?, Option.bind_eq_bind, Option.bind_eq_some_iff] at found
  obtain ⟨_, -, _, -, _, -, _, -, _, -, _, -, _, start, _, stop, same⟩ := found
  obtain rfl := Option.some.inj same
  exact List.forall_mem_append.2 ⟨Instant.gives.optional start, Instant.gives.optional stop⟩

namespace AttributeValue

theorem legible_of_ofKind? {rest : Json} {kind : ValueKind} {v : AttributeValue}
    (found : ofKind? rest kind = some v) : ∀ t ∈ v.instants, t.Legible := by
  cases kind with
  | personName =>
    obtain ⟨text, read, rfl⟩ := Option.map_eq_some_iff.1 found
    exact VerifiableText.gives rest text read
  | date =>
    obtain ⟨text, read, rfl⟩ := Option.map_eq_some_iff.1 found
    exact VerifiableText.gives rest text read
  | gender =>
    obtain ⟨text, read, rfl⟩ := Option.map_eq_some_iff.1 found
    exact VerifiableText.gives rest text read
  | address =>
    obtain ⟨address, read, rfl⟩ := Option.map_eq_some_iff.1 found
    exact AddressValue.gives rest address read
  | ipAddress =>
    simp only [ofKind?, Option.bind_eq_bind, Option.bind_eq_some_iff] at found
    obtain ⟨_, -, _, -, same⟩ := found
    obtain rfl := Option.some.inj same
    exact List.forall_mem_nil _

theorem gives (room : Nat) : Json.Gives (ofJson? room) fun v => ∀ t ∈ v.instants, t.Legible := by
  -- in either form of document the last thing read is what its kind calls for
  have last {rest : Json} {kind : String} {fits : Bool} {v : AttributeValue}
      (found : (if fits then (kindNamed? kind).bind (ofKind? rest) else none) = some v) :
      ∀ t ∈ v.instants, t.Legible := by
    rw [Option.ite_none_right_eq_some] at found
    obtain ⟨_, -, read⟩ := Option.bind_eq_some_iff.1 found.2
    exact legible_of_ofKind? read
  intro json v found
  unfold ofJson? at found
  split at found
  · dsimp only at found
    split at found
    · exact last found
    · cases found
  · exact last found
  · cases found

end AttributeValue

theorem Attribute.gives (room : Nat) : Json.Gives (ofJson? room) fun a => ∀ t ∈ a.instants, t.Legible := by
  intro json a found
  simp only [ofJson?, Option.bind_eq_bind, Option.bind_eq_some_iff] at found
  obtain ⟨_, -, _, -, _, values, same⟩ := found
  obtain rfl := Option.some.inj same
  exact List.forall_mem_flatMap.2 ((AttributeValue.gives _).list values)

theorem AttributeStatement.gives (room : Nat) :
    Json.Gives (ofJson? room) fun s => ∀ t ∈ s.instants, t.Legible := by
  intro json s found
  simp only [ofJson?, Option.bind_eq_bind, Option.bind_eq_some_iff] at found
  obtain ⟨_, -, _, attributes, same⟩ := found
  obtain rfl := Option.some.inj same
  exact List.forall_mem_flatMap.2 ((Attribute.gives _).list attributes)

namespace Assertion

theorem gives (room : Nat) : Json.Gives (ofJson? room) Legible := by
  intro json a found
  simp only [ofJson?, Option.bind_eq_bind, Option.bind_eq_some_iff] at found
  obtain ⟨_, -, _, -, _, -, _, instant, _, -, _, subject, _, statements, _, statement, _, -, same⟩ := found
  obtain rfl := Option.some.inj same
  simp only [Legible, instants, List.forall_mem_append, List.forall_mem_flatMap]
  exact ⟨⟨⟨Instant.gives.optional instant, Subject.gives.optional subject⟩,
    AuthnStatement.gives.list statements⟩, (AttributeStatement.gives _).optional statement⟩

/-- **The assertions that are read are the legible ones.** -/
theorem exists_ofText?_eq_some_iff {a : Assertion} : (∃ text, ofText? text = some a) ↔ a.Legible := by
  constructor
  · rintro ⟨text, read⟩
    obtain ⟨json, -, decoded⟩ := Option.bind_eq_some_iff.1 read
    exact gives _ json a decoded
  · intro legible
    exact ⟨a.text, ofText?_text legible⟩

end Assertion

/-! ## Datasets -/

theorem Validity.gives : Json.Gives ofJson? Legible := by
  intro json v found
  simp only [ofJson?, Option.bind_eq_bind, Option.bind_eq_some_iff] at found
  obtain ⟨_, -, _, start, _, stop, same⟩ := found
  obtain rfl := Option.some.inj same
  exact List.forall_mem_append.2 ⟨Instant.gives.optional start, Instant.gives.optional stop⟩

theorem Validity.legible_of_withInterval? {room : Nat} {own : List String} {json : Json} {r : Json.Record}
    {v : Validity} (found : withInterval? room own json = some (r, v)) : v.Legible := by
  cases json with
  | object members =>
    simp only [withInterval?, Option.bind_eq_bind, Option.bind_eq_some_iff,
      Option.ite_none_right_eq_some] at found
    obtain ⟨_, -, -, _, interval, same⟩ := found
    obtain ⟨-, rfl⟩ := Prod.mk.inj (Option.some.inj same)
    exact Validity.gives _ _ interval
  | _ => cases found

theorem Timed.gives {α : Type} (read : Json.Decoder α) (room : Nat) :
    Json.Gives (ofJson? read room) fun t => t.validity.Legible := by
  intro json t found
  simp only [ofJson?, Option.bind_eq_bind, Option.bind_eq_some_iff] at found
  obtain ⟨_, interval, _, -, _, -, same⟩ := found
  obtain rfl := Option.some.inj same
  exact Validity.legible_of_withInterval? interval

theorem Address.gives (room : Nat) : Json.Gives (ofJson? room) fun a => a.validity.Legible := by
  intro json a found
  simp only [ofJson?, Option.bind_eq_bind, Option.bind_eq_some_iff] at found
  obtain ⟨_, interval, _, -, _, -, _, -, _, -, _, -, same⟩ := found
  obtain rfl := Option.some.inj same
  exact Validity.legible_of_withInterval? interval

namespace IdentityDataset

theorem gives (room : Nat) : Json.Gives (ofJson? room) Legible := by
  intro json d found
  simp only [ofJson?, Option.bind_eq_bind, Option.bind_eq_some_iff] at found
  obtain ⟨_, -, _, first, _, middle, _, surnames, _, gender, _, birth, _, addresses, same⟩ := found
  obtain rfl := Option.some.inj same
  simp only [Legible, intervals, List.forall_mem_append, List.forall_mem_cons, List.forall_mem_map]
  exact ⟨⟨⟨⟨(Timed.gives _ _).required first, (Timed.gives _ _).optional middle⟩,
    (Timed.gives _ _).list surnames⟩, (Timed.gives _ _).optional gender⟩, (Timed.gives _ _).required birth,
    (Address.gives _).list addresses⟩

/-- **The datasets that are read are the legible ones.** -/
theorem exists_ofText?_eq_some_iff {d : IdentityDataset} : (∃ text, ofText? text = some d) ↔ d.Legible := by
  constructor
  · rintro ⟨text, read⟩
    obtain ⟨json, -, decoded⟩ := Option.bind_eq_some_iff.1 read
    exact gives _ json d decoded
  · intro legible
    exact ⟨d.text, ofText?_text legible⟩

end IdentityDataset
end RelyingParty
