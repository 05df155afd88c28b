import RelyingParty.Canonical
import RelyingParty.Proofs.Dataset.ReadBack
import RelyingParty.Proofs.Schema.Extraction

/-!
# Intervals of decoded datasets

Decoding takes the interval of a value from the members `from` and `to` of its document and does not compare
them, and canonicalising hands it on. So a decoded dataset has the intervals that its document states, in
order or reversed, although no interval can be made with its ends reversed.
-/

namespace RelyingParty
set_option autoImplicit false
open Calendar

/-! ## What documents state -/

namespace Json

/-- The instant that stands under a name in an object. -/
def instantAt (name : String) : Json → Option Instant
  | .object members => (members.lookup name).bind Instant.ofJson?
  | _ => none

/-- The documents of the values in a field: those of a list, the one given, or none. -/
def valuesIn : Option Json → List Json
  | none | some .null => []
  | some (.array elements) => elements
  | some json => [json]

end Json

/-- The interval that the document of a value states. -/
def Validity.stated (json : Json) : Validity :=
  ⟨json.instantAt "from", json.instantAt "to"⟩

namespace IdentityDataset

/-- The fields of a dataset. -/
def fieldNames : List String :=
  ["first_name", "middle_names", "surnames", "gender", "date_of_birth", "addresses"]

/-- The intervals that the document of a dataset states, in the order of its fields. -/
def statedIntervals (json : Json) : List Validity :=
  match Json.Record.ofJson? fieldNames json with
  | none => []
  | some r => fieldNames.flatMap fun name => (Json.valuesIn (r.find name)).map Validity.stated

end IdentityDataset

/-! ## Reading intervals -/

theorem Json.lookup_filter (keep : String → Bool) (members : List (String × Json)) {name : String}
    (kept : keep name = true) :
    (members.filter fun m => keep m.1).lookup name = members.lookup name := by
  induction members with
  | nil => rfl
  | cons m rest ih =>
    obtain ⟨key, value⟩ := m
    rw [List.filter_cons, lookup_cons_member]
    by_cases here : name = key
    · subst here
      rw [if_pos kept, lookup_cons_member, ih]
    · have other : (name == key) = false := beq_false_of_ne here
      split
      · rw [lookup_cons_member, ih]
      · rw [other, ih]
        rfl

theorem Json.Record.optional_instant_eq_some {members : List (String × Json)} {name : String}
    {t : Option Instant}
    (read : optional ⟨false, fun name => members.lookup name⟩ name Instant.ofJson? = some t) :
    (members.lookup name).bind Instant.ofJson? = t := by
  unfold optional at read
  dsimp only at read
  split at read
  · next absent =>
    rw [absent]
    exact Option.some.inj read
  · next null =>
    rw [null]
    exact Option.some.inj read
  · next json _ given =>
    obtain ⟨_, found, rfl⟩ := Option.map_eq_some_iff.1 read
    rw [given]
    exact found

theorem Validity.stated_of_ofJson? {members : List (String × Json)} {v : Validity}
    (read : ofJson? (.object members) = some v) : stated (.object members) = v := by
  simp only [ofJson?, Json.Record.ofJson?, Json.Record.ofMembers?, Option.bind_eq_bind,
    Option.bind_eq_some_iff, Option.ite_none_right_eq_some] at read
  obtain ⟨_, ⟨-, record⟩, start, readStart, stop, readStop, interval⟩ := read
  obtain rfl := Option.some.inj record
  obtain rfl := Option.some.inj interval
  rw [stated, Json.instantAt, Json.instantAt, Json.Record.optional_instant_eq_some readStart,
    Json.Record.optional_instant_eq_some readStop]

/-- The interval of a value is found among the members that are not its own. -/
theorem stated_of_withInterval? {room : Nat} {own : List String} {json : Json} {r : Json.Record} {v : Validity}
    (start : own.contains "from" = false) (stop : own.contains "to" = false)
    (read : withInterval? room own json = some (r, v)) :
    Json.valuesIn (some json) = [json] ∧ Validity.stated json = v := by
  cases json with
  | object members =>
    simp only [withInterval?, Option.bind_eq_bind, Option.bind_eq_some_iff] at read
    obtain ⟨_, -, rest⟩ := read
    split at rest
    · obtain ⟨_, interval, same⟩ := Option.bind_eq_some_iff.1 rest
      obtain ⟨rfl, rfl⟩ := Prod.mk.inj (Option.some.inj same)
      have stated := Validity.stated_of_ofJson? interval
      have other {name : String} (apart : own.contains name = false) :
          (members.filter fun m => !own.contains m.1).lookup name = members.lookup name :=
        Json.lookup_filter (fun name => !own.contains name) members (congrArg not apart)
      rw [Validity.stated, Json.instantAt, Json.instantAt, other start, other stop] at stated
      exact ⟨rfl, stated⟩
    · cases rest
  | _ => cases read

/-! ## Values with intervals -/

/-- A reader takes documents of single values, and gives a value the interval that its document states. -/
def KeepsInterval {α : Type} (read : Json.Decoder α) (interval : α → Validity) : Prop :=
  ∀ json a, read json = some a → Json.valuesIn (some json) = [json] ∧ Validity.stated json = interval a

theorem Timed.keepsInterval {α : Type} (read : Json.Decoder α) (room : Nat) :
    KeepsInterval (ofJson? read room) Timed.validity := by
  intro json t found
  simp only [ofJson?, Option.bind_eq_bind, Option.bind_eq_some_iff] at found
  obtain ⟨⟨r, v⟩, interval, value, -, verified, -, same⟩ := found
  obtain rfl := Option.some.inj same
  exact stated_of_withInterval? (by decide) (by decide) interval

theorem Address.keepsInterval (room : Nat) : KeepsInterval (ofJson? room) Address.validity := by
  intro json a found
  simp only [ofJson?, Option.bind_eq_bind, Option.bind_eq_some_iff] at found
  obtain ⟨⟨r, v⟩, interval, _, -, _, -, _, -, _, -, _, -, same⟩ := found
  obtain rfl := Option.some.inj same
  exact stated_of_withInterval? (by decide) (by decide) interval

namespace KeepsInterval

variable {α : Type} {read : Json.Decoder α} {interval : α → Validity} {r : Json.Record} {name : String}

theorem required {a : α} (keeps : KeepsInterval read interval) (found : r.required name read = some a) :
    (Json.valuesIn (r.find name)).map Validity.stated = [interval a] := by
  obtain ⟨json, given, value⟩ := Option.bind_eq_some_iff.1 found
  obtain ⟨single, stated⟩ := keeps json a value
  rw [given, single, List.map_singleton, stated]

theorem optional {o : Option α} (keeps : KeepsInterval read interval)
    (found : r.optional name read = some o) :
    (Json.valuesIn (r.find name)).map Validity.stated = o.toList.map interval := by
  unfold Json.Record.optional at found
  split at found
  · next absent =>
    split at found
    · cases found
    · rw [absent, ← Option.some.inj found]
      rfl
  · next null =>
    rw [null, ← Option.some.inj found]
    rfl
  · next json _ given =>
    obtain ⟨a, value, rfl⟩ := Option.map_eq_some_iff.1 found
    obtain ⟨single, stated⟩ := keeps json a value
    rw [given, single, List.map_singleton, stated]
    rfl

theorem mapM {elements : List Json} {as : List α} (keeps : KeepsInterval read interval)
    (found : elements.mapM read = some as) : elements.map Validity.stated = as.map interval := by
  induction elements generalizing as with
  | nil =>
    obtain rfl := Option.some.inj found
    rfl
  | cons json rest ih =>
    simp only [List.mapM_cons, Option.bind_eq_bind, Option.bind_eq_some_iff] at found
    obtain ⟨a, value, others, values, same⟩ := found
    obtain rfl := Option.some.inj same
    rw [List.map_cons, List.map_cons, (keeps json a value).2, ih values]

theorem list {as : List α} (keeps : KeepsInterval read interval)
    (found : r.withDefault name (Json.list? read) [] = some as) :
    (Json.valuesIn (r.find name)).map Validity.stated = as.map interval := by
  unfold Json.Record.withDefault at found
  split at found
  · next absent =>
    rw [absent, ← Option.some.inj found]
    rfl
  · next json given =>
    rw [given]
    cases json with
    | array elements => exact keeps.mapM found
    | _ => cases found

end KeepsInterval

/-! ## Datasets -/

/-- A decoded dataset has the intervals that its document states. -/
theorem IdentityDataset.intervals_of_ofJson? {room : Nat} {json : Json} {d : IdentityDataset}
    (read : ofJson? room json = some d) : d.intervals = statedIntervals json := by
  simp only [ofJson?, Option.bind_eq_bind, Option.bind_eq_some_iff] at read
  obtain ⟨r, record, firstName, readFirst, middleNames, readMiddle, surnames, readSurnames, gender, readGender,
    dateOfBirth, readBirth, addresses, readAddresses, same⟩ := read
  obtain rfl := Option.some.inj same
  have first := (Timed.keepsInterval _ _).required readFirst
  have middle := (Timed.keepsInterval _ _).optional readMiddle
  have last := (Timed.keepsInterval _ _).list readSurnames
  have gendered := (Timed.keepsInterval _ _).optional readGender
  have birth := (Timed.keepsInterval _ _).required readBirth
  have homes := (Address.keepsInterval _).list readAddresses
  have known : Json.Record.ofJson? fieldNames json = some r := record
  have stated : statedIntervals json =
      fieldNames.flatMap fun name => (Json.valuesIn (r.find name)).map Validity.stated := by
    rw [statedIntervals, known]
  rw [stated, fieldNames]
  simp only [List.flatMap_cons, List.flatMap_nil, first, middle, last, gendered, birth, homes]
  simp only [intervals, List.append_assoc, List.cons_append, List.nil_append, List.append_nil]

theorem IdentityDataset.intervals_canonical (d : IdentityDataset) : d.canonical.intervals = d.intervals := by
  simp only [CanonicalAttributes.intervals, canonical, intervals, Option.toList_map, List.map_map]
  rfl

/-- **A decoded dataset has the intervals that its document states**, and hands them on. So each of them can be
made by the constructor of intervals exactly when all that is stated is ordered, as it is for a dataset that was
extracted from an assertion. -/
theorem intervals_of_decoded {text : String} {d : IdentityDataset} (read : IdentityDataset.ofText? text = some d) :
    (∃ json, Json.ofText? text = some json ∧
      d.intervals = IdentityDataset.statedIntervals json ∧
      d.canonical.intervals = IdentityDataset.statedIntervals json ∧
      ((∀ i ∈ d.intervals, Validity.new i.from? i.to? = .ok i) ↔
        ∀ i ∈ IdentityDataset.statedIntervals json, i.Ordered)) ∧
      ∀ a, Schema.extract a = .ok d → ∀ i ∈ d.intervals, i.Ordered := by
  refine ⟨?_, ?_⟩
  · obtain ⟨json, document, decoded⟩ := Option.bind_eq_some_iff.1 read
    have stated := IdentityDataset.intervals_of_ofJson? decoded
    refine ⟨json, document, stated, d.intervals_canonical.trans stated, ?_⟩
    rw [← stated]
    exact forall₂_congr fun _ _ => Validity.new_eq_ok_iff.trans (and_iff_left rfl)
  · intro a extracted
    obtain ⟨g, gathers, dataset⟩ := Schema.extract_eq_ok_iff.1 extracted
    exact (gathers.readOff dataset).intervals_ordered

/-- A dataset with a surname that was taken in 2010 and given up in 2000. -/
def reversed : IdentityDataset where
  firstName := .current "Ann" true
  middleNames := none
  surnames := [⟨"Smith", true,
    ⟨Instant.ofText? "2010-01-01T00:00:00Z", Instant.ofText? "2000-01-01T00:00:00Z"⟩⟩]
  gender := none
  dateOfBirth := .current ⟨59, by decide, by decide⟩ true
  addresses := []

/-- The document of the same. -/
def reversedText : String :=
  "\x7b\"first_name\":\x7b\"value\":\"Ann\",\"verified\":true\x7d,"
    ++ "\"surnames\":[\x7b\"value\":\"Smith\",\"verified\":true,"
    ++ "\"from\":\"2010-01-01T00:00:00Z\",\"to\":\"2000-01-01T00:00:00Z\"\x7d],"
    ++ "\"date_of_birth\":\x7b\"value\":\"1970-03-01\",\"verified\":true\x7d,\"addresses\":[]\x7d"

theorem ofText?_reversedText : IdentityDataset.ofText? reversedText = some reversed := by
  have text : reversed.text = reversedText := by decide +kernel
  rw [← text, IdentityDataset.ofText?_text (by decide)]

theorem intervals_of_decoded_reversed :
    IdentityDataset.ofText? reversedText = some reversed ∧
      ∃ json, Json.ofText? reversedText = some json ∧ reversed.intervals = IdentityDataset.statedIntervals json ∧
        reversed.canonical.intervals = IdentityDataset.statedIntervals json ∧
        ((∀ i ∈ reversed.intervals, Validity.new i.from? i.to? = .ok i) ↔
          ∀ i ∈ IdentityDataset.statedIntervals json, i.Ordered) :=
  ⟨ofText?_reversedText, (intervals_of_decoded ofText?_reversedText).1⟩

/-- A dataset is decoded and handed on with an interval that ends before it starts. -/
theorem reversed_interval_decoded :
    IdentityDataset.ofText? reversedText = some reversed ∧
      (∃ i ∈ reversed.intervals, ¬i.Ordered) ∧ ∃ i ∈ reversed.canonical.intervals, ¬i.Ordered := by
  have surname : ∃ i ∈ reversed.intervals, ¬i.Ordered := by
    refine ⟨_, List.mem_cons_of_mem _ List.mem_cons_self, ?_⟩
    rw [← Validity.isOrdered_iff]
    decide
  refine ⟨ofText?_reversedText, surname, ?_⟩
  rw [IdentityDataset.intervals_canonical]
  exact surname

end RelyingParty
