import Mathlib.Data.List.Nodup
import Mathlib.Logic.Relation
import RelyingParty.Proofs.Json.Record

/-!
# Respellings

What a document holds can be spelled in several ways. A step from one spelling to another changes one place:
it reorders the members of an object, writes `null` for an absent optional member, leaves out a member that
holds its default, adds a member with an unknown name, or respells one member or element. A reader respects
the steps when it reads the same after each of them, and then it does after any number of them.
-/

namespace RelyingParty.Json
set_option autoImplicit false

variable {α β κ : Type}

/-- A value without parts that is no number. -/
inductive Atom : Json → Prop
  | null : Atom .null
  | bool (b : Bool) : Atom (.bool b)
  | string (s : String) : Atom (.string s)

/-- A property of documents within a room for nesting that all atoms have, and that arrays and objects have
where they may be and all their parts have it in a room of one level less. -/
structure Hereditary (opens : Nat → Prop) (holds : Nat → Json → Prop) : Prop where
  atom : ∀ room {j}, Atom j → holds room j
  array : ∀ room es, holds room (.array es) ↔ opens room ∧ ∀ e ∈ es, holds (room - 1) e
  object : ∀ room ms, holds room (.object ms) ↔ opens room ∧ ∀ m ∈ ms, holds (room - 1) m.2

theorem hereditary_fits : Hereditary (0 < ·) (fits · · = true) where
  atom := by rintro _ _ (_ | b | s) <;> rw [fits]
  array := fun _ es => by rw [fits, Bool.and_eq_true, decide_eq_true_eq, elementsFit_iff]
  object := fun _ ms => by rw [fits, Bool.and_eq_true, decide_eq_true_eq, membersFit_iff]

/-- Steps between documents that are meant to hold the same. None starts or ends at `null`, which may stand
for no value, and all keep every property that is a matter of atoms and nesting. -/
structure Respelling where
  /-- One document is another after one step. -/
  Step : Json → Json → Prop
  notNull : ∀ {j j'}, Step j j' → j ≠ .null ∧ j' ≠ .null
  inherits : ∀ {opens holds}, Hereditary opens holds →
    ∀ {room j j'}, Step j j' → holds room j → holds room j'

/-- A reader reads the same after a step. -/
def Respects (read : Decoder α) (respelling : Respelling) : Prop :=
  ∀ ⦃j j' a⦄, respelling.Step j j' → read j = some a → read j' = some a

namespace Respelling

/-- Any number of steps. -/
def Steps (respelling : Respelling) : Json → Json → Prop := Relation.ReflTransGen respelling.Step

variable {respelling : Respelling} {j j' : Json}

theorem Steps.inherits {opens : Nat → Prop} {holds : Nat → Json → Prop} (hereditary : Hereditary opens holds)
    (room : Nat) (steps : respelling.Steps j j') (start : holds room j) : holds room j' := by
  induction steps with
  | refl => exact start
  | tail _ step ih => exact respelling.inherits hereditary step ih

/-- A reader that respects each step respects any number of them. -/
theorem Steps.read {read : Decoder α} {a : α} (respects : Respects read respelling)
    (steps : respelling.Steps j j') (start : read j = some a) : read j' = some a := by
  induction steps with
  | refl => exact start
  | tail _ step ih => exact respects step ih

/-- No steps, for a value of one spelling. -/
def unchanged : Respelling where
  Step := fun _ _ => False
  notNull := False.elim
  inherits := fun _ _ _ _ step => step.elim

end Respelling

theorem respects_unchanged (read : Decoder α) : Respects read .unchanged :=
  fun _ _ _ step => step.elim

theorem Respects.map {read : Decoder α} {respelling : Respelling} (respects : Respects read respelling)
    (f : α → β) : Respects (fun json => (read json).map f) respelling := by
  intro j j' b step got
  obtain ⟨a, value, rfl⟩ := Option.map_eq_some_iff.1 got
  exact Option.map_eq_some_iff.2 ⟨a, respects step value, rfl⟩

/-! ## Lists -/

/-- A step in a list respells one element. -/
inductive ListStep (element : Respelling) : Json → Json → Prop
  | element (before after : List Json) {j j' : Json} (step : element.Step j j') :
    ListStep element (.array (before ++ j :: after)) (.array (before ++ j' :: after))

/-- The respelling of a list by that of its elements. -/
def Respelling.list (element : Respelling) : Respelling where
  Step := ListStep element
  notNull := by
    rintro _ _ ⟨⟩
    exact ⟨nofun, nofun⟩
  inherits := by
    rintro opens holds hereditary room _ _ ⟨before, after, step⟩ start
    rw [hereditary.array, List.forall_mem_append, List.forall_mem_cons] at start ⊢
    obtain ⟨opened, first, value, rest⟩ := start
    exact ⟨opened, first, element.inherits hereditary step value, rest⟩

theorem Respects.list {read : Decoder α} {element : Respelling} (respects : Respects read element) :
    Respects (list? read) (.list element) := by
  rintro _ _ as ⟨before, after, step⟩ got
  simp only [list?, List.mapM_append, List.mapM_cons, Option.bind_eq_bind, Option.bind_eq_some_iff] at got ⊢
  obtain ⟨as, first, bs, ⟨b, value, rest⟩, whole⟩ := got
  exact ⟨as, first, bs, ⟨b, respects step value, rest⟩, whole⟩

/-! ## Records -/

/-- What the absence of a field means. -/
inductive Presence where
  /-- There is nothing to read. -/
  | required
  /-- The field has no value. -/
  | optional
  /-- The field has the value of a document. -/
  | withDefault (default : Json)

/-- A field of a record as documents spell it. -/
structure Field where
  name : String
  presence : Presence
  /-- How its value may be respelled. -/
  respelling : Respelling

/-- A step in an object that holds a record. Together with reordering, the steps at the first member reach
every member. -/
inductive RecordStep (fields : List Field) : Json → Json → Prop
  /-- The members come in another order. -/
  | reorder {ms ms' : List (String × Json)} (same : ms.Perm ms') :
    RecordStep fields (.object ms) (.object ms')
  /-- An absent optional member is written as `null`. -/
  | null {field : Field} {ms : List (String × Json)} (known : field ∈ fields)
    (optional : field.presence = .optional) (absent : field.name ∉ ms.map Prod.fst) :
    RecordStep fields (.object ms) (.object ((field.name, .null) :: ms))
  /-- A member that holds its default is left out. -/
  | leaveOut {field : Field} {default : Json} {ms : List (String × Json)} (known : field ∈ fields)
    (presence : field.presence = .withDefault default) :
    RecordStep fields (.object ((field.name, default) :: ms)) (.object ms)
  /-- An atom is added under an unknown name. -/
  | unknown {name : String} {json : Json} {ms : List (String × Json)}
    (unknown : name ∉ fields.map Field.name) (atom : Atom json) :
    RecordStep fields (.object ms) (.object ((name, json) :: ms))
  /-- The value of a member is respelled. -/
  | member {field : Field} {j j' : Json} {ms : List (String × Json)} (known : field ∈ fields)
    (step : field.respelling.Step j j') :
    RecordStep fields (.object ((field.name, j) :: ms)) (.object ((field.name, j') :: ms))

/-- The respelling of a record by those of its fields. -/
def Respelling.record (fields : List Field) : Respelling where
  Step := RecordStep fields
  notNull := by
    rintro _ _ ⟨⟩
    all_goals exact ⟨nofun, nofun⟩
  inherits := by
    intro opens holds hereditary room j j' step start
    cases step with
    | reorder same =>
      rw [hereditary.object] at start ⊢
      exact ⟨start.1, fun m present => start.2 m (same.mem_iff.2 present)⟩
    | null =>
      rw [hereditary.object] at start ⊢
      exact ⟨start.1, List.forall_mem_cons.2 ⟨hereditary.atom _ .null, start.2⟩⟩
    | leaveOut =>
      rw [hereditary.object, List.forall_mem_cons] at start
      exact (hereditary.object _ _).2 ⟨start.1, start.2.2⟩
    | unknown _ atom =>
      rw [hereditary.object] at start ⊢
      exact ⟨start.1, List.forall_mem_cons.2 ⟨hereditary.atom _ atom, start.2⟩⟩
    | @member field _ _ _ _ step =>
      rw [hereditary.object, List.forall_mem_cons] at start ⊢
      exact ⟨start.1, field.respelling.inherits hereditary step start.2.1, start.2.2⟩

/-! ## What is found of a field -/

/-- The known names among the members do not repeat. -/
def Once (names : List String) (ms : List (String × Json)) : Prop :=
  ((ms.map Prod.fst).filter (names.contains ·)).Nodup

theorem ofJson?_object_iff {names : List String} {ms : List (String × Json)} {record : Record} :
    Record.ofJson? names (.object ms) = some record ↔
      Once names ms ∧ record = ⟨false, fun name => ms.lookup name⟩ := by
  rw [Record.ofJson?, Record.ofMembers?, Once]
  split
  · next once => exact ⟨fun same => ⟨once, (Option.some.inj same).symm⟩, fun h => congrArg some h.2.symm⟩
  · next twice =>
    constructor
    · intro same
      cases same
    · intro h
      exact absurd h.1 twice

theorem once_cons_of_mem {names : List String} {name : String} (json : Json)
    {ms : List (String × Json)} (known : name ∈ names) :
    Once names ((name, json) :: ms) ↔ name ∉ ms.map Prod.fst ∧ Once names ms := by
  rw [Once, List.map_cons, List.filter_cons_of_pos (by simpa using known), List.nodup_cons, List.mem_filter,
    Once]
  simp [known]

theorem once_cons_of_notMem {names : List String} {name : String} (json : Json)
    {ms : List (String × Json)} (unknown : name ∉ names) :
    Once names ((name, json) :: ms) ↔ Once names ms := by
  rw [Once, List.map_cons, List.filter_cons_of_neg (by simpa using unknown), Once]

theorem Once.perm {names : List String} {ms ms' : List (String × Json)} (once : Once names ms)
    (same : ms.Perm ms') : Once names ms' :=
  ((same.map Prod.fst).filter _).nodup once

theorem lookup_of_notMem {name : String} {ms : List (String × Json)} (absent : name ∉ ms.map Prod.fst) :
    ms.lookup name = none := by
  rw [List.lookup_eq_none_iff]
  intro m present
  have other : name ≠ m.1 := fun same => absent (same ▸ List.mem_map_of_mem present)
  simpa using other

theorem lookup_cons_of_ne {name key : String} (json : Json) (ms : List (String × Json)) (other : key ≠ name) :
    ((name, json) :: ms).lookup key = ms.lookup key := by
  rw [lookup_cons_member, if_neg (by simpa using other)]

/-- A name that does not repeat is found with the value of its member. -/
theorem lookup_eq_some_iff_of_once {names : List String} {name : String} (known : name ∈ names)
    {ms : List (String × Json)} (once : Once names ms) {json : Json} :
    ms.lookup name = some json ↔ (name, json) ∈ ms := by
  induction ms with
  | nil => simp
  | cons m ms ih =>
    obtain ⟨key, value⟩ := m
    by_cases same : name = key
    · -- the name does not come again, so no later member competes with the one found
      subst same
      have absent := ((once_cons_of_mem value known).1 once).1
      have others : (name, json) ∉ ms := fun present => absent (List.mem_map_of_mem present)
      simp [others, eq_comm]
    · have rest : Once names ms := by
        by_cases also : key ∈ names
        · exact ((once_cons_of_mem value also).1 once).2
        · exact (once_cons_of_notMem value also).1 once
      rw [lookup_cons_of_ne value ms same, ih rest]
      simp [same]

/-- The order of the members does not matter to what is found. -/
theorem lookup_eq_of_perm {names : List String} {name : String} (known : name ∈ names)
    {ms ms' : List (String × Json)} (once : Once names ms) (same : ms.Perm ms') :
    ms'.lookup name = ms.lookup name := by
  ext json
  rw [lookup_eq_some_iff_of_once known once, lookup_eq_some_iff_of_once known (once.perm same),
    same.mem_iff]

/-- What a step may do to what is found of a field. -/
inductive Field.Edit (field : Field) : Option Json → Option Json → Prop
  | same (found : Option Json) : Field.Edit field found found
  | null (optional : field.presence = .optional) : Field.Edit field none (some .null)
  | leaveOut {default : Json} (presence : field.presence = .withDefault default) :
    Field.Edit field (some default) none
  | respelled {j j' : Json} (step : field.respelling.Step j j') : Field.Edit field (some j) (some j')

/-- The fields found in one object and, after a step, in another. -/
structure Edited (fields : List Field) (before after : Record) : Prop where
  named : before.positional = false
  named' : after.positional = false
  find : ∀ field ∈ fields, field.Edit (before.find field.name) (after.find field.name)

variable {fields : List Field}

theorem edited_of_same {find find' : String → Option Json}
    (same : ∀ field ∈ fields, find' field.name = find field.name) :
    Edited fields ⟨false, find⟩ ⟨false, find'⟩ := by
  refine ⟨rfl, rfl, fun field known => ?_⟩
  show field.Edit (find field.name) (find' field.name)
  rw [same field known]
  exact .same _

/-- A step that leaves what is found of all other names edits a record. -/
theorem edited_at (distinct : (fields.map Field.name).Nodup) {field : Field} (known : field ∈ fields)
    {find find' : String → Option Json} (edit : field.Edit (find field.name) (find' field.name))
    (others : ∀ name, name ≠ field.name → find' name = find name) :
    Edited fields ⟨false, find⟩ ⟨false, find'⟩ := by
  refine ⟨rfl, rfl, fun other present => ?_⟩
  show other.Edit (find other.name) (find' other.name)
  by_cases same : other.name = field.name
  · obtain rfl := List.inj_on_of_nodup_map distinct present known same
    exact edit
  · rw [others other.name same]
    exact .same _

/-- **One step edits at most one field.** After a step there is still a record, and of each field it has what
it had or what the step made of it. -/
theorem RecordStep.edited (distinct : (fields.map Field.name).Nodup) {j j' : Json} {record : Record}
    (step : RecordStep fields j j') (read : Record.ofJson? (fields.map Field.name) j = some record) :
    ∃ record', Record.ofJson? (fields.map Field.name) j' = some record' ∧ Edited fields record record' := by
  have mem {field : Field} (known : field ∈ fields) : field.name ∈ fields.map Field.name :=
    List.mem_map_of_mem known
  cases step with
  | @reorder ms ms' same =>
    obtain ⟨once, rfl⟩ := ofJson?_object_iff.1 read
    refine ⟨_, ofJson?_object_iff.2 ⟨once.perm same, rfl⟩, ?_⟩
    exact edited_of_same fun field known => lookup_eq_of_perm (mem known) once same
  | @null field ms known optional absent =>
    obtain ⟨once, rfl⟩ := ofJson?_object_iff.1 read
    refine ⟨_, ofJson?_object_iff.2 ⟨(once_cons_of_mem _ (mem known)).2 ⟨absent, once⟩, rfl⟩, ?_⟩
    refine edited_at distinct known ?_ fun name other => lookup_cons_of_ne _ ms other
    rw [lookup_of_notMem absent, List.lookup_cons_self]
    exact .null optional
  | @leaveOut field default ms known presence =>
    obtain ⟨once, rfl⟩ := ofJson?_object_iff.1 read
    -- the name does not repeat, so nothing is found of it once its member is gone
    obtain ⟨absent, rest⟩ := (once_cons_of_mem _ (mem known)).1 once
    refine ⟨_, ofJson?_object_iff.2 ⟨rest, rfl⟩, ?_⟩
    refine edited_at distinct known ?_ fun name other => (lookup_cons_of_ne _ ms other).symm
    rw [lookup_of_notMem absent, List.lookup_cons_self]
    exact .leaveOut presence
  | @unknown name json ms unknown atom =>
    obtain ⟨once, rfl⟩ := ofJson?_object_iff.1 read
    refine ⟨_, ofJson?_object_iff.2 ⟨(once_cons_of_notMem _ unknown).2 once, rfl⟩, ?_⟩
    refine edited_of_same fun field known => lookup_cons_of_ne json ms ?_
    exact fun same => unknown (same ▸ mem known)
  | @member field j j' ms known step =>
    obtain ⟨once, rfl⟩ := ofJson?_object_iff.1 read
    have once' := (once_cons_of_mem j' (mem known)).2 ((once_cons_of_mem j (mem known)).1 once)
    refine ⟨_, ofJson?_object_iff.2 ⟨once', rfl⟩, ?_⟩
    refine edited_at distinct known ?_ fun name other => ?_
    · rw [List.lookup_cons_self, List.lookup_cons_self]
      exact .respelled step
    · rw [lookup_cons_of_ne j' ms other, lookup_cons_of_ne j ms other]

/-! ## Reading records -/

/-- What is read of a record stays the same when the record is edited. -/
def Kept (fields : List Field) (get : Record → Option α) : Prop :=
  ∀ ⦃before after a⦄, Edited fields before after → get before = some a → get after = some a

theorem Kept.pure (a : α) : Kept fields fun _ => some a :=
  fun _ _ _ _ got => got

theorem Kept.bind {get : Record → Option α} {next : α → Record → Option β} (first : Kept fields get)
    (rest : ∀ a, Kept fields (next a)) : Kept fields fun record => get record >>= fun a => next a record := by
  intro before after b edited got
  obtain ⟨a, value, got⟩ := Option.bind_eq_some_iff.1 got
  exact Option.bind_eq_some_iff.2 ⟨a, first edited value, rest a edited got⟩

section Fields

variable {name : String} {respelling : Respelling} {read : Decoder α}

theorem kept_required (known : ⟨name, .required, respelling⟩ ∈ fields) (respects : Respects read respelling) :
    Kept fields fun record => record.required name read := by
  intro before after a edited got
  have edit := edited.find _ known
  simp only [Record.required] at got ⊢
  obtain ⟨json, found, value⟩ := Option.bind_eq_some_iff.1 got
  rw [found] at edit
  generalize after.find name = find' at edit
  cases edit with
  | same => exact value
  | leaveOut presence => cases presence
  | respelled step => exact respects step value

theorem kept_optional (known : ⟨name, .optional, respelling⟩ ∈ fields) (respects : Respects read respelling) :
    Kept fields fun record => record.optional name read := by
  intro before after o edited got
  have edit := edited.find _ known
  change before.optional name read = some o at got
  show after.optional name read = some o
  generalize found : before.find name = find at edit
  generalize found' : after.find name = find' at edit
  cases edit with
  | same =>
    rw [Record.optional, found, edited.named] at got
    rwa [Record.optional, found', edited.named']
  | null =>
    rw [Record.optional, found, edited.named] at got
    rwa [Record.optional, found']
  | leaveOut presence => cases presence
  | respelled step =>
    -- a step from or to `null` would change whether there is a value
    obtain ⟨notNull, notNull'⟩ := respelling.notNull step
    rw [Record.optional_of_find found notNull] at got
    rw [Record.optional_of_find found' notNull']
    exact respects.map some step got

theorem kept_withDefault {json : Json} {default : α}
    (known : ⟨name, .withDefault json, respelling⟩ ∈ fields) (holds : read json = some default)
    (respects : Respects read respelling) :
    Kept fields fun record => record.withDefault name read default := by
  intro before after a edited got
  have edit := edited.find _ known
  simp only [Record.withDefault] at got ⊢
  generalize before.find name = find at edit got
  generalize after.find name = find' at edit
  cases edit with
  | same => exact got
  | null optional => cases optional
  | leaveOut presence =>
    cases presence
    exact holds.symm.trans got
  | respelled step => exact respects step got

theorem kept_list (known : ⟨name, .withDefault (.array []), .list respelling⟩ ∈ fields)
    (respects : Respects read respelling) :
    Kept fields fun record => record.withDefault name (list? read) [] :=
  kept_withDefault known rfl respects.list

end Fields

theorem Respects.record {get : Record → Option α} (distinct : (fields.map Field.name).Nodup)
    (kept : Kept fields get) :
    Respects (fun json => Record.ofJson? (fields.map Field.name) json >>= get) (.record fields) := by
  intro j j' a step got
  obtain ⟨record, read, got⟩ := Option.bind_eq_some_iff.1 got
  obtain ⟨record', read', edited⟩ := RecordStep.edited distinct step read
  exact Option.bind_eq_some_iff.2 ⟨record', read', kept edited got⟩

/-! ## Tagged records -/

/-- A step in an object that holds a record of one of several kinds, told by a tag among its members. -/
inductive TaggedStep (tag : String) (name : κ → String) (fields : κ → List Field) : Json → Json → Prop
  | kind (k : κ) {ms : List (String × Json)} {j : Json} (tagged : (tag, .string (name k)) ∈ ms)
    (step : RecordStep (⟨tag, .required, .unchanged⟩ :: fields k) (.object ms) j) :
    TaggedStep tag name fields (.object ms) j

/-- The respelling of a tagged record by those of the fields of its kind. -/
def Respelling.tagged (tag : String) (name : κ → String) (fields : κ → List Field) : Respelling where
  Step := TaggedStep tag name fields
  notNull := by
    rintro _ _ ⟨k, tagged, step⟩
    exact (Respelling.record _).notNull step
  inherits := by
    rintro opens holds hereditary room _ _ ⟨k, tagged, step⟩ start
    exact (Respelling.record _).inherits hereditary step start

theorem filter_tag_cons {tag name : String} (json : Json) (ms : List (String × Json)) (other : name ≠ tag) :
    ((name, json) :: ms).filter (·.1 == tag) = ms.filter (·.1 == tag) ∧
      ((name, json) :: ms).filter (·.1 != tag) = (name, json) :: ms.filter (·.1 != tag) :=
  ⟨List.filter_cons_of_neg (by simpa using other), List.filter_cons_of_pos (by simpa using other)⟩

/-- A step of a tagged record keeps the tag and is a step of the other members. -/
theorem RecordStep.untagged {tag : String} (new : tag ∉ fields.map Field.name) {ms : List (String × Json)}
    {j : Json} (step : RecordStep (⟨tag, .required, .unchanged⟩ :: fields) (.object ms) j) :
    ∃ ms', j = .object ms' ∧ (ms.filter (·.1 == tag)).Perm (ms'.filter (·.1 == tag)) ∧
      RecordStep fields (.object (ms.filter (·.1 != tag))) (.object (ms'.filter (·.1 != tag))) := by
  have other {field : Field} (known : field ∈ fields) : field.name ≠ tag :=
    fun same => new (same ▸ List.mem_map_of_mem known)
  -- the tag is a required field of one spelling, so no step but a reordering touches it
  cases step with
  | @reorder _ ms' same => exact ⟨ms', rfl, same.filter _, .reorder (same.filter _)⟩
  | @null field _ known optional absent =>
    obtain rfl | known := List.mem_cons.1 known
    · cases optional
    · obtain ⟨tags, rest⟩ := filter_tag_cons .null ms (other known)
      have absentToo : field.name ∉ (ms.filter (·.1 != tag)).map Prod.fst :=
        fun present => absent ((List.filter_sublist.map _).subset present)
      exact ⟨_, rfl, tags ▸ .refl _, rest ▸ .null known optional absentToo⟩
  | @leaveOut field default ms known presence =>
    obtain rfl | known := List.mem_cons.1 known
    · cases presence
    · obtain ⟨tags, rest⟩ := filter_tag_cons default ms (other known)
      exact ⟨ms, rfl, tags ▸ .refl _, rest ▸ .leaveOut known presence⟩
  | @unknown name json _ unknown atom =>
    rw [List.map_cons, List.mem_cons, not_or] at unknown
    obtain ⟨tags, rest⟩ := filter_tag_cons json ms unknown.1
    exact ⟨_, rfl, tags ▸ .refl _, rest ▸ .unknown unknown.2 atom⟩
  | @member field j j' ms known step =>
    obtain rfl | known := List.mem_cons.1 known
    · exact step.elim
    · obtain ⟨tags, rest⟩ := filter_tag_cons j ms (other known)
      obtain ⟨tags', rest'⟩ := filter_tag_cons j' ms (other known)
      exact ⟨_, rfl, (tags.trans tags'.symm) ▸ .refl _, rest ▸ rest' ▸ .member known step⟩

end RelyingParty.Json
