import RelyingParty.Proofs.Json.ReadBack

/-!
# Records read back

An object whose members are some of the known fields, in their order, is a record in which every field
is found as it was written. A reader of records undoes their writer when it does so field by field.
-/

namespace RelyingParty.Json
set_option autoImplicit false

variable {α : Type}

/-! ## Members that may be left out -/

@[simp] theorem lookup_cons_member (name : String) (json : Json) (rest : List (String × Json))
    (key : String) :
    ((name, json) :: rest).lookup key = if key == name then some json else rest.lookup key := by
  rw [List.lookup_cons]
  cases key == name <;> rfl

@[simp] theorem lookup_member? (name : String) (write : α → Json) (o : Option α) (key : String) :
    (member? name write o).lookup key = if key == name then o.map write else none := by
  cases o with
  | none => simp [member?]
  | some a =>
    simp only [member?, List.lookup_cons, List.lookup_nil, Option.map_some]
    cases key == name <;> rfl

@[simp] theorem lookup_member?_append (name : String) (write : α → Json) (o : Option α)
    (rest : List (String × Json)) (key : String) :
    (member? name write o ++ rest).lookup key =
      if key == name then (o.map write).or (rest.lookup key) else rest.lookup key := by
  rw [List.lookup_append, lookup_member?]
  cases key == name <;> rfl

/-- The members have some of the given names, in their order. -/
def InOrder (members : List (String × Json)) (names : List String) : Prop :=
  (members.map Prod.fst).Sublist names

theorem inOrder_member? (name : String) (write : α → Json) (o : Option α) :
    InOrder (member? name write o) [name] := by
  cases o with
  | none => exact List.nil_sublist _
  | some a => exact List.Sublist.refl _

theorem inOrder_single (name : String) (json : Json) : InOrder [(name, json)] [name] :=
  List.Sublist.refl _

theorem InOrder.append {ms ms' : List (String × Json)} {names names' : List String}
    (first : InOrder ms names) (second : InOrder ms' names') :
    InOrder (ms ++ ms') (names ++ names') := by
  rw [InOrder, List.map_append]
  exact List.Sublist.append first second

theorem InOrder.name_mem {ms : List (String × Json)} {names : List String} (h : InOrder ms names) :
    ∀ m ∈ ms, m.1 ∈ names :=
  fun _ hm => h.subset (List.mem_map_of_mem hm)

/-- What holds of every document written of a value holds of the member that may be left out. -/
theorem forall_mem_member? {P : Json → Prop} (name : String) {write : α → Json} (o : Option α)
    (holds : ∀ a, P (write a)) : ∀ m ∈ member? name write o, P m.2 := by
  intro m present
  cases o with
  | none => cases present
  | some a =>
    obtain rfl := List.mem_singleton.1 present
    exact holds a

theorem regular_member? (name : String) {write : α → Json} (o : Option α)
    (regular : ∀ a, Regular (write a)) : ∀ m ∈ member? name write o, Regular m.2 :=
  forall_mem_member? name o regular

theorem regular_orNull {write : α → Json} (o : Option α) (regular : ∀ a, Regular (write a)) :
    Regular (orNull write o) := by
  cases o with
  | none => simp [orNull, Regular]
  | some a => exact regular a

/-! ## Members set aside -/

theorem membersFit_iff {room : Nat} {members : List (String × Json)} :
    membersFit room members = true ↔ ∀ m ∈ members, fits room m.2 = true := by
  induction members with
  | nil => simp [membersFit]
  | cons m ms ih => simp [membersFit, ih]

theorem fits_object_succ (room : Nat) (members : List (String × Json)) :
    fits (room + 1) (.object members) = membersFit room members := by
  rw [fits, decide_eq_true room.succ_pos, Bool.true_and, Nat.add_sub_cancel]

theorem elementsFit_iff {room : Nat} {elements : List Json} :
    elementsFit room elements = true ↔ ∀ e ∈ elements, fits room e = true := by
  induction elements with
  | nil => simp [elementsFit]
  | cons e es ih => simp [elementsFit, ih]

theorem fits_member? {room : Nat} (name : String) {write : α → Json} (o : Option α)
    (fit : ∀ a, fits room (write a) = true) : ∀ m ∈ member? name write o, fits room m.2 = true :=
  forall_mem_member? (P := (fits room · = true)) name o fit

theorem fits_string (room : Nat) (s : String) : fits room (.string s) = true := by rw [fits]

theorem fits_strings {room : Nat} (deep : 0 < room) (texts : List String) :
    fits room (strings texts) = true := by
  rw [strings, fits, decide_eq_true deep, Bool.true_and, elementsFit_iff, List.forall_mem_map]
  exact fun t _ => fits_string _ t

theorem regular_strings (texts : List String) : Regular (strings texts) := by
  rw [strings, regular_array]
  intro e he
  obtain ⟨t, -, rfl⟩ := List.mem_map.1 he
  exact regular_string t

/-! ## Fields of a record -/

namespace Record

/-- A record in which every field is found among the members of an object. -/
structure Lists (record : Record) (members : List (String × Json)) : Prop where
  named : record.positional = false
  find : ∀ name, record.find name = members.lookup name

/-- Members in the order of the known fields make a record. -/
theorem ofJson?_object {names : List String} {members : List (String × Json)}
    (order : InOrder members names) (distinct : names.Nodup) :
    ∃ record, ofJson? names (.object members) = some record ∧ record.Lists members := by
  have nodup : ((members.map Prod.fst).filter (names.contains ·)).Nodup :=
    (List.filter_sublist.trans order).nodup distinct
  refine ⟨⟨false, fun name => members.lookup name⟩, ?_, rfl, fun _ => rfl⟩
  rw [ofJson?, ofMembers?, if_pos nodup]

/-- A value that is not `null` is read. -/
theorem optional_of_find {record : Record} {name : String} {read : Decoder α} {json : Json}
    (found : record.find name = some json) (notNull : json ≠ .null) :
    record.optional name read = (read json).map some := by
  rw [Record.optional, found]
  split
  · next same => cases same
  · next same => exact absurd (Option.some.inj same) notNull
  · next same => cases same; rfl

namespace Lists

variable {record : Record} {members : List (String × Json)} {name : String} {read : Decoder α}

theorem required {json : Json} {a : α} (h : record.Lists members)
    (found : members.lookup name = some json) (back : read json = some a) :
    record.required name read = some a := by
  rw [Record.required, h.find, found, Option.bind_some, back]

theorem withDefault {json : Json} {a default : α} (h : record.Lists members)
    (found : members.lookup name = some json) (back : read json = some a) :
    record.withDefault name read default = some a := by
  simp only [Record.withDefault, h.find, found, back]

theorem absent (h : record.Lists members) (found : members.lookup name = none) :
    record.optional name read = some none := by
  rw [Record.optional, h.find, found, h.named]
  rfl

/-- A field that is left out when there is no value reads as it was written, if its value does. -/
theorem optional_of_mem {write : α → Json} {o : Option α} (h : record.Lists members)
    (found : members.lookup name = o.map write) (back : ∀ a ∈ o.toList, read (write a) = some a)
    (notNull : ∀ a, write a ≠ .null) : record.optional name read = some o := by
  cases o with
  | none => exact h.absent found
  | some a =>
    rw [optional_of_find ((h.find name).trans found) (notNull a), back a (by simp), Option.map_some]

theorem optional {write : α → Json} {o : Option α} (h : record.Lists members)
    (found : members.lookup name = o.map write) (back : ∀ a, read (write a) = some a)
    (notNull : ∀ a, write a ≠ .null) : record.optional name read = some o :=
  h.optional_of_mem found (fun a _ => back a) notNull

/-- A field that is written as `null` when there is no value reads as it was written, if its value does. -/
theorem optional_orNull_of_mem {write : α → Json} {o : Option α} (h : record.Lists members)
    (found : members.lookup name = some (orNull write o)) (back : ∀ a ∈ o.toList, read (write a) = some a)
    (notNull : ∀ a, write a ≠ .null) :
    record.optional name read = some o ∧ record.optionalWithDefault name read = some o := by
  rw [Record.optional, Record.optionalWithDefault, h.find, found]
  cases o with
  | none => exact ⟨rfl, rfl⟩
  | some a =>
    rw [orNull]
    split
    · next same => cases same
    · next same => exact absurd (Option.some.inj same) (notNull a)
    · next same =>
      cases same
      rw [back a (by simp), Option.map_some]
      exact ⟨rfl, rfl⟩

theorem optional_orNull {write : α → Json} {o : Option α} (h : record.Lists members)
    (found : members.lookup name = some (orNull write o)) (back : ∀ a, read (write a) = some a)
    (notNull : ∀ a, write a ≠ .null) :
    record.optional name read = some o ∧ record.optionalWithDefault name read = some o :=
  h.optional_orNull_of_mem found (fun a _ => back a) notNull

end Lists
end Record

/-! ## Leaves -/

theorem string?_string (s : String) : string? (.string s) = some s := rfl

theorem string_ne_null (s : String) : Json.string s ≠ .null := nofun

theorem bool?_bool (b : Bool) : bool? (.bool b) = some b := rfl

theorem list?_map_of_mem {read : Decoder α} {write : α → Json} {as : List α}
    (back : ∀ a ∈ as, read (write a) = some a) : list? read (.array (as.map write)) = some as := by
  rw [list?]
  induction as with
  | nil => rfl
  | cons a as ih =>
    rw [List.forall_mem_cons] at back
    rw [List.map_cons, List.mapM_cons, back.1, ih back.2]
    rfl

theorem list?_map {read : Decoder α} {write : α → Json} (back : ∀ a, read (write a) = some a)
    (as : List α) : list? read (.array (as.map write)) = some as :=
  list?_map_of_mem fun a _ => back a

/-- A constant is read back from its name, when names tell the constants apart. -/
theorem constant?_name {name : α → String} {all : List α} (a : α)
    (first : (all.find? fun b => name b == name a) = some a) :
    constant? name all (.string (name a)) = some a := by
  simp only [constant?, name?, Option.bind_some, first]

end RelyingParty.Json
