/-!
# Tables

A finite map is a list of entries with distinct names. What is put under a name takes the place of what stood
there before.
-/

namespace RelyingParty.Trust
set_option autoImplicit false

/-- Entries with distinct names. -/
@[ext]
structure Table (κ α : Type) where
  entries : List (κ × α)
  distinct : (entries.map Prod.fst).Nodup

namespace Table

section
variable {κ α : Type}

/-- The table without entries. -/
def empty : Table κ α := ⟨[], List.nodup_nil⟩

/-- The number of entries. -/
def size (t : Table κ α) : Nat := t.entries.length

/-- The names of the entries. -/
def names (t : Table κ α) : List κ := t.entries.map Prod.fst

end

variable {κ α : Type} [DecidableEq κ]

/-- What stands under a name. -/
def get? (t : Table κ α) (name : κ) : Option α := t.entries.lookup name

/-- The entries with other names than a given one. -/
def without (t : Table κ α) (name : κ) : List (κ × α) := t.entries.filter fun e => e.1 != name

/-- The table with a value under a name, in place of any other. -/
def put (t : Table κ α) (name : κ) (value : α) : Table κ α where
  entries := t.without name ++ [(name, value)]
  distinct := by
    rw [List.map_append, List.nodup_append]
    refine ⟨t.distinct.sublist (List.filter_sublist.map _), by simp, ?_⟩
    intro a ha b hb
    simp only [without, List.mem_map, List.mem_filter, bne_iff_ne] at ha
    obtain ⟨e, ⟨-, other⟩, rfl⟩ := ha
    simp only [List.map_cons, List.map_nil, List.mem_singleton] at hb
    exact hb ▸ other

theorem mem_entries_put {t : Table κ α} {name : κ} {value : α} {e : κ × α} :
    e ∈ (t.put name value).entries ↔ (e ∈ t.entries ∧ e.1 ≠ name) ∨ e = (name, value) := by
  simp only [put, without, List.mem_append, List.mem_filter, bne_iff_ne, List.mem_singleton]

section
variable {t : Table κ α} {name : κ} {value : α}

theorem get?_eq_some_iff : t.get? name = some value ↔ (name, value) ∈ t.entries := by
  obtain ⟨entries, distinct⟩ := t
  simp only [get?]
  induction entries with
  | nil => simp
  | cons e rest ih =>
    obtain ⟨first, a⟩ := e
    rw [List.map_cons, List.nodup_cons] at distinct
    rw [List.lookup_cons, List.mem_cons, Prod.mk.injEq]
    by_cases same : name = first
    · have once (b : α) : (first, b) ∉ rest := fun later => distinct.1 (List.mem_map.2 ⟨_, later, rfl⟩)
      simp [same, once, eq_comm]
    · simp [same, beq_eq_false_iff_ne.2 same, ih distinct.2]

theorem get?_eq_none_iff : t.get? name = none ↔ name ∉ t.names := by
  rw [Option.eq_none_iff_forall_ne_some]
  simp only [ne_eq, get?_eq_some_iff, names, List.mem_map, Prod.exists, exists_and_right, exists_eq_right,
    not_exists]

theorem mem_names_iff : name ∈ t.names ↔ ∃ value, t.get? name = some value := by
  simp only [get?_eq_some_iff, names, List.mem_map, Prod.exists, exists_and_right, exists_eq_right]

/-- What was put under a name is found there; under other names nothing changes. -/
theorem get?_put (t : Table κ α) (filled name : κ) (value : α) :
    (t.put filled value).get? name = if filled = name then some value else t.get? name := by
  apply Option.ext
  intro found
  rw [get?_eq_some_iff, mem_entries_put, Prod.mk.injEq]
  split
  · next same => simp [same, eq_comm]
  · next other => simp [Ne.symm other, get?_eq_some_iff]

/-- A value under a new name comes behind the others. -/
theorem entries_put_of_notMem (new : name ∉ t.names) :
    (t.put name value).entries = t.entries ++ [(name, value)] := by
  have all : t.without name = t.entries := by
    refine List.filter_eq_self.2 fun e member => bne_iff_ne.2 ?_
    intro same
    exact new (List.mem_map.2 ⟨e, member, same⟩)
  exact congrArg (· ++ [(name, value)]) all

/-- Of two values under one name the later one is left. -/
theorem put_put (t : Table κ α) (name : κ) (first later : α) :
    (t.put name first).put name later = t.put name later := by
  ext1
  have none : [(name, first)].filter (fun e : κ × α => e.1 != name) = [] := by simp
  simp only [put, without, List.filter_append, List.filter_filter, Bool.and_self, none, List.append_nil]

end

end Table
end RelyingParty.Trust
