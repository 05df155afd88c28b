import Mathlib.Data.List.Forall2

/-!
# Successful computations

When a computation that may fail succeeds, in terms of its parts, and what follows when a reader always
succeeds on what a writer wrote.
-/

namespace RelyingParty
set_option autoImplicit false

variable {ε α β : Type}

theorem ok_bind (a : α) (next : α → Except ε β) : Except.ok a >>= next = next a := rfl

theorem error_bind (e : ε) (next : α → Except ε β) : Except.error e >>= next = .error e := rfl

theorem bind_of_eq_ok {x : Except ε α} {a : α} {next : α → Except ε β} (success : x = .ok a) :
    x >>= next = next a := by
  rw [success, ok_bind]

/-- A computation succeeds when both its halves do. -/
theorem bind_eq_ok_iff {x : Except ε α} {next : α → Except ε β} {b : β} :
    x >>= next = .ok b ↔ ∃ a, x = .ok a ∧ next a = .ok b := by
  constructor
  · intro success
    cases x with
    | error e => cases success
    | ok a => exact ⟨a, rfl, success⟩
  · rintro ⟨a, rfl, success⟩
    exact success

/-- A computation fails when its first half does, or its second after the first. -/
theorem bind_eq_error_iff {x : Except ε α} {next : α → Except ε β} {e : ε} :
    x >>= next = .error e ↔ x = .error e ∨ ∃ a, x = .ok a ∧ next a = .error e := by
  cases x with
  | error other =>
    rw [error_bind, Except.error.injEq, Except.error.injEq]
    exact ⟨.inl, fun failing => failing.resolve_right nofun⟩
  | ok a =>
    rw [ok_bind]
    constructor
    · intro failing
      exact .inr ⟨a, rfl, failing⟩
    · rintro (failing | ⟨_, success, failing⟩)
      · cases failing
      · rw [Except.ok.inj success]
        exact failing

/-- Computations that start in one way end alike when they go on alike after every success. -/
theorem bind_congr_of_ok {x : Except ε α} {f g : α → Except ε β} (same : ∀ a, x = .ok a → f a = g a) :
    x >>= f = x >>= g := by
  cases x with
  | error e => rfl
  | ok a => exact same a rfl

theorem exists_unit_iff {p : Unit → Prop} : (∃ u, p u) ↔ p () := by
  constructor
  · rintro ⟨_, holds⟩
    exact holds
  · intro holds
    exact ⟨(), holds⟩

theorem mapError_eq_ok_iff {ε' : Type} {x : Except ε α} {f : ε → ε'} {a : α} :
    x.mapError f = .ok a ↔ x = .ok a := by
  cases x with
  | error e => exact ⟨nofun, nofun⟩
  | ok b => rw [Except.mapError, Except.ok.injEq, Except.ok.injEq]

theorem mapError_eq_error_iff {ε' : Type} {x : Except ε α} {f : ε → ε'} {e : ε'} :
    x.mapError f = .error e ↔ ∃ source, x = .error source ∧ f source = e := by
  cases x with
  | error other =>
    constructor
    · intro failing
      exact ⟨other, rfl, Except.error.inj failing⟩
    · rintro ⟨_, same, rfl⟩
      exact congrArg (Except.error ∘ f) (Except.error.inj same)
  | ok b => exact ⟨nofun, nofun⟩

theorem map_eq_ok_iff {x : Except ε α} {f : α → β} {b : β} :
    x.map f = .ok b ↔ ∃ a, x = .ok a ∧ f a = b := by
  cases x with
  | error e => exact ⟨nofun, nofun⟩
  | ok a =>
    constructor
    · intro success
      exact ⟨a, rfl, Except.ok.inj success⟩
    · rintro ⟨_, same, rfl⟩
      exact congrArg (Except.ok ∘ f) (Except.ok.inj same)

theorem map_bind {γ : Type} {x : Except ε α} {next : α → Except ε β} {f : β → γ} :
    (x >>= next).map f = x >>= fun a => (next a).map f := by
  cases x <;> rfl

/-- A computation behind a refusal succeeds when nothing is refused. -/
theorem error_else_eq_ok_iff {refused : Prop} [Decidable refused] {e : ε} {x : Except ε α} {a : α} :
    (if refused then .error e else x) = .ok a ↔ ¬refused ∧ x = .ok a := by
  by_cases holds : refused
  · rw [if_pos holds]
    exact ⟨nofun, fun success => absurd holds success.1⟩
  · rw [if_neg holds, and_iff_right holds]

theorem throw_eq_error (e : ε) : (throw e : Except ε α) = .error e := rfl

theorem throw_else_eq_ok_iff {refused : Prop} [Decidable refused] {e : ε} {x : Except ε α} {a : α} :
    (if refused then throw e else x) = .ok a ↔ ¬refused ∧ x = .ok a :=
  error_else_eq_ok_iff

theorem throw_bind_else_eq_ok_iff {refused : Prop} [Decidable refused] {e : ε} {next : β → Except ε α}
    {x : Except ε α} {a : α} :
    (if refused then throw e >>= next else x) = .ok a ↔ ¬refused ∧ x = .ok a :=
  error_else_eq_ok_iff

/-- A list is read when each element of it is. -/
theorem mapM_eq_ok_iff {read : α → Except ε β} {values : List α} {ts : List β} :
    values.mapM read = .ok ts ↔ List.Forall₂ (fun v t => read v = .ok t) values ts := by
  induction values generalizing ts with
  | nil =>
    rw [List.mapM_nil, List.forall₂_nil_left_iff]
    exact ⟨fun same => (Except.ok.inj same).symm, fun same => congrArg _ same.symm⟩
  | cons v rest ih =>
    rw [List.mapM_cons, List.forall₂_cons_left_iff]
    simp only [bind_eq_ok_iff, ih]
    constructor
    · rintro ⟨t, first, ts, others, answer⟩
      exact ⟨t, ts, first, others, (Except.ok.inj answer).symm⟩
    · rintro ⟨t, ts, first, others, rfl⟩
      exact ⟨t, first, ts, others, rfl⟩

/-- What is read back from everything written of it is determined by that. -/
theorem injective_of_read {read : β → Option α} {write : α → β} (back : ∀ a, read (write a) = some a) :
    Function.Injective write := by
  intro a b same
  have again := back a
  rw [same, back] at again
  exact (Option.some.inj again).symm

/-- A search by name finds the value with that name, when it finds every value by its own. -/
theorem find?_name_eq_some_iff {all : List α} {name : α → String}
    (back : ∀ a, all.find? (fun b => name b == name a) = some a) {s : String} {a : α} :
    all.find? (fun b => name b == s) = some a ↔ name a = s := by
  constructor
  · intro found
    exact eq_of_beq (List.find?_some (p := fun b => name b == s) found)
  · rintro rfl
    exact back a

/-- Elements can be read together when each can. -/
theorem exists_forall₂_iff {read : α → β → Prop} {values : List α} :
    (∃ ts, List.Forall₂ read values ts) ↔ ∀ v ∈ values, ∃ t, read v t := by
  induction values with
  | nil => exact ⟨fun _ => nofun, fun _ => ⟨[], .nil⟩⟩
  | cons v rest ih =>
    rw [List.forall_mem_cons, ← ih]
    constructor
    · rintro ⟨_, together⟩
      obtain ⟨t, ts, first, others, rfl⟩ := List.forall₂_cons_left_iff.1 together
      exact ⟨⟨t, first⟩, ts, others⟩
    · rintro ⟨⟨t, first⟩, ts, others⟩
      exact ⟨t :: ts, .cons first others⟩

end RelyingParty
