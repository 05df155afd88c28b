import Mathlib.Data.List.Forall2

/-!
# Two runs of a computation

Two runs that end alike: both succeed with related results, or both fail for one plain reason, unless
one of them fails in an excused way. This is kept through sequences.
-/

namespace RelyingParty
set_option autoImplicit false

/-- Two runs end alike, or one of them fails in an excused way. -/
inductive Alike {ε α β : Type} (excused plain : ε → Prop) (related : α → β → Prop) :
    Except ε α → Except ε β → Prop
  | left {e : ε} {y : Except ε β} (excuse : excused e) : Alike excused plain related (.error e) y
  | right {x : Except ε α} {e : ε} (excuse : excused e) : Alike excused plain related x (.error e)
  | failed {e : ε} (reason : plain e) : Alike excused plain related (.error e) (.error e)
  | passed {a : α} {b : β} (same : related a b) : Alike excused plain related (.ok a) (.ok b)

namespace Alike

variable {ε α β γ δ : Type} {excused plain : ε → Prop} {related : α → β → Prop} {later : γ → δ → Prop}
  {x : Except ε α} {y : Except ε β}

theorem bind {f : α → Except ε γ} {g : β → Except ε δ} (first : Alike excused plain related x y)
    (rest : ∀ a b, related a b → Alike excused plain later (f a) (g b)) :
    Alike excused plain later (x >>= f) (y >>= g) := by
  cases first with
  | left excuse => exact .left excuse
  | right excuse => exact .right excuse
  | failed reason => exact .failed reason
  | passed same => exact rest _ _ same

theorem map {f : α → γ} {g : β → δ} (first : Alike excused plain related x y)
    (rest : ∀ a b, related a b → later (f a) (g b)) : Alike excused plain later (x.map f) (y.map g) := by
  cases first with
  | left excuse => exact .left excuse
  | right excuse => exact .right excuse
  | failed reason => exact .failed reason
  | passed same => exact .passed (rest _ _ same)

theorem refusal {refused refused' : Prop} [Decidable refused] [Decidable refused'] {e : ε}
    (same : refused ↔ refused') (reason : plain e) (rest : Alike excused plain related x y) :
    Alike excused plain related (if refused then .error e else x) (if refused' then .error e else y) := by
  by_cases holds : refused
  · rw [if_pos holds, if_pos (same.1 holds)]
    exact .failed reason
  · rw [if_neg holds, if_neg fun other => holds (same.2 other)]
    exact rest

/-- Runs whose every failure is excused end alike when their results are related. -/
theorem of_excused (left : ∀ e, x = .error e → excused e) (right : ∀ e, y = .error e → excused e)
    (both : ∀ a b, x = .ok a → y = .ok b → related a b) : Alike excused plain related x y := by
  cases x with
  | error e => exact .left (left e rfl)
  | ok a =>
    cases y with
    | error e => exact .right (right e rfl)
    | ok b => exact .passed (both a b rfl rfl)

theorem mapM {f : α → Except ε γ} {g : β → Except ε δ} {as : List α} {bs : List β}
    (each : List.Forall₂ (fun a b => Alike excused plain later (f a) (g b)) as bs) :
    Alike excused plain (List.Forall₂ later) (as.mapM f) (bs.mapM g) := by
  induction each with
  | nil => exact .passed .nil
  | cons first _ ih =>
    rw [List.mapM_cons, List.mapM_cons]
    apply first.bind
    intro c d same
    apply ih.bind
    intro cs ds others
    exact .passed (.cons same others)

/-- Failures of two runs that end alike are one, unless one of them is excused. -/
theorem eq_of_error {e e' : ε} (alike : Alike excused plain related (.error e) (.error e')) :
    excused e ∨ excused e' ∨ e = e' := by
  cases alike with
  | left excuse => exact .inl excuse
  | right excuse => exact .inr (.inl excuse)
  | failed _ => exact .inr (.inr rfl)

/-- A run that ends alike with itself fails in an excused way or for a plain reason. -/
theorem excused_or_plain {e : ε} {related : α → α → Prop}
    (alike : Alike excused plain related (.error e) (.error e)) : excused e ∨ plain e := by
  cases alike with
  | left excuse => exact .inl excuse
  | right excuse => exact .inl excuse
  | failed reason => exact .inr reason

end Alike
end RelyingParty
