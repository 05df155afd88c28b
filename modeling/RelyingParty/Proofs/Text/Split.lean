import Mathlib.Data.List.Basic
import RelyingParty.Proofs.Text.Digits
import RelyingParty.Text.Split

/-!
# Splitting and trimming text

Splitting at a separator undoes joining with it, at the first occurrence as well as at all. Trimming a text
finds the one core without blanks at its ends that the text is but for blanks around it.
-/

namespace RelyingParty.Text
set_option autoImplicit false

/-! ## Splitting -/

theorem splitChars_eq_splitOn (separator : Char) (cs : List Char) :
    splitChars separator cs = cs.splitOn separator := by
  induction cs with
  | nil => rw [splitChars, List.splitOn_nil]
  | cons c cs ih =>
    obtain ⟨part, parts, split⟩ := List.exists_cons_of_ne_nil (List.splitOn_ne_nil separator cs)
    simp only [splitChars, ih, List.splitOn_cons_eq_if_modifyHead, beq_iff_eq, split, List.modifyHead_cons]

theorem splitFirst?_append {separator : Char} {before : List Char} (absent : separator ∉ before)
    (after : List Char) : splitFirst? separator (before ++ separator :: after) = some (before, after) := by
  induction before with
  | nil => exact if_pos rfl
  | cons c before ih =>
    rw [List.mem_cons, not_or] at absent
    rw [List.cons_append, splitFirst?, if_neg (Ne.symm absent.1), ih absent.2]
    rfl

theorem splitFirst?_eq_none {separator : Char} {cs : List Char} (absent : separator ∉ cs) :
    splitFirst? separator cs = none := by
  induction cs with
  | nil => rfl
  | cons c cs ih =>
    rw [List.mem_cons, not_or] at absent
    rw [splitFirst?, if_neg (Ne.symm absent.1), ih absent.2]
    rfl

/-- The first separator has none before it. -/
theorem splitFirst?_eq_some_iff {separator : Char} {cs before after : List Char} :
    splitFirst? separator cs = some (before, after) ↔
      cs = before ++ separator :: after ∧ separator ∉ before := by
  constructor
  · intro found
    by_cases member : separator ∈ cs
    · obtain ⟨front, rest, rfl, absent⟩ := List.eq_append_cons_of_mem member
      rw [splitFirst?_append absent] at found
      cases found
      exact ⟨rfl, absent⟩
    · rw [splitFirst?_eq_none member] at found
      cases found
  · rintro ⟨rfl, absent⟩
    exact splitFirst?_append absent after

theorem splitFirst?_eq_none_iff {separator : Char} {cs : List Char} :
    splitFirst? separator cs = none ↔ separator ∉ cs := by
  refine ⟨?_, splitFirst?_eq_none⟩
  intro none member
  obtain ⟨before, after, rfl, absent⟩ := List.eq_append_cons_of_mem member
  rw [splitFirst?_append absent] at none
  cases none

/-! ## Trimming -/

/-- Nothing but blanks. -/
def Blank (cs : List Char) : Prop := ∀ c ∈ cs, isBlank c = true

/-- A text with no blank at either end. -/
structure Trimmed (cs : List Char) : Prop where
  first : ∀ c ∈ cs.head?, isBlank c = false
  last : ∀ c ∈ cs.getLast?, isBlank c = false

/-- A text is another one with blanks around it. -/
def Spaced (core cs : List Char) : Prop :=
  ∃ before after, Blank before ∧ Blank after ∧ cs = before ++ core ++ after

theorem trimmed_nil : Trimmed [] := ⟨nofun, nofun⟩

theorem head?_skipBlanks (cs : List Char) : ∀ c ∈ (skipBlanks cs).head?, isBlank c = false := by
  intro c first
  have stop := List.head?_dropWhile_not isBlank cs
  rw [Option.mem_def, skipBlanks] at first
  rwa [first] at stop

theorem Blank.append {cs ds : List Char} (first : Blank cs) (second : Blank ds) : Blank (cs ++ ds) :=
  List.forall_mem_append.2 ⟨first, second⟩

theorem Blank.reverse {cs : List Char} (blank : Blank cs) : Blank cs.reverse :=
  fun c member => blank c (List.mem_reverse.1 member)

theorem Blank.notMem {cs : List Char} (blank : Blank cs) {c : Char} (visible : isBlank c = false) : c ∉ cs := by
  intro member
  rw [blank c member] at visible
  cases visible

/-- Trimming leaves the blanks around a text away. -/
theorem trimChars_spaced {core cs : List Char} (trimmed : Trimmed core) (spaced : Spaced core cs) :
    trimChars cs = core := by
  obtain ⟨before, after, blank, blank', rfl⟩ := spaced
  by_cases empty : core = []
  · subst empty
    have all : skipBlanks (before ++ [] ++ after) = [] := by
      rw [List.append_nil, ← List.append_nil (before ++ after)]
      exact skipBlanks_append (blank.append blank') nofun
    rw [trimChars, all]
    rfl
  · have front : skipBlanks (before ++ core ++ after) = core ++ after := by
      rw [List.append_assoc]
      refine skipBlanks_append blank fun c first => trimmed.first c ?_
      rwa [List.head?_append_of_ne_nil _ empty] at first
    have back : skipBlanks (core ++ after).reverse = core.reverse := by
      rw [List.reverse_append]
      refine skipBlanks_append blank'.reverse fun c last => trimmed.last c ?_
      rwa [List.head?_reverse] at last
    rw [trimChars, front, back, List.reverse_reverse]

theorem spaced_trimChars (cs : List Char) : Spaced (trimChars cs) cs := by
  obtain ⟨before, split, blank⟩ := exists_blanks cs
  obtain ⟨after, split', blank'⟩ := exists_blanks (skipBlanks cs).reverse
  refine ⟨before, after.reverse, blank, Blank.reverse blank', ?_⟩
  rw [trimChars, List.append_assoc, ← List.reverse_append, ← split', List.reverse_reverse]
  exact split

theorem Spaced.blank_append {core cs blanks : List Char} (spaced : Spaced core cs) (blank : Blank blanks) :
    Spaced core (blanks ++ cs) := by
  obtain ⟨before, after, front, back, rfl⟩ := spaced
  exact ⟨blanks ++ before, after, blank.append front, back, by simp only [List.append_assoc]⟩

theorem Spaced.append_blank {core cs blanks : List Char} (spaced : Spaced core cs) (blank : Blank blanks) :
    Spaced core (cs ++ blanks) := by
  obtain ⟨before, after, front, back, rfl⟩ := spaced
  exact ⟨before, after ++ blanks, front, back.append blank, by simp only [List.append_assoc]⟩

/-- The blanks around a text add no other character to it. -/
theorem Spaced.mem_iff {core cs : List Char} (spaced : Spaced core cs) {c : Char} (visible : isBlank c = false) :
    c ∈ cs ↔ c ∈ core := by
  obtain ⟨before, after, blank, blank', rfl⟩ := spaced
  simp [blank.notMem visible, blank'.notMem visible]

theorem trimmed_trimChars (cs : List Char) : Trimmed (trimChars cs) := by
  refine ⟨?_, ?_⟩
  · intro c first
    obtain ⟨after, split, -⟩ := exists_blanks (skipBlanks cs).reverse
    have front : trimChars cs ++ after.reverse = skipBlanks cs := by
      rw [trimChars, ← List.reverse_append, ← split, List.reverse_reverse]
    refine head?_skipBlanks cs c ?_
    rw [← front, List.head?_append, Option.mem_def.1 first]
    rfl
  · intro c last
    rw [trimChars, List.getLast?_reverse] at last
    exact head?_skipBlanks _ c last

/-- Trimming finds the core that a text is but for blanks around it. -/
theorem trimChars_eq_iff {core cs : List Char} : trimChars cs = core ↔ Trimmed core ∧ Spaced core cs := by
  constructor
  · rintro rfl
    exact ⟨trimmed_trimChars cs, spaced_trimChars cs⟩
  · rintro ⟨trimmed, spaced⟩
    exact trimChars_spaced trimmed spaced

theorem trimChars_eq_nil_iff {cs : List Char} : trimChars cs = [] ↔ Blank cs := by
  rw [trimChars_eq_iff, and_iff_right trimmed_nil]
  constructor
  · rintro ⟨before, after, blank, blank', rfl⟩
    rw [List.append_nil]
    exact blank.append blank'
  · intro blank
    exact ⟨cs, [], blank, nofun, by simp⟩

/-- Trimming first makes no difference to the trimmed parts around a separator. -/
theorem splitFirst?_trimChars {separator : Char} (visible : isBlank separator = false) (cs : List Char) :
    (splitFirst? separator (trimChars cs)).map (Prod.map trimChars trimChars) =
      (splitFirst? separator cs).map (Prod.map trimChars trimChars) := by
  by_cases member : separator ∈ trimChars cs
  · obtain ⟨before, after, blank, blank', split⟩ := spaced_trimChars cs
    obtain ⟨front, rest, core, absent⟩ := List.eq_append_cons_of_mem member
    have absent' : separator ∉ before ++ front :=
      fun early => (List.mem_append.1 early).elim (blank.notMem visible) absent
    have whole : cs = (before ++ front) ++ separator :: (rest ++ after) := by
      rw [split, core]
      simp only [List.append_assoc, List.cons_append]
    have outer : trimChars (before ++ front) = trimChars front :=
      trimChars_spaced (trimmed_trimChars front) ((spaced_trimChars front).blank_append blank)
    have outer' : trimChars (rest ++ after) = trimChars rest :=
      trimChars_spaced (trimmed_trimChars rest) ((spaced_trimChars rest).append_blank blank')
    have found : splitFirst? separator cs = some (before ++ front, rest ++ after) :=
      splitFirst?_eq_some_iff.2 ⟨whole, absent'⟩
    rw [found, core, splitFirst?_append absent, Option.map_some, Option.map_some, Prod.map_apply, Prod.map_apply,
      outer, outer']
  · have absent := mt ((spaced_trimChars cs).mem_iff visible).1 member
    rw [splitFirst?_eq_none member, splitFirst?_eq_none absent]

end RelyingParty.Text
