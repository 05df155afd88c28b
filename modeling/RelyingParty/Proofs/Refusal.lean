import RelyingParty.Proofs.Success

/-!
# The first refusal

A computation that makes some checks in order fails with what the first refusing one reports. This is
kept through sequences, so what a long computation reports follows from its single checks.
-/

namespace RelyingParty
set_option autoImplicit false

variable {κ ε α β : Type} {refuses : κ → ε → Prop}

/-- Among some checks, this one is the first to refuse. -/
def FirstRefusal (refuses : κ → ε → Prop) (checks : List κ) (c : κ) (failure : ε) : Prop :=
  ∃ before after, checks = before ++ c :: after ∧ (∀ d ∈ before, ∀ other, ¬refuses d other) ∧
    refuses c failure

theorem FirstRefusal.refused {checks : List κ} {c : κ} {failure : ε}
    (first : FirstRefusal refuses checks c failure) : refuses c failure := by
  obtain ⟨-, -, -, -, refused⟩ := first
  exact refused

/-- A computation fails as the first refusing one of some checks does, and succeeds when none refuses. -/
structure Reports (refuses : κ → ε → Prop) (checks : List κ) (answer : Except ε α) : Prop where
  failed : ∀ failure, answer = .error failure → ∃ c, FirstRefusal refuses checks c failure
  passed : ∀ a, answer = .ok a → ∀ c ∈ checks, ∀ failure, ¬refuses c failure

theorem reports_ok {checks : List κ} (a : α) (clear : ∀ c ∈ checks, ∀ failure, ¬refuses c failure) :
    Reports refuses checks (.ok a) :=
  ⟨nofun, fun _ _ => clear⟩

theorem reports_error {before after : List κ} {c : κ} {failure : ε}
    (clear : ∀ d ∈ before, ∀ other, ¬refuses d other) (refused : refuses c failure) :
    Reports refuses (before ++ c :: after) (.error failure : Except ε α) := by
  refine ⟨?_, nofun⟩
  intro other failing
  obtain rfl := Except.error.inj failing
  exact ⟨c, before, after, rfl, clear, refused⟩

theorem reports_mapError {ε' : Type} {c : κ} {answer : Except ε' α} {wrap : ε' → ε}
    (report : ∀ source, answer = .error source → refuses c (wrap source))
    (only : ∀ failure, refuses c failure → ∃ source, answer = .error source) :
    Reports refuses [c] (answer.mapError wrap) := by
  cases answer with
  | error source => exact reports_error (List.forall_mem_nil _) (report source rfl)
  | ok a =>
    apply reports_ok
    refine List.forall_mem_singleton.2 fun failure refused => ?_
    obtain ⟨source, rejected⟩ := only failure refused
    cases rejected

theorem Reports.bind {checks later : List κ} {answer : Except ε α} {next : α → Except ε β}
    (first : Reports refuses checks answer)
    (rest : ∀ a, answer = .ok a → Reports refuses later (next a)) :
    Reports refuses (checks ++ later) (answer >>= next) := by
  cases answer with
  | error failure =>
    obtain ⟨c, before, after, rfl, clear, refused⟩ := first.failed failure rfl
    rw [List.append_assoc, List.cons_append]
    exact reports_error clear refused
  | ok a =>
    have clear := first.passed a rfl
    refine ⟨?_, ?_⟩
    · intro failure failing
      obtain ⟨c, before, after, rfl, more, refused⟩ := (rest a rfl).failed failure failing
      refine ⟨c, checks ++ before, after, ?_, List.forall_mem_append.2 ⟨clear, more⟩, refused⟩
      rw [List.append_assoc]
    · intro b success
      exact List.forall_mem_append.2 ⟨clear, (rest a rfl).passed b success⟩

/-- A check by itself: it refuses what the computation fails with, and nothing when this succeeds. -/
theorem reports_single {c : κ} {answer : Except ε α}
    (failed : ∀ failure, answer = .error failure → refuses c failure)
    (passed : ∀ a, answer = .ok a → ∀ failure, ¬refuses c failure) : Reports refuses [c] answer := by
  cases answer with
  | error failure => exact reports_error (List.forall_mem_nil _) (failed failure rfl)
  | ok a => exact reports_ok a (List.forall_mem_singleton.2 (passed a rfl))

theorem Reports.map_answer {checks : List κ} {answer : Except ε α} (reports : Reports refuses checks answer)
    (f : α → β) : Reports refuses checks (answer.map f) := by
  refine ⟨?_, ?_⟩
  · intro failure failing
    cases answer with
    | error other => exact reports.failed failure (congrArg _ (Except.error.inj failing))
    | ok a => cases failing
  · intro b success
    obtain ⟨a, given, -⟩ := map_eq_ok_iff.1 success
    exact reports.passed a given

/-- Reading a list fails as the first element does that cannot be read. -/
theorem reports_mapM {read : α → Except ε β} {check : α → κ}
    (each : ∀ v, Reports refuses [check v] (read v)) (values : List α) :
    Reports refuses (values.map check) (values.mapM read) := by
  induction values with
  | nil => exact reports_ok [] (List.forall_mem_nil _)
  | cons v rest ih =>
    rw [List.mapM_cons]
    exact (each v).bind fun t _ => ih.map_answer (t :: ·)

theorem Reports.after {checks later : List κ} {answer : Except ε α} (rest : Reports refuses later answer)
    (clear : ∀ c ∈ checks, ∀ failure, ¬refuses c failure) :
    Reports refuses (checks ++ later) answer := by
  have passed : Reports refuses checks (.ok () : Except ε Unit) := reports_ok () clear
  exact passed.bind fun _ _ => rest

/-- Refusing at once is checking first. -/
theorem Reports.refusal {refused : Prop} [Decidable refused] {c : κ} {failure : ε} {checks : List κ}
    {answer : Except ε α} (report : refused → refuses c failure)
    (only : ∀ other, refuses c other → refused) (rest : ¬refused → Reports refuses checks answer) :
    Reports refuses (c :: checks) (if refused then .error failure else answer) := by
  by_cases holds : refused
  · rw [if_pos holds]
    exact reports_error (List.forall_mem_nil _) (report holds)
  · rw [if_neg holds]
    have clear : ∀ d ∈ [c], ∀ other, ¬refuses d other :=
      List.forall_mem_singleton.2 fun other refusing => holds (only other refusing)
    exact (rest holds).after clear

theorem Reports.map {κ' : Type} {place : κ → κ'} {refuses' : κ' → ε → Prop} {checks : List κ}
    {answer : Except ε α} (reports : Reports refuses checks answer)
    (same : ∀ c failure, refuses' (place c) failure ↔ refuses c failure) :
    Reports refuses' (checks.map place) answer := by
  refine ⟨?_, ?_⟩
  · intro failure failing
    obtain ⟨c, before, after, rfl, clear, refused⟩ := reports.failed failure failing
    refine ⟨place c, before.map place, after.map place, List.map_append, ?_, (same c failure).2 refused⟩
    intro _ member other refusal
    obtain ⟨d, early, rfl⟩ := List.mem_map.1 member
    exact clear d early other ((same d other).1 refusal)
  · intro a success _ member failure refusal
    obtain ⟨c, checked, rfl⟩ := List.mem_map.1 member
    exact reports.passed a success c checked failure ((same c failure).1 refusal)

theorem FirstRefusal.unique
    (single : ∀ c failure other, refuses c failure → refuses c other → failure = other)
    {checks : List κ} {c d : κ} {failure other : ε} (first : FirstRefusal refuses checks c failure)
    (again : FirstRefusal refuses checks d other) : failure = other := by
  -- the first check that refuses is the one that a search for a refusing check finds
  classical
  have found {x : κ} {f : ε} (refusal : FirstRefusal refuses checks x f) :
      checks.find? (fun y => decide (∃ g, refuses y g)) = some x := by
    obtain ⟨before, after, split, clear, refused⟩ := refusal
    refine List.find?_eq_some_iff_append.2 ⟨decide_eq_true ⟨f, refused⟩, before, after, split, ?_⟩
    intro y early
    rw [Bool.not_eq_true', decide_eq_false_iff_not]
    rintro ⟨g, refusing⟩
    exact clear y early g refusing
  obtain rfl := Option.some.inj ((found first).symm.trans (found again))
  exact single c failure other first.refused again.refused

/-- A check before the first refusing one lets everything pass. -/
theorem FirstRefusal.clear_of_idxOf_lt [DecidableEq κ] {checks : List κ} {c d : κ} {failure : ε}
    (first : FirstRefusal refuses checks c failure) (earlier : checks.idxOf d < checks.idxOf c) :
    ∀ other, ¬refuses d other := by
  obtain ⟨before, after, rfl, clear, refused⟩ := first
  by_cases early : d ∈ before
  · exact clear d early
  · have here : c ∉ before := fun early => clear c early failure refused
    rw [List.idxOf_append_of_notMem early, List.idxOf_append_of_notMem here, List.idxOf_cons_self] at earlier
    omega

theorem Reports.error_iff {checks : List κ} {answer : Except ε α} (reports : Reports refuses checks answer)
    (single : ∀ c failure other, refuses c failure → refuses c other → failure = other) (failure : ε) :
    answer = .error failure ↔ ∃ c, FirstRefusal refuses checks c failure := by
  refine ⟨reports.failed failure, ?_⟩
  rintro ⟨c, first⟩
  cases failing : answer with
  | ok a =>
    obtain ⟨before, after, rfl, -, refused⟩ := first
    have member : c ∈ before ++ c :: after := List.mem_append_right before List.mem_cons_self
    exact absurd refused (reports.passed a failing c member failure)
  | error other =>
    obtain ⟨d, again⟩ := reports.failed other failing
    rw [again.unique single first]

theorem Reports.ok_iff {checks : List κ} {answer : Except ε α} (reports : Reports refuses checks answer) :
    (∃ a, answer = .ok a) ↔ ∀ c ∈ checks, ∀ failure, ¬refuses c failure := by
  refine ⟨fun ⟨a, success⟩ => reports.passed a success, ?_⟩
  intro clear
  cases failing : answer with
  | ok a => exact ⟨a, rfl⟩
  | error failure =>
    obtain ⟨c, before, after, rfl, -, refused⟩ := reports.failed failure failing
    exact absurd refused (clear c (List.mem_append_right before List.mem_cons_self) failure)

end RelyingParty
