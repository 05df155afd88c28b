import Mathlib.Data.List.Basic
import RelyingParty.Text.Case

/-!
# Names compared after a case mapping

A full case mapping turns no character outside ASCII into the letters of the names that are compared with its
images. So a text is mapped to such a name only when it spells the name in ASCII letters of either case, and the
form that a sigma takes at the end of a word makes no difference.
-/

namespace RelyingParty.Text
set_option autoImplicit false

/-! ## ASCII letters -/

theorem toUpper_of_le {c : Char} (outside : 128 ≤ c.toNat) : c.toUpper = c := by
  refine dif_neg fun range => ?_
  have small : c.toNat ≤ 122 := UInt32.le_iff_toNat_le.1 range.2
  omega

theorem toLower_of_le {c : Char} (outside : 128 ≤ c.toNat) : c.toLower = c := by
  refine dif_neg fun range => ?_
  have small : c.toNat ≤ 90 := UInt32.le_iff_toNat_le.1 range.2
  omega

/-- What holds of every ASCII character holds of every character that is one. -/
theorem forall_ascii {P : Char → Prop} (all : ∀ n < 128, P (Char.ofNat n)) {c : Char} (ascii : c.toNat < 128) :
    P c := by
  have holds := all c.toNat ascii
  rwa [Char.ofNat_toNat] at holds

theorem toLower_toUpper (c : Char) : c.toUpper.toLower = c.toLower := by
  by_cases ascii : c.toNat < 128
  · exact forall_ascii (P := fun c => c.toUpper.toLower = c.toLower) (by decide) ascii
  · rw [toUpper_of_le (Nat.le_of_not_lt ascii)]

theorem toUpper_toLower (c : Char) : c.toLower.toUpper = c.toUpper := by
  by_cases ascii : c.toNat < 128
  · exact forall_ascii (P := fun c => c.toLower.toUpper = c.toUpper) (by decide) ascii
  · rw [toLower_of_le (Nat.le_of_not_lt ascii)]

theorem toLower_lt_iff {c : Char} : c.toLower.toNat < 128 ↔ c.toNat < 128 := by
  by_cases ascii : c.toNat < 128
  · exact iff_of_true (forall_ascii (P := fun c => c.toLower.toNat < 128) (by decide) ascii) ascii
  · rw [toLower_of_le (Nat.le_of_not_lt ascii)]

/-- A case mapping acts on ASCII as its first run does, when its other runs and its expansions start outside. -/
theorem mapCase_of_ascii {expansions : List (Nat × List Nat)} {run : CaseRun} {runs : List CaseRun}
    {ascii : Char → Char} (expanded : ∀ e ∈ expansions, 128 ≤ e.1) (moved : ∀ r ∈ runs, 128 ≤ r.first)
    (image : ∀ n < 128, Char.ofNat (if run.covers n then run.image n else n) = ascii (Char.ofNat n))
    {c : Char} (small : c.toNat < 128) : mapCase expansions (run :: runs) c = [ascii c] := by
  have whole : expansions.lookup c.toNat = none := by
    rw [List.lookup_eq_none_iff]
    intro e member
    exact bne_iff_ne.2 (Nat.ne_of_lt (Nat.lt_of_lt_of_le small (expanded e member)))
  have other : runs.find? (·.covers c.toNat) = none := by
    rw [List.find?_eq_none]
    intro r member covers
    have start := moved r member
    simp only [CaseRun.covers, Bool.and_eq_true, decide_eq_true_eq] at covers
    omega
  have moves := image c.toNat small
  rw [Char.ofNat_toNat] at moves
  rw [mapCase, whole, List.find?_cons, other, ← moves]
  cases run.covers c.toNat
  · exact congrArg (fun d => [d]) (Char.ofNat_toNat c).symm
  · rfl

/-! ## Characters outside ASCII -/

/-- Whether the images of a case mapping outside ASCII each hold a character that is none of some ASCII
letters, given by their code points. -/
def avoids (letters : List Nat) (expansions : List (Nat × List Nat)) (runs : List CaseRun) : Bool :=
  letters.all (fun n => decide (0 < n) && decide (n < 128))
    && expansions.all (fun e => e.2.any fun n => !letters.contains n)
    && runs.all fun r => decide (r.last < 128) ||
      letters.all fun n => decide (n < r.target) || decide (r.target + (r.last - r.first) < n)

section
variable {letters : List Nat} {expansions : List (Nat × List Nat)} {runs : List CaseRun} {c : Char}

theorem lt_of_avoids (avoided : avoids letters expansions runs = true) {n : Nat} (member : n ∈ letters) :
    n < 128 := by
  simp only [avoids, Bool.and_eq_true, List.all_eq_true, decide_eq_true_eq] at avoided
  exact (avoided.1.1 n member).2

theorem toNat_ofNat_notMem (null : 0 ∉ letters) {n : Nat} (other : n ∉ letters) :
    (Char.ofNat n).toNat ∉ letters := by
  by_cases valid : n.isValidChar
  · have given : Char.ofNat n = Char.ofNatAux n valid := dif_pos valid
    rw [given]
    exact other
  · have replaced : Char.ofNat n = Char.ofNat 0 := dif_neg valid
    rw [replaced]
    exact null

/-- The image of a character outside ASCII holds a character that is none of the letters. -/
theorem exists_notMem_of_avoids (avoided : avoids letters expansions runs = true) (outside : 128 ≤ c.toNat) :
    ∃ d ∈ mapCase expansions runs c, d.toNat ∉ letters := by
  simp only [avoids, Bool.and_eq_true, List.all_eq_true, List.any_eq_true, Bool.or_eq_true, decide_eq_true_eq,
    Bool.not_eq_true', List.contains_eq_mem, decide_eq_false_iff_not] at avoided
  obtain ⟨⟨range, expanded⟩, moved⟩ := avoided
  have null : 0 ∉ letters := fun member => absurd (range 0 member).1 (Nat.lt_irrefl 0)
  unfold mapCase
  split
  · next image found =>
    obtain ⟨before, after, split, -⟩ := List.lookup_eq_some_iff.1 found
    have listed : (c.toNat, image) ∈ expansions := by rw [split]; simp
    obtain ⟨n, member, other⟩ := expanded _ listed
    exact ⟨Char.ofNat n, List.mem_map_of_mem member, toNat_ofNat_notMem null other⟩
  · split
    · next run found =>
      have covers := List.find?_some (p := fun r : CaseRun => r.covers c.toNat) found
      simp only [CaseRun.covers, Bool.and_eq_true, decide_eq_true_eq] at covers
      refine ⟨_, List.mem_singleton_self _, toNat_ofNat_notMem null fun member => ?_⟩
      rcases moved run (List.mem_of_find?_eq_some found) with ascii | apart
      · omega
      · have bounds := apart _ member
        rw [CaseRun.image] at bounds
        omega
    · refine ⟨c, List.mem_singleton_self c, fun member => ?_⟩
      have ascii := (range _ member).2
      omega

end

/-! ## Names -/

/-- A text is mapped to a name of letters that the mapping avoids when it is an ASCII text that is mapped so. -/
theorem flatMap_eq_iff {mapping : Char → List Char} {ascii : Char → Char} {letters : List Nat}
    (within : ∀ c, c.toNat < 128 → mapping c = [ascii c])
    (outside : ∀ c, 128 ≤ c.toNat → ∃ d ∈ mapping c, d.toNat ∉ letters)
    {cs name : List Char} (known : ∀ d ∈ name, d.toNat ∈ letters) :
    cs.flatMap mapping = name ↔ (∀ c ∈ cs, c.toNat < 128) ∧ cs.map ascii = name := by
  have plain (all : ∀ c ∈ cs, c.toNat < 128) : cs.flatMap mapping = cs.map ascii := by
    rw [List.map_eq_flatMap]
    exact List.flatMap_congr fun c member => within c (all c member)
  constructor
  · intro same
    have all : ∀ c ∈ cs, c.toNat < 128 := by
      intro c member
      refine Nat.lt_of_not_le fun large => ?_
      obtain ⟨d, image, other⟩ := outside c large
      exact other (known d (same ▸ List.mem_flatMap.2 ⟨c, member, image⟩))
    exact ⟨all, (plain all).symm.trans same⟩
  · rintro ⟨all, same⟩
    exact (plain all).trans same

/-- A choice of case for ASCII letters: it keeps the lower case of a character, and is fixed by it. -/
structure FoldsAscii (ascii : Char → Char) : Prop where
  toLower_of : ∀ c, (ascii c).toLower = c.toLower
  of_toLower : ∀ c, ascii c.toLower = ascii c

theorem foldsAscii_toUpper : FoldsAscii Char.toUpper := ⟨toLower_toUpper, toUpper_toLower⟩

theorem foldsAscii_toLower : FoldsAscii Char.toLower := by
  have again (c : Char) : c.toLower.toLower = c.toLower := by
    rw [← toLower_toUpper c.toLower, toUpper_toLower, toLower_toUpper]
  exact ⟨again, again⟩

/-- Only ASCII texts are an ASCII name but for the case of ASCII letters. -/
theorem ascii_of_lowerAscii {s name : String} (small : ∀ d ∈ name.toList, d.toNat < 128)
    (same : lowerAscii s = lowerAscii name) : ∀ c ∈ s.toList, c.toNat < 128 := by
  rw [lowerAscii, lowerAscii, String.ofList_inj] at same
  intro c member
  have lower : c.toLower ∈ name.toList.map Char.toLower := same ▸ List.mem_map_of_mem member
  obtain ⟨d, named, lowered⟩ := List.mem_map.1 lower
  rw [← toLower_lt_iff, ← lowered, toLower_lt_iff]
  exact small d named

/-- A text is mapped to a name in the mapping's own case when it is the name in ASCII letters of either case. -/
theorem flatMap_eq_name_iff {mapping : Char → List Char} {ascii : Char → Char} {letters : List Nat}
    (within : ∀ c, c.toNat < 128 → mapping c = [ascii c])
    (outside : ∀ c, 128 ≤ c.toNat → ∃ d ∈ mapping c, d.toNat ∉ letters) (folds : FoldsAscii ascii)
    {s name : String} (known : name.toList.map Char.toNat ⊆ letters) (small : ∀ n ∈ letters, n < 128)
    (fixed : name.toList.map ascii = name.toList) :
    String.ofList (s.toList.flatMap mapping) = name ↔ lowerAscii s = lowerAscii name := by
  have mapped : s.toList.flatMap mapping = name.toList ↔
      (∀ c ∈ s.toList, c.toNat < 128) ∧ s.toList.map ascii = name.toList :=
    flatMap_eq_iff within outside fun _ member => known (List.mem_map_of_mem member)
  have lower_iff : lowerAscii s = lowerAscii name ↔
      s.toList.map Char.toLower = name.toList.map Char.toLower := by
    rw [lowerAscii, lowerAscii, String.ofList_inj]
  rw [← String.toList_inj, String.toList_ofList, mapped]
  constructor
  · rintro ⟨-, same⟩
    rw [lower_iff, ← same, List.map_map]
    exact List.map_congr_left fun c _ => (folds.toLower_of c).symm
  · intro same
    refine ⟨ascii_of_lowerAscii (fun d member => small _ (known (List.mem_map_of_mem member))) same, ?_⟩
    have again := congrArg (List.map ascii) (lower_iff.1 same)
    rw [List.map_map, List.map_map] at again
    rw [← fixed]
    simpa only [Function.comp_def, folds.of_toLower] using again

theorem upperChar_of_ascii {c : Char} (ascii : c.toNat < 128) : upperChar c = [c.toUpper] := by
  have runs : upperRuns = ⟨0x61, 0x7A, 1, 0x41⟩ :: upperRuns.tail := rfl
  rw [upperChar, runs]
  exact mapCase_of_ascii (by decide +kernel) (by decide +kernel) (by decide) ascii

theorem lowerChar_of_ascii {c : Char} (ascii : c.toNat < 128) : lowerChar c = [c.toLower] := by
  have runs : lowerRuns = ⟨0x41, 0x5A, 1, 0x61⟩ :: lowerRuns.tail := rfl
  rw [lowerChar, runs]
  exact mapCase_of_ascii (by decide +kernel) (by decide +kernel) (by decide) ascii

/-- A text has a name of capitals as its upper case when it is the name in ASCII letters of either case. -/
theorem upper_eq_iff {letters : List Nat} (avoided : avoids letters upperExpansions upperRuns = true)
    {s name : String} (known : name.toList.map Char.toNat ⊆ letters)
    (capital : name.toList.map Char.toUpper = name.toList) :
    upper s = name ↔ lowerAscii s = lowerAscii name :=
  flatMap_eq_name_iff (fun _ => upperChar_of_ascii) (fun _ => exists_notMem_of_avoids avoided)
    foldsAscii_toUpper known (fun _ => lt_of_avoids avoided) capital

/-- A text has a name of small letters as its lower case when it is the name in ASCII letters of either case. -/
theorem lower_eq_iff {letters : List Nat} (avoided : avoids letters lowerExpansions lowerRuns = true)
    {s name : String} (known : name.toList.map Char.toNat ⊆ letters)
    (small : name.toList.map Char.toLower = name.toList) :
    lower s = name ↔ lowerAscii s = lowerAscii name :=
  flatMap_eq_name_iff (fun _ => lowerChar_of_ascii) (fun _ => exists_notMem_of_avoids avoided)
    foldsAscii_toLower known (fun _ => lt_of_avoids avoided) small

/-! ## The final sigma -/

/-- A lower case of a text, in which any of the capital sigmas may have taken the form for the end of a word. -/
inductive Lowers : List Char → List Char → Prop
  | nil : Lowers [] []
  | mapped (c : Char) {cs ds : List Char} (rest : Lowers cs ds) : Lowers (c :: cs) (lowerChar c ++ ds)
  | finalSigma {cs ds : List Char} (rest : Lowers cs ds) : Lowers ('Σ' :: cs) ('ς' :: ds)

/-- A lower case is the one without final sigmas, or each of the two has a sigma of its own form. -/
theorem Lowers.eq_or_mem {cs ds : List Char} (lowers : Lowers cs ds) :
    ds = cs.flatMap lowerChar ∨ 'ς' ∈ ds ∧ 'σ' ∈ cs.flatMap lowerChar := by
  induction lowers with
  | nil => exact .inl rfl
  | mapped c rest ih =>
    rw [List.flatMap_cons]
    rcases ih with same | ⟨final, usual⟩
    · exact .inl (congrArg _ same)
    · exact .inr ⟨List.mem_append_right _ final, List.mem_append_right _ usual⟩
  | finalSigma rest ih =>
    have sigma : lowerChar 'Σ' = ['σ'] := by decide +kernel
    rw [List.flatMap_cons, sigma]
    exact .inr ⟨List.mem_cons_self, List.mem_cons_self⟩

/-- No ASCII name depends on the form of a sigma. -/
theorem eq_name_iff_of_lowers {s t name : String} (lowers : Lowers s.toList t.toList)
    (small : ∀ d ∈ name.toList, d.toNat < 128) : t = name ↔ lower s = name := by
  have usual : (lower s).toList = s.toList.flatMap lowerChar := String.toList_ofList
  rw [← String.toList_inj, ← String.toList_inj, usual]
  rcases lowers.eq_or_mem with same | ⟨final, sigma⟩
  · rw [same]
  · refine iff_of_false ?_ ?_
    · intro named
      exact absurd (small 'ς' (named ▸ final)) (by decide)
    · intro named
      exact absurd (small 'σ' (named ▸ sigma)) (by decide)

end RelyingParty.Text
