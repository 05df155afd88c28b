import RelyingParty.Proofs.Calendar.InstantText

/-!
# Instants at other offsets

The same instant is written with other dates and times of day where clocks are ahead of UTC or behind it.
All these texts are read as that instant, as long as the local date is supported.
-/

namespace RelyingParty.Calendar
set_option autoImplicit false

/-- The minutes that clocks are ahead of UTC, given as a length and whether they are behind. -/
def offsetMinutes (behind : Bool) (minutes : Nat) : Int :=
  bif behind then -minutes else minutes

/-- The characters of an offset from UTC: a sign, hours and minutes. -/
def offsetChars (behind : Bool) (minutes : Nat) : List Char :=
  (bif behind then '-' else '+') :: (Text.paddedDigits 2 (minutes / 60)
    ++ ':' :: Text.paddedDigits 2 (minutes % 60))

theorem scanPair_paddedDigits {n : Nat} (h : n < 10 ^ 2) (rest : List Char) :
    scanPair (Text.paddedDigits 2 n ++ rest) = some (n, rest) := by
  have digit := Text.isDigit_of_mem_paddedDigits 2 n
  have value := Text.ofDigits_paddedDigits 2 n
  obtain ⟨a, b, pair⟩ := List.length_eq_two.1 (Text.length_paddedDigits 1 n h)
  rw [pair] at digit value ⊢
  have first := digit a (by simp)
  have second := digit b (by simp)
  simp only [scanPair, List.cons_append, List.nil_append, first, second, and_self, if_true, value]

/-- The separators before the minutes of an offset are one colon. -/
theorem dropWhile_colon (w n : Nat) :
    (':' :: Text.paddedDigits w n).dropWhile (fun c => c = ':' ∨ Text.isBlank c) =
      Text.paddedDigits w n := by
  have digit := Text.isDigit_of_mem_paddedDigits w n
  rw [List.dropWhile_cons_of_pos (by decide)]
  cases cons : Text.paddedDigits w n with
  | nil => rfl
  | cons d ds =>
    have head := digit d (by simp [cons])
    have blank := Text.not_isBlank_of_isDigit head
    have colon : d ≠ ':' := by
      rintro rfl
      revert head
      decide
    rw [List.dropWhile_cons_of_neg (by simp [colon, blank])]

theorem scanOffset_offsetChars (behind : Bool) {minutes : Nat} (day : minutes < 1440) :
    scanOffset (offsetChars behind minutes) = some (offsetMinutes behind minutes, []) := by
  have hours := scanPair_paddedDigits (n := minutes / 60) (by omega)
    (':' :: Text.paddedDigits 2 (minutes % 60))
  have left := scanPair_paddedDigits (n := minutes % 60) (by omega) []
  rw [List.append_nil] at left
  have time : scanOffsetTime (Text.paddedDigits 2 (minutes / 60) ++
      ':' :: Text.paddedDigits 2 (minutes % 60)) = some (minutes, []) := by
    have whole : 60 * (minutes / 60) + minutes % 60 = minutes := by omega
    simp only [scanOffsetTime, hours, dropWhile_colon, left, Option.bind_eq_bind, Option.bind_some, whole]
    rw [if_pos ⟨by omega, by omega⟩]
  cases behind <;> simp only [offsetChars, scanOffset, cond_true, cond_false, time] <;> rfl

theorem skipBlanks_offsetChars (behind : Bool) (minutes : Nat) :
    Text.skipBlanks (offsetChars behind minutes) = offsetChars behind minutes := by
  cases behind <;> exact List.dropWhile_cons_of_neg (by decide)

namespace Instant

/-- The text writes the instant: in UTC, or as clocks show it that are less than a day ahead or behind. -/
inductive Writes (t : Instant) : String → Prop
  | utc : Writes t t.text
  | offset (behind : Bool) {minutes : Nat} {here : Instant} (day : minutes < 1440)
    (shows : Shows (offsetMinutes behind minutes) here t) :
    Writes t (String.ofList (here.localChars ++ offsetChars behind minutes))

/-- **Offsets do not matter.** Whatever offset a legible instant is written with, it is read back. -/
theorem ofText?_of_writes {t : Instant} (legible : t.Legible) {text : String} (writes : t.Writes text) :
    ofText? text = some t := by
  cases writes with
  | utc => exact ofText?_text legible
  | @offset behind minutes here day shows =>
    have noDigit : Text.NoDigit (offsetChars behind minutes) := by
      cases behind <;> exact Text.noDigit_cons (by decide)
    have noPoint : (offsetChars behind minutes).head? ≠ some '.' := by cases behind <;> nofun
    exact shows.ofText? legible noDigit noPoint (skipBlanks_offsetChars behind minutes)
      (scanOffset_offsetChars behind day)

end Instant
end RelyingParty.Calendar
