import OpsFlow.Contracts.TaskEnvelope
import OpsFlow.Library.Calendar
import OpsFlow.Library.Separated
import Mathlib.Tactic.IntervalCases
import Mathlib.Tactic.Linarith

namespace OpsFlow.Contracts

/-! ## Dates and times that are read -/

variable {s : String} {c : Char} {cs : List Char} {t : DateTimeText}

theorem rfcFormat_dateTime : rfcFormat .dateTime s = true ↔
    ∃ t, readDateTime s.toList = some t ∧ t.valid = true := by
  unfold rfcFormat
  cases h : readDateTime s.toList with
  | none => simp [h]
  | some t => simp [h]

theorem digit_iff : digit c = true ↔ c ∈ digits := by
  unfold digit digits
  rw [decide_eq_true_eq, Patterns.mem_range (by decide)]
  exact Iff.rfl

theorem decimal?_eq_some {n : ℕ} (h : decimal? cs = some n) : ∀ c ∈ cs, digit c = true := by
  obtain ⟨⟨-, hall⟩, -⟩ := Option.ite_none_right_eq_some.mp h
  exact List.all_eq_true.mp hall

/-- A date starts with a digit. -/
theorem readDateTime_head (h : readDateTime cs = some t) : ∃ c ∈ cs[0]?, digit c = true := by
  unfold readDateTime at h
  split at h
  · rename_i y₁ _ _ _ _ _ _ _ _ _ _ _ _ _ _ _ _
    obtain ⟨year, hyear, -⟩ := Option.bind_eq_some_iff.mp h
    exact ⟨_, rfl, decimal?_eq_some hyear _ List.mem_cons_self⟩
  · contradiction

/-! ## Dates -/

/-- Days since 1970-01-01. -/
def daysFromCivil (year month day : ℤ) : ℤ :=
  let y := if month ≤ 2 then year - 1 else year
  let doy := (153 * (if month ≤ 2 then month + 9 else month - 3) + 2) / 5 + day - 1
  y / 400 * 146097 + (365 * (y % 400) + y % 400 / 4 - y % 400 / 100 + doy) - 719468

/-- The month that the day of a year lies in, counted from March. -/
def marchMonth (doy : ℕ) : ℕ := (5 * doy + 2) / 153

def monthOf (doy : ℕ) : ℕ := if marchMonth doy < 10 then marchMonth doy + 3 else marchMonth doy - 9

def dayOf (doy : ℕ) : ℕ := doy - (153 * marchMonth doy + 2) / 5 + 1

/-- A day in its era and its year, which starts in March. -/
structure DayOfYear (days era : ℤ) (yoe doy : ℕ) : Prop where
  year : yoe < 400
  day : doy ≤ 364 ∨ (doy = 365 ∧ (yoe + 1) % 4 = 0 ∧
    ((yoe + 1) % 100 ≠ 0 ∨ (yoe + 1) % 400 = 0))
  days : days = era * 146097 + (365 * yoe + yoe / 4 - yoe / 100 + doy) - 719468

variable {days era : ℤ} {yoe doy : ℕ}

theorem civilFromDays_eq (days : ℤ) : ∃ era yoe doy, DayOfYear days era yoe doy ∧
    civilFromDays days =
      (yoe + era * 400 + (if marchMonth doy < 10 then 0 else 1), (monthOf doy : ℤ),
        (dayOf doy : ℤ)) := by
  obtain ⟨n, hn⟩ :=
    Int.eq_ofNat_of_zero_le (Int.emod_nonneg (days + 719468) (b := 146097) (by omega))
  have hle : n ≤ 146096 := by omega
  obtain ⟨hyoe, hstart, hend⟩ := Calendar.commonDays_div hle
  have hdoy := Calendar.yearEnd_sub hyoe hstart hend
  have hcast : ((n : ℤ) - n / 1460 + n / 36524 - n / 146096) / 365 =
      (Calendar.commonDays n / 365 : ℕ) := by
    unfold Calendar.commonDays
    omega
  -- the year of the era is known; the day of that year gives the month and its day
  generalize hyear : Calendar.commonDays n / 365 = yoe at hyoe hstart hend hdoy hcast
  refine ⟨(days + 719468) / 146097, yoe, n - Calendar.yearStart yoe, ⟨hyoe, hdoy, ?_⟩, ?_⟩
  · unfold Calendar.yearStart at hstart ⊢
    omega
  · have hdoy' : (n : ℤ) - (365 * yoe + yoe / 4 - yoe / 100) =
        (n - Calendar.yearStart yoe : ℕ) := by
      unfold Calendar.yearStart at hstart ⊢
      omega
    generalize n - Calendar.yearStart yoe = doy at hdoy hdoy'
    have hmonth : (5 * (doy : ℤ) + 2) / 153 = marchMonth doy := by
      unfold marchMonth
      omega
    have hday : (153 * marchMonth doy + 2) / 5 ≤ doy := by
      unfold marchMonth
      omega
    have hlt : marchMonth doy < 12 := by
      unfold marchMonth
      omega
    unfold civilFromDays
    simp only [hn]
    rw [hcast, hdoy', hmonth]
    unfold monthOf dayOf
    generalize marchMonth doy = mp at hday hlt
    -- what is left is about the month and its day only
    clear hmonth hdoy hdoy' hcast hstart hend hyoe hyear hn hle
    rw [Prod.mk.injEq, Prod.mk.injEq]
    refine ⟨?_, ?_, ?_⟩
    · split_ifs
      all_goals omega
    · split_ifs
      all_goals omega
    · omega

def yearOf (era : ℤ) (yoe doy : ℕ) : ℤ := yoe + era * 400 + (if marchMonth doy < 10 then 0 else 1)

theorem DayOfYear.month (h : DayOfYear days era yoe doy) : 1 ≤ monthOf doy ∧ monthOf doy ≤ 12 := by
  have hdoy := h.day
  unfold monthOf marchMonth
  split_ifs
  all_goals omega

theorem DayOfYear.daysFromCivil (h : DayOfYear days era yoe doy) :
    daysFromCivil (yearOf era yoe doy) (monthOf doy) (dayOf doy) = days := by
  have hyear := h.year
  have hdoy := h.day
  have hday : (153 * marchMonth doy + 2) / 5 ≤ doy := by
    unfold marchMonth
    omega
  have hlt : marchMonth doy < 12 := by
    unfold marchMonth
    omega
  rw [h.days]
  unfold Contracts.daysFromCivil yearOf monthOf dayOf
  generalize marchMonth doy = mp at hday hlt
  by_cases hmp : mp < 10
  · have hmonth : ¬ ((mp + 3 : ℕ) : ℤ) ≤ 2 := by omega
    simp only [if_pos hmp, if_neg hmonth]
    have hdiv : ((yoe : ℤ) + era * 400 + 0) / 400 = era := by omega
    have hmod : ((yoe : ℤ) + era * 400 + 0) % 400 = yoe := by omega
    rw [hdiv, hmod]
    omega
  · have hmonth : ((mp - 9 : ℕ) : ℤ) ≤ 2 := by omega
    simp only [if_neg hmp, if_pos hmonth]
    have hdiv : ((yoe : ℤ) + era * 400 + 1 - 1) / 400 = era := by omega
    have hmod : ((yoe : ℤ) + era * 400 + 1 - 1) % 400 = yoe := by omega
    rw [hdiv, hmod]
    omega

/-- The lengths of the months from March to January. -/
theorem daysInMonth_march (year : ℕ) {mp : ℕ} (h : mp < 11) :
    daysInMonth year (if mp < 10 then mp + 3 else mp - 9) =
      (153 * (mp + 1) + 2) / 5 - (153 * mp + 2) / 5 := by
  interval_cases mp
  all_goals rfl

/-- The day exists in its month. -/
theorem DayOfYear.day_le (h : DayOfYear days era yoe doy) {year : ℕ}
    (hyear : (year : ℤ) = yearOf era yoe doy) :
    1 ≤ dayOf doy ∧ dayOf doy ≤ daysInMonth year (monthOf doy) := by
  have hdoy := h.day
  have hmonth : marchMonth doy * 153 ≤ 5 * doy + 2 ∧ 5 * doy + 2 < marchMonth doy * 153 + 153 := by
    unfold marchMonth
    omega
  unfold dayOf monthOf
  refine ⟨by omega, ?_⟩
  by_cases hmp : marchMonth doy < 11
  · rw [daysInMonth_march year hmp]
    omega
  · -- February, which has a leap day in a leap year
    obtain hmp : marchMonth doy = 11 := by omega
    unfold yearOf at hyear
    rw [hmp] at hmonth hyear ⊢
    have hleap : doy = 365 → isLeapYear year = true := by
      intro hlast
      unfold isLeapYear
      rw [decide_eq_true_eq]
      omega
    change doy - 337 + 1 ≤ if isLeapYear year then 29 else 28
    split
    · omega
    · rename_i hnot
      have hne : doy ≠ 365 := fun hlast => hnot (hleap hlast)
      omega

/-! ## Numbers in a text -/

theorem digit_toDigits {n : ℕ} {c : Char} (h : c ∈ Nat.toDigits 10 n) : digit c = true := by
  have hdigit := Nat.isDigit_of_mem_toDigits (by omega) (by omega) h
  rw [Char.isDigit, Bool.and_eq_true, decide_eq_true_eq, decide_eq_true_eq] at hdigit
  exact decide_eq_true ⟨hdigit.1, hdigit.2⟩

/-- A number is read back from its digits, with zeros before them. -/
theorem padded_spec {width n : ℕ} (hwidth : 0 < width) (h : n < 10 ^ width) :
    (padded width n).toList.length = width ∧ decimal? (padded width n).toList = some n := by
  have hlength := (Nat.length_toDigits_le_iff (b := 10) (by omega) hwidth).mpr h
  have htext : (padded width n).toList =
      List.replicate (width - (Nat.toDigits 10 n).length) '0' ++ Nat.toDigits 10 n := by
    simp [padded]
  rw [htext]
  refine ⟨by rw [List.length_append, List.length_replicate]; omega, ?_⟩
  have hne : List.replicate (width - (Nat.toDigits 10 n).length) '0' ++ Nat.toDigits 10 n ≠ [] := by
    simp [Nat.toDigits_ne_nil]
  have hall : (List.replicate (width - (Nat.toDigits 10 n).length) '0' ++
      Nat.toDigits 10 n).all digit = true := by
    rw [List.all_eq_true]
    intro c hc
    obtain hc | hc := List.mem_append.mp hc
    · rw [List.eq_of_mem_replicate hc]
      rfl
    · exact digit_toDigits hc
  unfold decimal?
  rw [if_pos ⟨hne, hall⟩, ← Nat.ofDigitChars_eq_foldl, Nat.ofDigitChars_append,
    Nat.ofDigitChars_replicate_zero, Nat.mul_zero, Nat.ofDigitChars_ten_toDigits]

theorem padded_two {n : ℕ} (h : n < 100) :
    ∃ a b, (padded 2 n).toList = [a, b] ∧ decimal? [a, b] = some n := by
  obtain ⟨hlength, hvalue⟩ := padded_spec (by omega : 0 < 2) h
  obtain ⟨a, b, htext⟩ := List.length_eq_two.mp hlength
  rw [htext] at hvalue
  exact ⟨a, b, htext, hvalue⟩

theorem padded_four {n : ℕ} (h : n < 10000) :
    ∃ a b c d, (padded 4 n).toList = [a, b, c, d] ∧ decimal? [a, b, c, d] = some n := by
  obtain ⟨hlength, hvalue⟩ := padded_spec (by omega : 0 < 4) h
  obtain ⟨a, b, c, d, htext⟩ := List.length_eq_four.mp hlength
  rw [htext] at hvalue
  exact ⟨a, b, c, d, htext, hvalue⟩

/-! ## Python's `isoformat` is read back -/

/-- Microseconds since 1970-01-01T00:00:00 UTC. -/
def DateTimeText.instant (t : DateTimeText) : ℚ :=
  ((((daysFromCivil t.year t.month t.day * 24 + t.hour) * 60 + t.minute - t.offset.minutesEast) *
    60 + t.second : ℤ) : ℚ) * 1000000 +
      ((decimal? t.fraction).getD 0 : ℕ) * 1000000 / 10 ^ t.fraction.length

theorem readDateTime_of {y₁ y₂ y₃ y₄ m₁ m₂ d₁ d₂ h₁ h₂ n₁ n₂ s₁ s₂ : Char}
    {rest fraction zone : List Char} {offset : Offset} {year month day hour minute second : ℕ}
    (hyear : decimal? [y₁, y₂, y₃, y₄] = some year) (hmonth : decimal? [m₁, m₂] = some month)
    (hday : decimal? [d₁, d₂] = some day) (hhour : decimal? [h₁, h₂] = some hour)
    (hminute : decimal? [n₁, n₂] = some minute) (hsecond : decimal? [s₁, s₂] = some second)
    (hrest : readFraction rest = some (fraction, zone)) (hzone : readOffset zone = some offset) :
    readDateTime ([y₁, y₂, y₃, y₄, '-', m₁, m₂, '-', d₁, d₂, 'T', h₁, h₂, ':', n₁, n₂, ':',
      s₁, s₂] ++ rest) = some ⟨year, month, day, hour, minute, second, fraction, offset⟩ := by
  simp [readDateTime, hyear, hmonth, hday, hhour, hminute, hsecond, hrest, hzone]

def fractionText (micros : ℕ) : List Char :=
  if micros = 0 then [] else '.' :: (padded 6 micros).toList

/-- The fraction that is read for some microseconds. -/
theorem readFraction_fractionText {micros : ℕ} (h : micros < 1000000) : ∃ fraction,
    readFraction (fractionText micros ++ ['Z']) = some (fraction, ['Z']) ∧ fraction.length ≤ 6 ∧
      ((decimal? fraction).getD 0 : ℕ) * 1000000 / (10 : ℚ) ^ fraction.length = micros := by
  unfold fractionText
  split
  · rename_i hzero
    refine ⟨[], rfl, by simp, ?_⟩
    rw [hzero]
    simp [decimal?]
  · obtain ⟨hlength, hvalue⟩ := padded_spec (by omega : 0 < 6) h
    have hdigits := decimal?_eq_some hvalue
    have hzone : digit 'Z' = false := rfl
    have htake : ((padded 6 micros).toList ++ ['Z']).takeWhile digit = (padded 6 micros).toList :=
      Separated.takeWhile_append_cons hdigits hzone
    have hdrop : ((padded 6 micros).toList ++ ['Z']).dropWhile digit = ['Z'] :=
      Separated.dropWhile_append_cons hdigits hzone
    have hne : (padded 6 micros).toList ≠ [] := by
      intro hnil
      simp [hnil] at hlength
    refine ⟨(padded 6 micros).toList, ?_, hlength.le, ?_⟩
    · rw [List.cons_append, readFraction, htake, hdrop, if_neg hne]
    · rw [hvalue, hlength, Option.getD_some]
      norm_num

/-- A timezone-aware `datetime`: what the clock on the wall shows, and how far it is
ahead of UTC. -/
structure AwareDatetime where
  wall : Timestamp
  utcoffset : ℤ
  bounded : -86400000000 < utcoffset ∧ utcoffset < 86400000000

/-- The instant, which is all that `astimezone(UTC)` keeps. -/
def AwareDatetime.instant (d : AwareDatetime) : Timestamp := d.wall - d.utcoffset

def InYears (τ : Timestamp) : Prop :=
  ∃ d : AwareDatetime, d.instant = τ ∧ 0 ≤ d.wall ∧ d.wall < 253370764800000000

theorem InYears.bounds {τ : Timestamp} (h : InYears τ) :
    (-86400000000 : ℤ) ≤ τ ∧ (253370851200000000 : ℤ) > τ := by
  obtain ⟨d, rfl, hlower, hupper⟩ := h
  have hbounded := d.bounded
  have hfirst : (0 : ℤ) ≤ d.wall := hlower
  have hlast : (253370764800000000 : ℤ) > d.wall := hupper
  unfold AwareDatetime.instant
  constructor
  · omega
  · omega

theorem yearOf_range (h : DayOfYear days era yoe doy) (hfirst : -1 ≤ days)
    (hlast : days < 2932533) :
    1600 ≤ yearOf era yoe doy ∧ yearOf era yoe doy < 10000 := by
  have hyear := h.year
  have hdoy := h.day
  have hdays := h.days
  unfold yearOf marchMonth
  split_ifs
  all_goals omega

structure TimeOfDay (τ : Timestamp) (m : ℕ) : Prop where
  lt : m < 86400000000
  eq : (τ : ℤ) % 86400000000 = m

/-- The text of an instant, in its parts. -/
theorem toList_isoformat {τ : Timestamp} {year month day m : ℕ}
    (hcivil : civilFromDays (τ / 86400000000) = ((year : ℤ), (month : ℤ), (day : ℤ)))
    (hm : TimeOfDay τ m) : τ.isoformat.toList =
      (padded 4 year).toList ++ '-' :: ((padded 2 month).toList ++ '-' :: ((padded 2 day).toList ++
        'T' :: ((padded 2 (m / 3600000000 : ℕ)).toList ++ ':' ::
          ((padded 2 (m / 60000000 % 60 : ℕ)).toList ++ ':' ::
            ((padded 2 (m / 1000000 % 60 : ℕ)).toList ++ (fractionText (m % 1000000) ++
              "+00:00".toList)))))) := by
  have hhour : (m : ℤ) / 1000000 / 3600 = (m / 3600000000 : ℕ) := by omega
  have hminute : (m : ℤ) / 1000000 / 60 % 60 = (m / 60000000 % 60 : ℕ) := by omega
  have hsecond : (m : ℤ) / 1000000 % 60 = (m / 1000000 % 60 : ℕ) := by omega
  have hmicros : (m : ℤ) % 1000000 = (m % 1000000 : ℕ) := by omega
  unfold Timestamp.isoformat
  rw [hcivil, hm.eq]
  simp only [hhour, hminute, hsecond, hmicros]
  have hfraction : (if ((m % 1000000 : ℕ) : ℤ) = 0 then ""
      else "." ++ padded 6 (m % 1000000 : ℕ)).toList = fractionText (m % 1000000) := by
    unfold fractionText
    by_cases hzero : m % 1000000 = 0
    · simp [hzero]
    · have hzero' : ¬ ((m % 1000000 : ℕ) : ℤ) = 0 := by omega
      rw [if_neg hzero', if_neg hzero, String.toList_append]
      rfl
  simp only [String.toList_append, hfraction]
  simp

def stampChars : List Char := digits ++ ['-', 'T', ':', '.']

theorem mem_stampChars {n : ℕ} (h : decimal? cs = some n) (hc : c ∈ cs) : c ∈ stampChars :=
  List.mem_append_left _ (digit_iff.mp (decimal?_eq_some h c hc))

theorem fractionText_chars {micros : ℕ} (h : micros < 1000000) (hc : c ∈ fractionText micros) :
    c ∈ stampChars := by
  unfold fractionText at hc
  split at hc
  · contradiction
  · obtain rfl | hc := List.mem_cons.mp hc
    · decide
    · exact mem_stampChars (padded_spec (by omega : 0 < 6) h).2 hc

/-- What is read up to the offset is the instant. -/
theorem isoformat_stamp {τ : Timestamp} (h : InYears τ) : ∃ stamp t,
    τ.isoformat.toList = stamp ++ "+00:00".toList ∧ readDateTime (stamp ++ ['Z']) = some t ∧
      t.valid = true ∧ t.second ≤ 59 ∧ t.instant = (τ : ℤ) ∧ t.fraction.length ≤ 6 ∧
      ∀ c ∈ stamp, c ∈ stampChars := by
  obtain ⟨hlower, hupper⟩ := h.bounds
  obtain ⟨era, yoe, doy, hday, hcivil⟩ := civilFromDays_eq (τ / 86400000000)
  have hrange := yearOf_range hday (by omega) (by omega)
  obtain ⟨year, hyear⟩ := Int.eq_ofNat_of_zero_le (by omega : 0 ≤ yearOf era yoe doy)
  obtain ⟨m, hm⟩ := Int.eq_ofNat_of_zero_le (Int.emod_nonneg τ (by omega : (86400000000 : ℤ) ≠ 0))
  have htime : TimeOfDay τ m := ⟨by omega, hm⟩
  have hmonth := hday.month
  have hday' := hday.day_le hyear.symm
  have hdays := hday.daysFromCivil
  have hcivil' : civilFromDays (τ / 86400000000) =
      ((year : ℤ), (monthOf doy : ℤ), (dayOf doy : ℤ)) := by
    rw [hcivil]
    change (yearOf era yoe doy, _, _) = _
    rw [hyear]
  have hdayle : dayOf doy < 100 := by
    have hdoy := hday.day
    unfold dayOf marchMonth
    omega
  -- the parts, each in as many digits as it always has
  obtain ⟨y₁, y₂, y₃, y₄, hyear₄, hyear'⟩ := padded_four (n := year) (by omega)
  obtain ⟨m₁, m₂, hmonth₂, hmonth'⟩ := padded_two (n := monthOf doy) (by omega)
  obtain ⟨d₁, d₂, hday₂, hday''⟩ := padded_two hdayle
  obtain ⟨h₁, h₂, hhour₂, hhour'⟩ := padded_two (n := m / 3600000000) (by omega)
  obtain ⟨n₁, n₂, hminute₂, hminute'⟩ := padded_two (n := m / 60000000 % 60) (by omega)
  obtain ⟨s₁, s₂, hsecond₂, hsecond'⟩ := padded_two (n := m / 1000000 % 60) (by omega)
  obtain ⟨fraction, hfraction, hlength, hmicros⟩ :=
    readFraction_fractionText (by omega : m % 1000000 < 1000000)
  refine ⟨[y₁, y₂, y₃, y₄, '-', m₁, m₂, '-', d₁, d₂, 'T', h₁, h₂, ':', n₁, n₂, ':', s₁, s₂] ++
    fractionText (m % 1000000), ⟨year, monthOf doy, dayOf doy, m / 3600000000, m / 60000000 % 60,
      m / 1000000 % 60, fraction, .utc⟩, ?_, ?_, ?_, ?_, ?_, hlength, ?_⟩
  · rw [toList_isoformat hcivil' htime, hyear₄, hmonth₂, hday₂, hhour₂, hminute₂, hsecond₂]
    rfl
  · rw [List.append_assoc]
    exact readDateTime_of hyear' hmonth' hday'' hhour' hminute' hsecond' hfraction rfl
  · unfold DateTimeText.valid
    rw [decide_eq_true_eq]
    refine ⟨hmonth.1, hmonth.2, hday'.1, hday'.2, ?_, ?_, rfl, .inl ?_⟩
    all_goals
      dsimp only
      omega
  · dsimp only
    omega
  · have hseconds :
        (((daysFromCivil year (monthOf doy) (dayOf doy) * 24 + (m / 3600000000 : ℕ)) * 60 +
        (m / 60000000 % 60 : ℕ) - 0) * 60 + (m / 1000000 % 60 : ℕ)) * 1000000 +
          (m % 1000000 : ℕ) = (τ : ℤ) := by
      have hdays' : daysFromCivil year (monthOf doy) (dayOf doy) = (τ : ℤ) / 86400000000 := by
        rw [← hdays, hyear]
      rw [hdays']
      omega
    unfold DateTimeText.instant Offset.minutesEast
    dsimp only
    rw [hmicros, ← hseconds]
    push_cast
    rfl
  · have hparts : ∀ c ∈ [y₁, y₂, y₃, y₄, '-', m₁, m₂, '-', d₁, d₂, 'T', h₁, h₂, ':', n₁, n₂, ':',
        s₁, s₂], c ∈ stampChars := by
      have hseparator : '-' ∈ stampChars ∧ 'T' ∈ stampChars ∧ ':' ∈ stampChars := by decide
      obtain ⟨hdash, hT, hcolon⟩ := hseparator
      have hy := fun c => mem_stampChars (c := c) hyear'
      have hmo := fun c => mem_stampChars (c := c) hmonth'
      have hd := fun c => mem_stampChars (c := c) hday''
      have hh := fun c => mem_stampChars (c := c) hhour'
      have hn := fun c => mem_stampChars (c := c) hminute'
      have hs := fun c => mem_stampChars (c := c) hsecond'
      simp only [List.forall_mem_cons] at hy hmo hd hh hn hs ⊢
      exact ⟨hy.1, hy.2.1, hy.2.2.1, hy.2.2.2.1, hdash, hmo.1, hmo.2.1, hdash, hd.1, hd.2.1, hT,
        hh.1, hh.2.1, hcolon, hn.1, hn.2.1, hcolon, hs.1, hs.2.1, List.forall_mem_nil _⟩
    intro c hc
    obtain hc | hc := List.mem_append.mp hc
    · exact hparts c hc
    · exact fractionText_chars (by omega) hc

/-! ## What ajv-formats takes of it -/

theorem decimal_lt (h : ∀ c ∈ cs, digit c = true) :
    cs.foldl (fun value c => 10 * value + (c.toNat - '0'.toNat)) 0 < 10 ^ cs.length := by
  induction cs using List.reverseRecOn with
  | nil => exact Nat.zero_lt_one
  | append_singleton cs c ih =>
    have hvalue := ih fun d hd => h d (List.mem_append_left _ hd)
    obtain ⟨-, hupper⟩ := of_decide_eq_true (h c (by simp))
    have hnine : c.toNat ≤ 57 := hupper
    have hzero : '0'.toNat = 48 := rfl
    rw [List.foldl_append, List.foldl_cons, List.foldl_nil, List.length_append,
      List.length_singleton, Nat.pow_succ]
    omega

/-- The fraction of a second, in millionths at the finest, is a millionth below one. -/
theorem fraction_le (h : cs.length ≤ 6) :
    (((decimal? cs).getD 0 : ℕ) : ℚ) / 10 ^ cs.length ≤ 1 - 1 / 10 ^ 6 := by
  have hlt : (decimal? cs).getD 0 < 10 ^ cs.length := by
    cases hvalue : decimal? cs with
    | none => simp
    | some n =>
      obtain ⟨⟨-, hall⟩, heq⟩ := Option.ite_none_right_eq_some.mp hvalue
      obtain rfl := Option.some.inj heq
      exact decimal_lt (List.all_eq_true.mp hall)
  have hpow : (10 : ℚ) ^ cs.length ≤ 10 ^ 6 := pow_le_pow_right₀ (by norm_num) h
  have hpos : (0 : ℚ) < 10 ^ cs.length := by positivity
  have hvalue : (((decimal? cs).getD 0 : ℕ) : ℚ) ≤ 10 ^ cs.length - 1 := by
    have hcast : (((decimal? cs).getD 0 + 1 : ℕ) : ℚ) ≤ ((10 ^ cs.length : ℕ) : ℚ) :=
      Nat.cast_le.mpr hlt
    push_cast at hcast
    linarith
  rw [div_le_iff₀ hpos, sub_mul, one_mul, div_mul_eq_mul_div, one_mul]
  have hle : (10 : ℚ) ^ cs.length / 10 ^ 6 ≤ 1 := (div_le_one₀ (by positivity)).mpr hpow
  linarith

def plainChars : List Char := digits ++ ['-', ':', '.', '+', 'Z', 'z']

theorem plain_of_decimal? {n : ℕ} (h : decimal? cs = some n) : ∀ c ∈ cs, c ∈ plainChars :=
  fun c hc => List.mem_append_left _ (digit_iff.mp (decimal?_eq_some h c hc))

/-- No character of the two parts is one at which ajv-formats would part them again. -/
theorem plainChars_part :
    ∀ c ∈ plainChars, decide (c = 't' ∨ c = 'T' ∨ jsSpace c = true) = false := by
  decide

/-- An offset is a time zone of ajv-formats. -/
theorem ajvZone_of_readOffset {offset : Offset} (h : readOffset cs = some offset)
    (hrange : offset.inRange = true) : (∀ c ∈ cs, c ∈ plainChars) ∧
      ∃ sign hours minutes, ajvZone cs = some (sign, hours, minutes) ∧ hours ≤ 23 ∧
        minutes ≤ 59 := by
  unfold readOffset at h
  split at h
  · rename_i z
    obtain ⟨hz, -⟩ := Option.ite_none_right_eq_some.mp h
    refine ⟨?_, 1, 0, 0, ?_, by omega, by omega⟩
    · obtain rfl | rfl := hz
      · decide
      · decide
    · obtain rfl | rfl := hz
      · rfl
      · rfl
  · rename_i sign h₁ h₂ m₁ m₂
    simp only [Option.bind_eq_bind, Option.bind_eq_some_iff] at h
    obtain ⟨hours, hhours, minutes, hminutes, hsign⟩ := h
    have hbounds : ∀ negative, offset = .shifted negative hours minutes →
        hours ≤ 23 ∧ minutes ≤ 59 := by
      rintro negative rfl
      exact of_decide_eq_true hrange
    have hh := plain_of_decimal? hhours
    have hm := plain_of_decimal? hminutes
    have hcolon : ':' ∈ plainChars := by decide
    simp only [List.forall_mem_cons] at hh hm ⊢
    split_ifs at hsign with hplus hminus
    · obtain ⟨hle, hle'⟩ := hbounds false (Option.some.inj hsign).symm
      subst hplus
      refine ⟨⟨by decide, hh.1, hh.2.1, hcolon, hm.1, hm.2.1, List.forall_mem_nil _⟩, 1, hours,
        minutes, ?_, hle, hle'⟩
      simp [ajvZone, hhours, hminutes]
    · obtain ⟨hle, hle'⟩ := hbounds true (Option.some.inj hsign).symm
      subst hminus
      refine ⟨⟨by decide, hh.1, hh.2.1, hcolon, hm.1, hm.2.1, List.forall_mem_nil _⟩, -1, hours,
        minutes, ?_, hle, hle'⟩
      simp [ajvZone, hhours, hminutes]
  · contradiction

theorem plain_of_readFraction {fraction zone : List Char}
    (h : readFraction cs = some (fraction, zone)) (hzone : ∀ c ∈ zone, c ∈ plainChars) :
    ∀ c ∈ cs, c ∈ plainChars := by
  unfold readFraction at h
  split at h
  · rename_i rest
    obtain ⟨-, hparts⟩ := Option.ite_none_left_eq_some.mp h
    obtain ⟨rfl, rfl⟩ := Prod.mk.inj (Option.some.inj hparts)
    have hdot : '.' ∈ plainChars := by decide
    rw [List.forall_mem_cons]
    refine ⟨hdot, fun c hc => ?_⟩
    rw [← List.takeWhile_append_dropWhile (p := digit) (l := rest)] at hc
    obtain hc | hc := List.mem_append.mp hc
    · exact List.mem_append_left _ (digit_iff.mp (List.mem_takeWhile_imp hc))
    · exact hzone c hc
  · obtain ⟨rfl, rfl⟩ := Prod.mk.inj (Option.some.inj h)
    exact hzone

/-- A date and time of RFC 3339, in microseconds at the finest and in no leap second, is one of
ajv-formats. -/
theorem ajvFormat_of_readDateTime (h : readDateTime s.toList = some t) (hvalid : t.valid = true)
    (hsecond : t.second ≤ 59) (hlength : t.fraction.length ≤ 6) :
    ajvFormat .dateTime s = true := by
  generalize hs : s.toList = cs at h
  unfold readDateTime at h
  split at h
  · rename_i y₁ y₂ y₃ y₄ m₁ m₂ d₁ d₂ letter h₁ h₂ n₁ n₂ s₁ s₂ rest
    simp only [Option.bind_eq_bind, Option.bind_eq_some_iff, Prod.exists] at h
    obtain ⟨year, hyear, month, hmonth, day, hday, hour, hhour, minute, hminute, second, hsecond',
      fraction, zone, hrest, offset, hoffset, ht⟩ := h
    obtain ⟨hletter, heq⟩ := Option.ite_none_right_eq_some.mp ht
    obtain rfl := Option.some.inj heq
    obtain ⟨hmonth₁, hmonth₂, hday₁, hday₂, hhour', hminute', hrange, -⟩ := of_decide_eq_true hvalid
    obtain ⟨hzonePlain, sign, hours, minutes, hzone, hhours, hminutes⟩ :=
      ajvZone_of_readOffset hoffset hrange
    have hdate : ∀ c ∈ [y₁, y₂, y₃, y₄, '-', m₁, m₂, '-', d₁, d₂], c ∈ plainChars := by
      have hdash : '-' ∈ plainChars := by decide
      have hy := plain_of_decimal? hyear
      have hm := plain_of_decimal? hmonth
      have hd := plain_of_decimal? hday
      simp only [List.forall_mem_cons] at hy hm hd ⊢
      exact ⟨hy.1, hy.2.1, hy.2.2.1, hy.2.2.2.1, hdash, hm.1, hm.2.1, hdash, hd⟩
    have htime : ∀ c ∈ h₁ :: h₂ :: ':' :: n₁ :: n₂ :: ':' :: s₁ :: s₂ :: rest, c ∈ plainChars := by
      have hcolon : ':' ∈ plainChars := by decide
      have hh := plain_of_decimal? hhour
      have hn := plain_of_decimal? hminute
      have hs := plain_of_decimal? hsecond'
      simp only [List.forall_mem_cons] at hh hn hs ⊢
      exact ⟨hh.1, hh.2.1, hcolon, hn.1, hn.2.1, hcolon, hs.1, hs.2.1,
        plain_of_readFraction hrest hzonePlain⟩
    have hsep : decide (letter = 't' ∨ letter = 'T' ∨ jsSpace letter = true) = true := by
      obtain rfl | rfl := hletter
      · rfl
      · rfl
    -- the text is parted at the letter and nowhere else, as both parts are of plain characters
    have hparts : s.toList.splitOnP (fun c => c = 't' ∨ c = 'T' ∨ jsSpace c) =
        [[y₁, y₂, y₃, y₄, '-', m₁, m₂, '-', d₁, d₂],
          h₁ :: h₂ :: ':' :: n₁ :: n₂ :: ':' :: s₁ :: s₂ :: rest] := by
      rw [hs, ← List.splitOnP_eq_singleton fun c hc => plainChars_part c (htime c hc)]
      exact List.splitOnP_append_cons_of_forall_mem (fun c hc => plainChars_part c (hdate c hc))
        letter hsep _
    have hdate' : ajvDate [y₁, y₂, y₃, y₄, '-', m₁, m₂, '-', d₁, d₂] = true := by
      simp [ajvDate, hyear, hmonth, hday, hmonth₁, hmonth₂, hday₁, hday₂]
    -- six digits are too few to be rounded up to the next second
    have hbelow : secondsBelow 60 second fraction = true := by
      have hfraction := fraction_le hlength
      have hcast : (second : ℚ) ≤ 59 := by exact_mod_cast hsecond
      unfold secondsBelow
      rw [decide_eq_true_eq]
      norm_num at hfraction ⊢
      linarith
    have htime' : ajvTime (h₁ :: h₂ :: ':' :: n₁ :: n₂ :: ':' :: s₁ :: s₂ :: rest) = true := by
      have hhours' : ¬ (hours > 23 ∨ minutes > 59) := by omega
      simp [ajvTime, hhour, hminute, hsecond', hrest, hzone, hhours', hhour', hminute', hbelow]
    unfold ajvFormat
    simp only [hparts, hdate', htime', Bool.and_self]
  · contradiction

end OpsFlow.Contracts
