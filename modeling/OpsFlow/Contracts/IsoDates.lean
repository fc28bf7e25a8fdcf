import OpsFlow.Contracts.Instants

namespace OpsFlow.Contracts

/-! ## ECMAScript's `toISOString` -/

/-- Four digits, or a sign and six digits. -/
def isoYear (year : ℤ) : String :=
  if 0 ≤ year ∧ year ≤ 9999 then padded 4 year
  else (if year < 0 then "-" else "+") ++ padded 6 |year|

/-- The text of an instant that is given in milliseconds since 1970-01-01T00:00:00 UTC. -/
def toISOString (ms : ℤ) : String :=
  let date := civilFromDays (ms / 86400000)
  let millis := ms % 86400000
  isoYear date.1 ++ "-" ++ padded 2 date.2.1 ++ "-" ++ padded 2 date.2.2 ++ "T" ++
    padded 2 (millis / 3600000) ++ ":" ++ padded 2 (millis / 60000 % 60) ++ ":" ++
    padded 2 (millis / 1000 % 60) ++ "." ++ padded 3 (millis % 1000) ++ "Z"

theorem toISOString_ne_empty (ms : ℤ) : toISOString ms ≠ "" := by
  intro h
  have hlength := congrArg (fun s : String => s.toList.length) h
  simp [toISOString] at hlength

def InIsoYears (ms : ℤ) : Prop := 0 ≤ ms ∧ ms < 253370764800000

variable {ms : ℤ}

theorem padded_three {n : ℕ} (h : n < 1000) :
    ∃ a b c, (padded 3 n).toList = [a, b, c] ∧ decimal? [a, b, c] = some n := by
  obtain ⟨hlength, hvalue⟩ := padded_spec (by omega : 0 < 3) h
  obtain ⟨a, b, c, htext⟩ := List.length_eq_three.mp hlength
  rw [htext] at hvalue
  exact ⟨a, b, c, htext, hvalue⟩

/-- The fraction of a second, and the letter after it. -/
theorem readFraction_millis {a b c : Char} {n : ℕ} (h : decimal? [a, b, c] = some n) :
    readFraction ['.', a, b, c, 'Z'] = some ([a, b, c], ['Z']) := by
  have hall := decimal?_eq_some h
  simp only [List.forall_mem_cons] at hall
  have hZ : digit 'Z' = false := by decide
  simp [readFraction, hall.1, hall.2.1, hall.2.2.1, hZ]

/-- The text is read back as the instant. -/
theorem readDateTime_toISOString (h : InIsoYears ms) : ∃ t,
    readDateTime (toISOString ms).toList = some t ∧ t.valid = true ∧ t.second ≤ 59 ∧
      t.fraction.length = 3 ∧ t.instant = ms * 1000 := by
  obtain ⟨hlower, hupper⟩ := h
  obtain ⟨era, yoe, doy, hday, hcivil⟩ := civilFromDays_eq (ms / 86400000)
  have hrange := yearOf_range hday (by omega) (by omega)
  obtain ⟨year, hyear⟩ := Int.eq_ofNat_of_zero_le (by omega : 0 ≤ yearOf era yoe doy)
  obtain ⟨m, hm⟩ := Int.eq_ofNat_of_zero_le (Int.emod_nonneg ms (by omega : (86400000 : ℤ) ≠ 0))
  have hmonth := hday.month
  have hday' := hday.day_le hyear.symm
  have hdays := hday.daysFromCivil
  have hcivil' : civilFromDays (ms / 86400000) =
      ((year : ℤ), (monthOf doy : ℤ), (dayOf doy : ℤ)) := by
    rw [hcivil]
    change (yearOf era yoe doy, _, _) = _
    rw [hyear]
  have hdayle : dayOf doy < 100 := by
    have hdoy := hday.day
    unfold dayOf marchMonth
    omega
  -- the parts, each in as many digits as it always has
  obtain ⟨y₁, y₂, y₃, y₄, hyear₄, hyear'⟩ := padded_four (n := year) (by omega)
  obtain ⟨m₁, m₂, hmonth₂, hmonth'⟩ := padded_two (n := monthOf doy) (by omega)
  obtain ⟨d₁, d₂, hday₂, hday''⟩ := padded_two hdayle
  obtain ⟨h₁, h₂, hhour₂, hhour'⟩ := padded_two (n := m / 3600000) (by omega)
  obtain ⟨n₁, n₂, hminute₂, hminute'⟩ := padded_two (n := m / 60000 % 60) (by omega)
  obtain ⟨s₁, s₂, hsecond₂, hsecond'⟩ := padded_two (n := m / 1000 % 60) (by omega)
  obtain ⟨f₁, f₂, f₃, hmillis₃, hmillis'⟩ := padded_three (n := m % 1000) (by omega)
  have hisoYear : isoYear year = padded 4 year := if_pos ⟨by omega, by omega⟩
  have htext : (toISOString ms).toList =
      [y₁, y₂, y₃, y₄, '-', m₁, m₂, '-', d₁, d₂, 'T', h₁, h₂, ':', n₁, n₂, ':', s₁, s₂] ++
        ['.', f₁, f₂, f₃, 'Z'] := by
    have hhour : (m : ℤ) / 3600000 = (m / 3600000 : ℕ) := by omega
    have hminute : (m : ℤ) / 60000 % 60 = (m / 60000 % 60 : ℕ) := by omega
    have hsecond : (m : ℤ) / 1000 % 60 = (m / 1000 % 60 : ℕ) := by omega
    have hmillis : (m : ℤ) % 1000 = (m % 1000 : ℕ) := by omega
    unfold toISOString
    simp only [hcivil', hm, hhour, hminute, hsecond, hmillis, hisoYear, String.toList_append,
      hyear₄, hmonth₂, hday₂, hhour₂, hminute₂, hsecond₂, hmillis₃]
    rfl
  refine ⟨⟨year, monthOf doy, dayOf doy, m / 3600000, m / 60000 % 60, m / 1000 % 60, [f₁, f₂, f₃],
    .utc⟩, ?_, ?_, ?_, rfl, ?_⟩
  · rw [htext]
    exact readDateTime_of hyear' hmonth' hday'' hhour' hminute' hsecond'
      (readFraction_millis hmillis') rfl
  · unfold DateTimeText.valid
    rw [decide_eq_true_eq]
    refine ⟨hmonth.1, hmonth.2, hday'.1, hday'.2, ?_, ?_, rfl, .inl ?_⟩
    all_goals
      dsimp only
      omega
  · dsimp only
    omega
  · have hseconds : ((daysFromCivil year (monthOf doy) (dayOf doy) * 24 + (m / 3600000 : ℕ)) * 60 +
        (m / 60000 % 60 : ℕ) - 0) * 60 + (m / 1000 % 60 : ℕ) = ms / 1000 := by
      have hdays' : daysFromCivil year (monthOf doy) (dayOf doy) = ms / 86400000 := by
        rw [← hdays, hyear]
      rw [hdays']
      omega
    have hsplit : (ms : ℚ) = (ms / 1000 : ℤ) * 1000 + (m % 1000 : ℕ) := by
      have hint : ms = ms / 1000 * 1000 + (m % 1000 : ℕ) := by omega
      refine (congrArg (Int.cast (R := ℚ)) hint).trans ?_
      rw [Int.cast_add, Int.cast_mul, Int.cast_natCast]
      rfl
    unfold DateTimeText.instant Offset.minutesEast
    dsimp only
    rw [hmillis', hseconds, Option.getD_some, hsplit]
    norm_num
    linarith

theorem ajvFormat_toISOString (h : InIsoYears ms) :
    ajvFormat .dateTime (toISOString ms) = true := by
  obtain ⟨t, hread, hvalid, hsecond, hlength, -⟩ := readDateTime_toISOString h
  exact ajvFormat_of_readDateTime hread hvalid hsecond (by omega)

end OpsFlow.Contracts
