import OpenIdProvider.Time.Calendar
/-!
# Days and dates

The date of a day is a date of the calendar (`valid_ofDays`), and that day is the day of the
date (`toDays_ofDays`).

A day of an era is counted by centuries, groups of four years, years and days
(`exists_cycles`). In these numbers the year of the era, which is computed by one division
after the leap days before it are taken away, comes out as the year that the day is in.
-/

namespace OpenIdProvider.Calendar

/-- The year of an era that a day of the era is in. -/
def yearOfEra (n : Int) : Int :=
  (n - n / 1460 + n / 36524 - n / 146096) / 365

/-- The days of an era before a year of it. -/
def daysBefore (y : Int) : Int :=
  365 * y + y / 4 - y / 100

/-- A day of an era by centuries, groups of four years, years and days. A year has a 366th day
only at the end of its group, and if that is the last one of a century, of the last century. -/
theorem exists_cycles {n : Int} (h₀ : 0 ≤ n) (h₁ : n < 146097) :
    ∃ c q a d : Int, n = 36524 * c + 1461 * q + 365 * a + d ∧ 0 ≤ c ∧ c ≤ 3 ∧ 0 ≤ q ∧ q ≤ 24 ∧
      0 ≤ a ∧ a ≤ 3 ∧ 0 ≤ d ∧ (d ≤ 364 ∨ d = 365 ∧ a = 3 ∧ (q ≤ 23 ∨ c = 3)) := by
  obtain ⟨c, r, hn, hc₀, hc₃, hr₀, hr⟩ : ∃ c r : Int, n = 36524 * c + r ∧ 0 ≤ c ∧ c ≤ 3 ∧ 0 ≤ r ∧
      (r < 36524 ∨ r = 36524 ∧ c = 3) := by
    by_cases hlast : n = 146096
    · exact ⟨3, 36524, by omega⟩
    · exact ⟨n / 36524, n % 36524, by omega⟩
  obtain ⟨a, d, hs, ha₀, ha₃, hd₀, hd⟩ : ∃ a d : Int, r % 1461 = 365 * a + d ∧ 0 ≤ a ∧ a ≤ 3 ∧
      0 ≤ d ∧ (d ≤ 364 ∨ d = 365 ∧ a = 3) := by
    by_cases hlast : r % 1461 = 1460
    · exact ⟨3, 365, by omega⟩
    · exact ⟨r % 1461 / 365, r % 1461 % 365, by omega⟩
  exact ⟨c, r / 1461, a, d, by omega⟩

theorem daysBefore_cycles {c q a : Int} (hq₀ : 0 ≤ q) (hq : q ≤ 24) (ha₀ : 0 ≤ a) (ha : a ≤ 3) :
    daysBefore (100 * c + 4 * q + a) = 36524 * c + 1461 * q + 365 * a := by
  have hfours : (100 * c + 4 * q + a) / 4 = 25 * c + q := by omega
  have hcenturies : (100 * c + 4 * q + a) / 100 = c := by omega
  rw [daysBefore, hfours, hcenturies]
  omega

/-- A day of an era is one of the days of its year. -/
theorem exists_day {n : Int} (h₀ : 0 ≤ n) (h₁ : n < 146097) :
    ∃ d, n = daysBefore (yearOfEra n) + d ∧ 0 ≤ yearOfEra n ∧ yearOfEra n < 400 ∧ 0 ≤ d ∧
      d ≤ 365 ∧ (d = 365 → isLeapYear (yearOfEra n + 1) = true) := by
  obtain ⟨c, q, a, d, hn, hc₀, hc, hq₀, hq, ha₀, ha, hd₀, hd⟩ := exists_cycles h₀ h₁
  have hyear : yearOfEra n = 100 * c + 4 * q + a := by
    -- On the last day of the era the division by a century is one too far.
    have hcenturies : n / 36524 - n / 146096 = c := by
      by_cases hlast : n = 146096
      · omega
      · have hc' : n / 36524 = c := by omega
        omega
    have hfours : n / 1460 = 25 * c + q ∨ n / 1460 = 25 * c + q + 1 ∧ 0 < d := by omega
    have hleap : d = 365 → n / 1460 = 25 * c + q + 1 := by omega
    rw [yearOfEra]
    omega
  refine ⟨d, ?_, by omega, by omega, hd₀, by omega, fun hlast => ?_⟩
  · rw [hyear, daysBefore_cycles hq₀ hq ha₀ ha, hn]
  · simp only [hyear, isLeapYear, Bool.and_eq_true, Bool.or_eq_true, beq_iff_eq, bne_iff_ne]
    omega

/-- What the date of a day is made of: the day `d` of the year `y` that begins on the first of
March, and the month `m` of that year. -/
structure IsDay (days y d m : Int) : Prop where
  days_eq : days + 719468 = y / 400 * 146097 + daysBefore (y % 400) + d
  day_nonneg : 0 ≤ d
  day_le : d ≤ 365
  leap : d = 365 → isLeapYear (y + 1) = true
  month_eq : m = (5 * d + 2) / 153
  date_eq : Date.ofDays days = ⟨if m < 10 then y else y + 1,
    (if m < 10 then m + 3 else m - 9).toNat, (d - (153 * m + 2) / 5 + 1).toNat⟩

theorem isLeapYear_add (y era : Int) : isLeapYear (y + era * 400) = isLeapYear y := by
  simp only [isLeapYear]
  rw [show (y + era * 400) % 4 = y % 4 by omega, show (y + era * 400) % 100 = y % 100 by omega,
    show (y + era * 400) % 400 = y % 400 by omega]

theorem exists_isDay (days : Int) : ∃ y d m, IsDay days y d m := by
  obtain ⟨d, hn, hy₀, hy, hd₀, hd, hleap⟩ :=
    exists_day (n := (days + 719468) % 146097) (by omega) (by omega)
  generalize hyear : yearOfEra ((days + 719468) % 146097) = y at hn hy₀ hy hleap
  generalize hera : (days + 719468) / 146097 = era
  have hday : (days + 719468) % 146097 - daysBefore y = d := by omega
  refine ⟨y + era * 400, d, (5 * d + 2) / 153, ?_, hd₀, hd, ?_, rfl, ?_⟩
  · rw [show (y + era * 400) / 400 = era by omega, show (y + era * 400) % 400 = y by omega]
    omega
  · rw [show y + era * 400 + 1 = y + 1 + era * 400 by omega, isLeapYear_add]
    exact hleap
  · simp only [Date.ofDays]
    rw [hera, ← yearOfEra, hyear, ← daysBefore, hday]
    by_cases hm : (5 * d + 2) / 153 < 10
    · have hlate : ¬ (5 * d + 2) / 153 + 3 ≤ 2 := by omega
      simp only [hm, if_true, hlate, if_false]
    · have hearly : (5 * d + 2) / 153 - 9 ≤ 2 := by omega
      simp only [hm, if_false, hearly, if_true]

/-- The date of a day is the date of that day alone. -/
theorem toDays_ofDays (days : Int) : (Date.ofDays days).toDays = days := by
  obtain ⟨y, d, m, h⟩ := exists_isDay days
  obtain ⟨hdays, hd₀, hd, -, hm, hdate⟩ := h
  have hm₁₁ : 0 ≤ m ∧ m ≤ 11 := by omega
  have hday : (((d - (153 * m + 2) / 5 + 1).toNat : Nat) : Int) = d - (153 * m + 2) / 5 + 1 := by
    omega
  rw [hdate, Date.toDays]
  simp only [hday]
  unfold daysBefore at hdays
  by_cases hlate : m < 10
  · have hmonth : ¬ (m + 3).toNat ≤ 2 := by omega
    have hshifted : (((m + 3).toNat : Nat) + 9 : Int) % 12 = m := by omega
    simp only [hlate, if_true, hmonth, if_false, hshifted]
    omega
  · have hmonth : (m - 9).toNat ≤ 2 := by omega
    have hshifted : (((m - 9).toNat : Nat) + 9 : Int) % 12 = m := by omega
    simp only [hlate, if_false, hmonth, if_true, hshifted, Int.add_sub_cancel]
    omega

theorem lt_of_valid {date : Date} (h : date.valid = true) : date.month < 100 ∧ date.day < 100 := by
  simp only [Date.valid, Bool.and_eq_true, decide_eq_true_eq] at h
  obtain ⟨⟨⟨-, hmonth⟩, -⟩, hday⟩ := h
  have hlength : monthLength date.year date.month ≤ 31 := by
    unfold monthLength
    repeat' split
    all_goals decide
  omega

/-- The date of a day is in the calendar. -/
theorem valid_ofDays (days : Int) : (Date.ofDays days).valid = true := by
  obtain ⟨y, d, m, h⟩ := exists_isDay days
  obtain ⟨-, hd₀, hd, hleap, hm, hdate⟩ := h
  rw [hdate, Date.valid]
  have hmonths : m = 0 ∨ m = 1 ∨ m = 2 ∨ m = 3 ∨ m = 4 ∨ m = 5 ∨ m = 6 ∨ m = 7 ∨ m = 8 ∨ m = 9 ∨
      m = 10 ∨ m = 11 := by omega
  simp only [Bool.and_eq_true, decide_eq_true_eq, monthLength]
  rcases hmonths with rfl | rfl | rfl | rfl | rfl | rfl | rfl | rfl | rfl | rfl | rfl | rfl
  case inr.inr.inr.inr.inr.inr.inr.inr.inr.inr.inr =>
    -- February has a 29th day exactly when the year before the first of March has a 366th.
    by_cases hlast : d = 365
    · simp [hleap hlast, hlast]
    · refine ⟨⟨⟨by decide, by decide⟩, by omega⟩, ?_⟩
      have h28 : (d - (153 * 11 + 2) / 5 + 1).toNat ≤ 28 := by omega
      exact Nat.le_trans h28 (by simp; split <;> decide)
  all_goals
    refine ⟨⟨⟨by decide, by decide⟩, by omega⟩, ?_⟩
    simp
    omega

/-- The year of a day of the range of instants. -/
theorem year_ofDays {days : Int} (h₀ : -96465292 ≤ days) (h₁ : days ≤ 95026236) :
    -262143 ≤ (Date.ofDays days).year ∧ (Date.ofDays days).year ≤ 262142 := by
  obtain ⟨y, d, m, h⟩ := exists_isDay days
  obtain ⟨hdays, hd₀, hd, -, hm, hdate⟩ := h
  unfold daysBefore at hdays
  rw [hdate]
  simp only
  -- The first day is in the 256th year of its era, and the last one in the 142nd.
  have hfirst : -656 < y / 400 ∨ y / 400 = -656 ∧ (256 < y % 400 ∨ y % 400 = 256 ∧ 10 ≤ m) := by
    omega
  have hlast : y / 400 < 655 ∨ y / 400 = 655 ∧ (y % 400 < 142 ∨ y % 400 = 142 ∧ m < 10) := by
    omega
  split <;> omega

end OpenIdProvider.Calendar
