import Mathlib.Tactic.IntervalCases
import Mathlib.Tactic.Lemma
import MeshAgent.DateTime.Calendar

/-!
# Dates of days

The day with any number has a date: its month is one of twelve, and its day is one of that month. A
cycle of four centuries is cut into centuries, these into groups of four years, and these into years,
each of which has its spare day at the end.
-/
namespace MeshAgent.Calendar

/-- A day of a cycle, counted from the beginning of its century. -/
lemma exists_century {n : Int} (h₀ : 0 ≤ n) (h₁ : n ≤ 146096) :
    ∃ c m : Int, n = 36524 * c + m ∧ n / 36524 - n / 146096 = c ∧ 0 ≤ c ∧ c ≤ 3 ∧
      0 ≤ m ∧ m ≤ 36524 ∧ (m = 36524 → c = 3) := by
  by_cases hlast : n = 146096
  · exact ⟨3, 36524, by omega, by omega, by omega, by omega, by omega, by omega, fun _ => rfl⟩
  · exact ⟨n / 36524, n % 36524, by omega, by omega, by omega, by omega, by omega, by omega,
      by omega⟩

/-- A day of a century, counted from the beginning of its year. -/
lemma exists_year {c m : Int} (hc₀ : 0 ≤ c) (hc₁ : c ≤ 3) (hm₀ : 0 ≤ m) (hm₁ : m ≤ 36524) :
    ∃ q a r : Int, m = 1461 * q + 365 * a + r ∧ 0 ≤ q ∧ q ≤ 24 ∧ 0 ≤ a ∧ a ≤ 3 ∧ 0 ≤ r ∧
      r ≤ 365 ∧ (r = 365 → a = 3) ∧
      (36524 * c + m - (36524 * c + m) / 1460 + c) / 365 = 100 * c + 4 * q + a := by
  obtain ⟨q, x, hm, hq₀, hq₁, hx₀, hx₁⟩ :
      ∃ q x : Int, m = 1461 * q + x ∧ 0 ≤ q ∧ q ≤ 24 ∧ 0 ≤ x ∧ x ≤ 1460 :=
    ⟨m / 1461, m % 1461, by omega, by omega, by omega, by omega, by omega⟩
  -- Dividing by 1460 counts the groups of four years, and one too many near the end of a group.
  obtain ⟨e, he, hcarry⟩ : ∃ e : Int, (36524 * c + m) / 1460 = 25 * c + q + e ∧
      (e = 0 ∧ x ≤ 1459 ∨ e = 1 ∧ 1364 ≤ x) := by
    by_cases hlong : 1460 ≤ 24 * c + q + x
    · exact ⟨1, by omega, Or.inr ⟨rfl, by omega⟩⟩
    · exact ⟨0, by omega, Or.inl ⟨rfl, by omega⟩⟩
  have hyear : (36524 * c + m - (36524 * c + m) / 1460 + c) / 365 =
      100 * c + 4 * q + (x - e) / 365 := by
    rw [he, hm]
    omega
  refine ⟨q, (x - e) / 365, x - 365 * ((x - e) / 365), ?_, hq₀, hq₁, ?_, ?_, ?_, ?_, ?_, hyear⟩
  all_goals
    clear hyear he
    omega

/-- The year of a day of a cycle, and the number of the day in that year, which ends with February.
Only a year before a leap year has a day with the number 365. -/
lemma exists_yearDay {n : Int} (h₀ : 0 ≤ n) (h₁ : n ≤ 146096) :
    ∃ y r : Int, (n - n / 1460 + n / 36524 - n / 146096) / 365 = y ∧ 0 ≤ y ∧ y ≤ 399 ∧
      n - (365 * y + y / 4 - y / 100) = r ∧ 0 ≤ r ∧ r ≤ 365 ∧
      (r = 365 → (y + 1) % 4 = 0 ∧ ((y + 1) % 100 ≠ 0 ∨ y = 399)) := by
  obtain ⟨c, m, hn, hc, hc₀, hc₁, hm₀, hm₁, hlast⟩ := exists_century h₀ h₁
  obtain ⟨q, a, r, hm, hq₀, hq₁, ha₀, ha₁, hr₀, hr₁, hlong, hyear⟩ := exists_year hc₀ hc₁ hm₀ hm₁
  rw [← hn] at hyear
  have hy : (n - n / 1460 + n / 36524 - n / 146096) / 365 = 100 * c + 4 * q + a := by
    rw [← hyear, ← hc]
    congr 1
    omega
  have hfour : (100 * c + 4 * q + a) / 4 = 25 * c + q := by omega
  have hhundred : (100 * c + 4 * q + a) / 100 = c := by omega
  refine ⟨100 * c + 4 * q + a, r, hy, by omega, by omega, ?_, hr₀, hr₁, ?_⟩
  · rw [hfour, hhundred]
    omega
  · intro hr
    have ha := hlong hr
    clear hy hyear hfour hhundred hc hn
    by_cases hq : q = 24
    · have hthree := hlast (by omega)
      omega
    · omega

/-- The month of a day of a year that begins with March. -/
lemma month_spec {r y m month : Int} (hr₀ : 0 ≤ r) (hr₁ : r ≤ 365)
    (hleap : r = 365 → isLeap (y + 1) = true) (hm : (5 * r + 2) / 153 = m)
    (hmonth : (if m < 10 then m + 3 else m - 9) = month) :
    1 ≤ month.toNat ∧ month.toNat ≤ 12 ∧ 1 ≤ (r - (153 * m + 2) / 5 + 1).toNat ∧
      (r - (153 * m + 2) / 5 + 1).toNat ≤
        daysInMonth (if month ≤ 2 then y + 1 else y) month.toNat := by
  have hm₀ : 0 ≤ m := by omega
  have hm₁ : m ≤ 11 := by omega
  by_cases hlong : r = 365
  · have hyear := hleap hlong
    subst hlong
    subst hm
    subst hmonth
    simp [daysInMonth, hyear]
  · clear hleap
    interval_cases m
    all_goals
      simp at hmonth
      subst hmonth
      simp [daysInMonth]
      -- Only the length of February depends on the year.
      try split
      all_goals omega

/-- The cycle of a day, its year in the cycle and its number in the year. -/
lemma exists_dateOf (n : Int) :
    ∃ era y r month : Int, n + 719468 = 146097 * era + (365 * y + y / 4 - y / 100) + r ∧
      0 ≤ y ∧ y ≤ 399 ∧ 0 ≤ r ∧ r ≤ 365 ∧ (r = 365 → isLeap (y + era * 400 + 1) = true) ∧
      (if (5 * r + 2) / 153 < 10 then (5 * r + 2) / 153 + 3 else (5 * r + 2) / 153 - 9) = month ∧
      dateOf n = ⟨if month ≤ 2 then y + era * 400 + 1 else y + era * 400, month.toNat,
        (r - (153 * ((5 * r + 2) / 153) + 2) / 5 + 1).toNat⟩ := by
  have hera : (n + 719468).fdiv 146097 = (n + 719468) / 146097 :=
    Int.fdiv_eq_ediv_of_nonneg _ (by omega)
  obtain ⟨y, r, hyear, hy₀, hy₁, hday, hr₀, hr₁, hlong⟩ :=
    @exists_yearDay (n + 719468 - (n + 719468) / 146097 * 146097) (by omega) (by omega)
  refine ⟨(n + 719468) / 146097, y, r, _, ?_, hy₀, hy₁, hr₀, hr₁, fun hr => ?_, rfl, ?_⟩
  · omega
  · obtain ⟨hfour, hhundred⟩ := hlong hr
    simp only [isLeap, Bool.and_eq_true, Bool.or_eq_true, decide_eq_true_eq]
    clear hyear hday hera
    omega
  · simp only [dateOf, hera, hyear, hday]

/-- Every day has a date. -/
theorem dateOf_spec (n : Int) :
    1 ≤ (dateOf n).month ∧ (dateOf n).month ≤ 12 ∧ 1 ≤ (dateOf n).day ∧
      (dateOf n).day ≤ daysInMonth (dateOf n).year (dateOf n).month := by
  obtain ⟨era, y, r, month, -, -, -, hr₀, hr₁, hleap, hmonth, hdate⟩ := exists_dateOf n
  rw [hdate]
  exact month_spec hr₀ hr₁ hleap rfl hmonth

/-- No day from the first one of the year 0 to the last one of 9999 lies outside these years. -/
theorem year_dateOf {n : Int} (h₀ : -719528 ≤ n) (h₁ : n ≤ 2932896) :
    0 ≤ (dateOf n).year ∧ (dateOf n).year ≤ 9999 := by
  obtain ⟨era, y, r, month, hn, hy₀, hy₁, hr₀, hr₁, -, hmonth, hdate⟩ := exists_dateOf n
  rw [hdate]
  have hera₀ : -1 ≤ era := by omega
  have hera₁ : era ≤ 24 := by omega
  -- Of the cycle before the year 0 only January and February of its last year are left.
  have hfirst : era = -1 → y = 399 ∧ 306 ≤ r := by
    rintro rfl
    have hy : y = 399 := by omega
    subst hy
    omega
  by_cases hearly : month ≤ 2
  · simp only [if_pos hearly]
    omega
  · simp only [if_neg hearly]
    omega

end MeshAgent.Calendar
