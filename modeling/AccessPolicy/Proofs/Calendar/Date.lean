import AccessPolicy.Calendar.Date
import Mathlib.Algebra.Order.BigOperators.Group.List
import Mathlib.Algebra.Order.Group.Int
import Mathlib.Algebra.Order.Group.Nat
import Mathlib.Algebra.Order.Ring.Nat
import Mathlib.Tactic.SplitIfs

/-!
# Dates and day numbers

Each day has exactly one date that exists, and dates come in the order of their days
(`Date.ofDayNumber_dayNumber`, `Date.dayNumber_ofDayNumber`, `Date.year_le_of_dayNumber_le`).
-/

namespace AccessPolicy

/-! ### Years -/

theorem daysBeforeYear_succ (year : Int) :
    daysBeforeYear (year + 1) = daysBeforeYear year + daysOfYear year := by
  simp only [daysBeforeYear, daysOfYear, isLeapYear, Bool.and_eq_true, Bool.or_eq_true,
    decide_eq_true_eq]
  split
  · omega
  · omega

theorem daysBeforeYear_le_of_le {year other : Int} (h : year ≤ other) :
    daysBeforeYear year ≤ daysBeforeYear other := by
  unfold daysBeforeYear
  omega

/-- A year is off by one at most where it takes its share of the days of 400 years. -/
theorem daysBeforeYear_bounds {year day : Int} (hle : 146097 * year ≤ 400 * day)
    (hlt : 400 * day < 146097 * (year + 1)) :
    daysBeforeYear (year - 1) ≤ day ∧ day < daysBeforeYear (year + 2) := by
  unfold daysBeforeYear
  constructor
  · omega
  · omega

/-- The year of a day begins before the day and ends after it. -/
theorem daysBeforeYear_yearOfDay (day : Int) :
    daysBeforeYear (yearOfDay day) ≤ day ∧ day < daysBeforeYear (yearOfDay day + 1) := by
  -- Years take 146097 days in 400, which gives the year up to one.
  have hle : 146097 * (400 * day / 146097) ≤ 400 * day := by omega
  have hlt : 400 * day < 146097 * (400 * day / 146097 + 1) := by omega
  obtain ⟨hle, hlt⟩ := daysBeforeYear_bounds hle hlt
  simp only [yearOfDay]
  split_ifs with hbefore hafter
  · exact ⟨hle, by rwa [Int.sub_add_cancel]⟩
  · exact ⟨hafter, by rwa [Int.add_assoc]⟩
  · exact ⟨not_lt.1 hbefore, not_le.1 hafter⟩

/-! ### Months -/

theorem sum_monthLengths (year : Int) : (monthLengths year).sum = daysOfYear year := by
  unfold monthLengths daysOfYear
  split <;> rfl

/-- A month has the length that its year gives it. -/
theorem daysOfMonth_succ {year : Int} {n : Nat} (hn : n < (monthLengths year).length) :
    daysOfMonth year (n + 1) = (monthLengths year)[n] := by
  rw [daysOfMonth, Nat.add_sub_cancel, List.getElem?_eq_getElem hn, Option.getD_some]

theorem daysBeforeMonth_mono (year : Int) {month other : Nat} (h : month ≤ other) :
    daysBeforeMonth year month ≤ daysBeforeMonth year other :=
  (monthLengths year).monotone_sum_take (Nat.sub_le_sub_right h 1)

/-- The days before the month after a month are those before it and its own. -/
theorem daysBeforeMonth_succ (year : Int) {month : Nat} (hone : 1 ≤ month) (hle : month ≤ 12) :
    daysBeforeMonth year (month + 1) = daysBeforeMonth year month + daysOfMonth year month := by
  obtain ⟨n, rfl⟩ := Nat.exists_eq_add_of_le' hone
  have hn : n < (monthLengths year).length := hle
  rw [daysOfMonth_succ hn]
  exact (monthLengths year).sum_take_succ n hn

/-- The months of a year take all of its days. -/
theorem daysBeforeMonth_thirteen (year : Int) : daysBeforeMonth year 13 = daysOfYear year :=
  sum_monthLengths year

/-- The month that a day is found in has that day, and the months before it have the others. -/
theorem exists_monthAndDay (lengths : List Nat) (month rest : Nat) (h : rest < lengths.sum) :
    ∃ n, ∃ hn : n < lengths.length, ∃ day, monthAndDay month rest lengths = (month + n, day) ∧
      1 ≤ day ∧ day ≤ lengths[n] ∧ (lengths.take n).sum + day = rest + 1 := by
  -- The search leaves a month that is too short behind, together with its days.
  induction lengths generalizing month rest with
  | nil => exact absurd h (Nat.not_lt_zero rest)
  | cons length lengths ih =>
    rw [monthAndDay]
    split
    next hrest => exact ⟨0, by simp, rest + 1, rfl, by omega, hrest, by simp⟩
    next hrest =>
      rw [List.sum_cons] at h
      obtain ⟨n, hn, day, hmonth, hday, hle, hsum⟩ := ih (month + 1) (rest - length) (by omega)
      refine ⟨n + 1, Nat.succ_lt_succ hn, day, ?_, hday, hle, ?_⟩
      · rw [hmonth, Nat.add_assoc, Nat.add_comm 1 n]
      · rw [List.take_succ_cons, List.sum_cons]
        omega

/-! ### Dates -/

namespace Date

/-- The year has the month, and the month has the day. -/
structure Exists (date : Date) : Prop where
  /-- Months are counted from 1. -/
  one_le_month : 1 ≤ date.month
  /-- A year has twelve months. -/
  month_le : date.month ≤ 12
  /-- Days are counted from 1. -/
  one_le_day : 1 ≤ date.day
  /-- The month is long enough. -/
  day_le : date.day ≤ daysOfMonth date.year date.month

variable {date other : Date}

/-- The day of the year of a date lies in the year. -/
theorem Exists.daysBeforeMonth_add_day_le (h : date.Exists) :
    daysBeforeMonth date.year date.month + date.day ≤ daysOfYear date.year := by
  calc daysBeforeMonth date.year date.month + date.day
      ≤ daysBeforeMonth date.year date.month + daysOfMonth date.year date.month :=
        Nat.add_le_add_left h.day_le _
    _ = daysBeforeMonth date.year (date.month + 1) :=
        (daysBeforeMonth_succ date.year h.one_le_month h.month_le).symm
    _ ≤ daysBeforeMonth date.year 13 :=
        daysBeforeMonth_mono date.year (Nat.succ_le_succ h.month_le)
    _ = daysOfYear date.year := daysBeforeMonth_thirteen date.year

theorem Exists.daysBeforeYear_le (h : date.Exists) :
    daysBeforeYear date.year ≤ date.dayNumber := by
  have := h.one_le_day
  unfold dayNumber
  omega

theorem Exists.dayNumber_lt (h : date.Exists) :
    date.dayNumber < daysBeforeYear (date.year + 1) := by
  have := h.daysBeforeMonth_add_day_le
  rw [daysBeforeYear_succ]
  unfold dayNumber
  omega

/-- Years come in the order of their days. -/
theorem year_le_of_dayNumber_le (hdate : date.Exists) (hother : other.Exists)
    (hle : date.dayNumber ≤ other.dayNumber) : date.year ≤ other.year := by
  by_contra hlt
  -- Otherwise the one year ends before the other begins.
  have hyears := daysBeforeYear_le_of_le (Int.add_one_le_of_lt (not_le.1 hlt))
  have := hdate.daysBeforeYear_le
  have := hother.dayNumber_lt
  omega

/-- The months of a year come in the order of their days. -/
theorem month_le_of_dayNumber_le (hdate : date.Exists) (hother : other.Exists)
    (hyear : date.year = other.year) (hle : date.dayNumber ≤ other.dayNumber) :
    date.month ≤ other.month := by
  by_contra hlt
  -- Otherwise the one month ends before the other begins.
  have hmonths := daysBeforeMonth_mono date.year (Nat.succ_le_of_lt (not_le.1 hlt))
  rw [Nat.succ_eq_add_one, hyear, daysBeforeMonth_succ other.year hother.one_le_month hother.month_le]
    at hmonths
  have := hdate.one_le_day
  have := hother.day_le
  unfold dayNumber at hle
  rw [hyear] at hle
  omega

/-- The first day of the year of a date. -/
def firstOfYear (date : Date) : Date :=
  { date with month := 1, day := 1 }

/-- The first day of the month of a date. -/
def firstOfMonth (date : Date) : Date :=
  { date with day := 1 }

theorem exists_firstOfYear (date : Date) : date.firstOfYear.Exists where
  one_le_month := Nat.le_refl 1
  month_le := Nat.le_add_left 1 11
  one_le_day := Nat.le_refl 1
  day_le := Nat.le_add_left 1 30

theorem Exists.firstOfMonth (h : date.Exists) : date.firstOfMonth.Exists where
  one_le_month := h.one_le_month
  month_le := h.month_le
  one_le_day := Nat.le_refl 1
  day_le := h.one_le_day.trans h.day_le

theorem dayNumber_firstOfYear (date : Date) :
    date.firstOfYear.dayNumber = daysBeforeYear date.year := by
  change daysBeforeYear date.year + (0 : Nat) + (1 : Nat) - 1 = _
  omega

theorem dayNumber_firstOfMonth (date : Date) :
    date.firstOfMonth.dayNumber =
      daysBeforeYear date.year + daysBeforeMonth date.year date.month := by
  change daysBeforeYear date.year + daysBeforeMonth date.year date.month + (1 : Nat) - 1 = _
  omega

theorem Exists.dayNumber_firstOfYear_le (h : date.Exists) :
    date.firstOfYear.dayNumber ≤ date.dayNumber := by
  rw [dayNumber_firstOfYear]
  exact h.daysBeforeYear_le

theorem Exists.dayNumber_firstOfMonth_le (h : date.Exists) :
    date.firstOfMonth.dayNumber ≤ date.dayNumber := by
  have := h.one_le_day
  rw [dayNumber_firstOfMonth, dayNumber]
  omega

/-- A 1 January that is not after a date is not after that of its year. -/
theorem dayNumber_le_firstOfYear (hdate : date.Exists) (hother : other.Exists)
    (hmonth : date.month = 1) (hday : date.day = 1) (hle : date.dayNumber ≤ other.dayNumber) :
    date.dayNumber ≤ other.firstOfYear.dayNumber := by
  have hfirst : date.dayNumber = daysBeforeYear date.year := by
    rw [← dayNumber_firstOfYear, dayNumber, hmonth, hday]
    rfl
  rw [hfirst, dayNumber_firstOfYear]
  exact daysBeforeYear_le_of_le (year_le_of_dayNumber_le hdate hother hle)

/-- A first of a month that is not after a date is not after that of its month. -/
theorem dayNumber_le_firstOfMonth (hdate : date.Exists) (hother : other.Exists)
    (hday : date.day = 1) (hle : date.dayNumber ≤ other.dayNumber) :
    date.dayNumber ≤ other.firstOfMonth.dayNumber := by
  rcases (year_le_of_dayNumber_le hdate hother hle).lt_or_eq with hlt | heq
  · -- The whole year of the one lies in front of that of the other.
    have hyears := daysBeforeYear_le_of_le (Int.add_one_le_of_lt hlt)
    exact hdate.dayNumber_lt.le.trans (hyears.trans hother.firstOfMonth.daysBeforeYear_le)
  · have hmonths := daysBeforeMonth_mono other.year
      (month_le_of_dayNumber_le hdate hother heq hle)
    rw [dayNumber_firstOfMonth, dayNumber, hday, heq]
    omega

/-- The date of a day exists, and is that of the day. -/
theorem exists_ofDayNumber (day : Int) :
    (ofDayNumber day).Exists ∧ (ofDayNumber day).dayNumber = day := by
  obtain ⟨hle, hlt⟩ := daysBeforeYear_yearOfDay day
  -- The year has the day, so one of its months has it.
  rw [daysBeforeYear_succ, ← sum_monthLengths] at hlt
  obtain ⟨n, hn, dayOfMonth, hmonth, hone, hday, hsum⟩ :=
    exists_monthAndDay (monthLengths (yearOfDay day)) 1
      (day - daysBeforeYear (yearOfDay day)).toNat (by omega)
  have hdate : ofDayNumber day = ⟨yearOfDay day, n + 1, dayOfMonth⟩ := by
    simp only [ofDayNumber, hmonth, Nat.add_comm 1 n]
  rw [hdate]
  refine ⟨⟨Nat.le_add_left 1 n, hn, hone, ?_⟩, ?_⟩
  · exact hday.trans_eq (daysOfMonth_succ hn).symm
  · have hbefore : daysBeforeMonth (yearOfDay day) (n + 1) =
        ((monthLengths (yearOfDay day)).take n).sum := rfl
    simp only [dayNumber, hbefore]
    omega

@[simp]
theorem dayNumber_ofDayNumber (day : Int) : (ofDayNumber day).dayNumber = day :=
  (exists_ofDayNumber day).2

/-- Dates of the same day are the same. -/
theorem Exists.eq_of_dayNumber_eq (hdate : date.Exists) (hother : other.Exists)
    (h : date.dayNumber = other.dayNumber) : date = other := by
  have hyear : date.year = other.year :=
    le_antisymm (year_le_of_dayNumber_le hdate hother h.le)
      (year_le_of_dayNumber_le hother hdate h.ge)
  have hmonth : date.month = other.month :=
    le_antisymm (month_le_of_dayNumber_le hdate hother hyear h.le)
      (month_le_of_dayNumber_le hother hdate hyear.symm h.ge)
  have hday : date.day = other.day := by
    simp only [dayNumber, hyear, hmonth] at h
    omega
  rcases date with ⟨year, month, day⟩
  rcases other with ⟨otherYear, otherMonth, otherDay⟩
  simp_all

theorem ofDayNumber_dayNumber (h : date.Exists) : ofDayNumber date.dayNumber = date :=
  (exists_ofDayNumber date.dayNumber).1.eq_of_dayNumber_eq h (dayNumber_ofDayNumber _)

end Date

end AccessPolicy
