import AccessPolicy.Calendar.Steps
import AccessPolicy.Proofs.Calendar.Date
import Mathlib.Data.List.Pairwise
import Mathlib.Order.Bounds.Defs

/-!
# Rounding down to the start of a unit

Rounding an instant down gives the latest instant that is not after it and at which clocks at the
offset show the start of a unit (`Instant.isGreatest_walk_floor`). On the clocks alone this is
`DateUnit.isLatestStart_start`: weeks and shorter units begin at multiples of their length, months
and years where the order of dates says (`Date.dayNumber_le_firstOfMonth`). What is the latest
start is determined by the starts that there are, so rounding twice, rounding later instants and
rounding to nested units need no calendar any more.
-/

namespace AccessPolicy

/-! ### Local times -/

namespace LocalTime

variable {t u : LocalTime} {date : Date} {secondOfDay : Nat}

/-- The clocks show the beginning of a day. -/
def IsMidnight (t : LocalTime) : Prop :=
  t.hour = 0 ∧ t.minute = 0 ∧ t.second = 0 ∧ t.nanos = 0

/-- The seconds of a local time are those of its day and those since midnight. -/
theorem seconds_eq (t : LocalTime) :
    t.seconds = (t.dayNumber - epochDay) * 86400 + t.secondOfDay := by
  unfold dayNumber secondOfDay
  omega

theorem isMidnight_iff : t.IsMidnight ↔ t.secondOfDay = 0 ∧ t.nanos = 0 := by
  unfold IsMidnight hour minute second
  constructor
  · rintro ⟨hhour, hminute, hsecond, hnanos⟩
    exact ⟨by omega, hnanos⟩
  · rintro ⟨hzero, hnanos⟩
    exact ⟨by omega, by omega, by omega, hnanos⟩

theorem dayNumber_le_of_seconds_le (h : u.seconds ≤ t.seconds) : u.dayNumber ≤ t.dayNumber := by
  unfold dayNumber
  omega

theorem exists_date (t : LocalTime) : t.date.Exists :=
  (Date.exists_ofDayNumber t.dayNumber).1

@[simp]
theorem dayNumber_date (t : LocalTime) : t.date.dayNumber = t.dayNumber :=
  Date.dayNumber_ofDayNumber t.dayNumber

theorem dayNumber_ofDate (h : secondOfDay < 86400) (nanos : Nat) :
    (ofDate date secondOfDay nanos).dayNumber = date.dayNumber := by
  simp only [dayNumber, ofDate]
  omega

/-- The clocks show the date that a local time is made of. -/
theorem date_ofDate (hdate : date.Exists) (h : secondOfDay < 86400) (nanos : Nat) :
    (ofDate date secondOfDay nanos).date = date := by
  rw [LocalTime.date, dayNumber_ofDate h, Date.ofDayNumber_dayNumber hdate]

theorem secondOfDay_lt (t : LocalTime) : t.secondOfDay < 86400 := by
  unfold secondOfDay
  omega

theorem secondOfDay_ofDate (h : secondOfDay < 86400) (nanos : Nat) :
    (ofDate date secondOfDay nanos).secondOfDay = secondOfDay := by
  simp only [LocalTime.secondOfDay, ofDate]
  omega

/-- A local time is made of what the clocks show. -/
theorem ofDate_date (t : LocalTime) : ofDate t.date t.secondOfDay t.nanos = t := by
  rw [ofDate, dayNumber_date, ← seconds_eq]

/-- A local time lies in the calendar exactly if its date does. -/
theorem inCalendar_date (t : LocalTime) : t.date.inCalendar = t.inCalendar := by
  have hexists := t.exists_date
  have hyear := hexists.daysBeforeYear_le
  have hnext := hexists.dayNumber_lt
  rw [dayNumber_date] at hyear hnext
  -- The years of the calendar are those whose first days lie in it.
  have hfirst : firstYear ≤ t.date.year ↔ calendarStart ≤ t.seconds := by
    constructor
    · intro h
      have := daysBeforeYear_le_of_le h
      unfold dayNumber at hyear
      unfold calendarStart
      omega
    · intro h
      by_contra hlt
      have := daysBeforeYear_le_of_le (Int.add_one_le_of_lt (not_le.1 hlt))
      unfold dayNumber at hnext
      unfold calendarStart at h
      omega
  have hlast : t.date.year ≤ lastYear ↔ t.seconds < calendarEnd := by
    constructor
    · intro h
      have := daysBeforeYear_le_of_le (Int.add_le_add_right h 1)
      unfold dayNumber at hnext
      unfold calendarEnd
      omega
    · intro h
      by_contra hlt
      have := daysBeforeYear_le_of_le (Int.add_one_le_of_lt (not_le.1 hlt))
      unfold dayNumber at hyear
      unfold calendarEnd at h
      omega
  simp only [Date.inCalendar, LocalTime.inCalendar, hfirst, hlast, hexists.one_le_month,
    hexists.month_le, hexists.one_le_day, hexists.day_le, decide_true, Bool.and_true]

/-- A day begins at midnight. -/
theorem isMidnight_ofDate (date : Date) : (ofDate date 0 0).IsMidnight := by
  refine isMidnight_iff.2 ⟨?_, rfl⟩
  simp only [LocalTime.secondOfDay, ofDate]
  omega

/-- Midnight of one day is not after midnight of a later one. -/
theorem IsMidnight.seconds_le_ofDate (hu : u.IsMidnight) (h : u.dayNumber ≤ date.dayNumber) :
    u.seconds ≤ (ofDate date 0 0).seconds := by
  rw [seconds_eq u, (isMidnight_iff.1 hu).1]
  simp only [ofDate]
  omega

/-- Midnight of a day is not after the times of a later one. -/
theorem seconds_ofDate_le (h : date.dayNumber ≤ t.dayNumber) :
    (ofDate date 0 0).seconds ≤ t.seconds := by
  rw [seconds_eq t]
  simp only [ofDate]
  omega

end LocalTime

/-! ### Starts of units -/

namespace DateUnit

variable {unit fine coarse : DateUnit} {t u v : LocalTime}

/-- The clocks show the start of a unit: 1 January, the first of a month, a Monday or any day at
midnight, or a full hour, minute or second. -/
def IsStart (unit : DateUnit) (t : LocalTime) : Prop :=
  match unit with
  | .year => t.date.month = 1 ∧ t.date.day = 1 ∧ t.IsMidnight
  | .month => t.date.day = 1 ∧ t.IsMidnight
  | .week => t.date.weekday = 0 ∧ t.IsMidnight
  | .day => t.IsMidnight
  | .hour => t.minute = 0 ∧ t.second = 0 ∧ t.nanos = 0
  | .minute => t.second = 0 ∧ t.nanos = 0
  | .second => t.nanos = 0

theorem IsStart.nanos_eq (h : unit.IsStart t) : t.nanos = 0 := by
  cases unit with
  | year => exact h.2.2.2.2.2
  | month => exact h.2.2.2.2
  | week => exact h.2.2.2.2
  | day => exact h.2.2.2
  | hour => exact h.2.2
  | minute => exact h.2
  | second => exact h

/-- `u` is the latest start of a unit that is not after `t`. -/
structure IsLatestStart (unit : DateUnit) (t u : LocalTime) : Prop where
  /-- It is a start. -/
  isStart : unit.IsStart u
  /-- It is not after `t`. -/
  le : u.seconds ≤ t.seconds
  /-- No other start comes between. -/
  max : ∀ v, unit.IsStart v → v.seconds ≤ t.seconds → v.seconds ≤ u.seconds

/-- There is only one latest start. -/
theorem IsLatestStart.eq (hu : unit.IsLatestStart t u) (hv : unit.IsLatestStart t v) : u = v := by
  have hseconds : u.seconds = v.seconds :=
    le_antisymm (hv.max u hu.isStart hu.le) (hu.max v hv.isStart hv.le)
  have hnanos : u.nanos = v.nanos := hu.isStart.nanos_eq.trans hv.isStart.nanos_eq.symm
  rcases u with ⟨seconds, nanos⟩
  simp_all

/-- A start is the latest one at its own time. -/
theorem IsStart.isLatestStart (h : unit.IsStart t) : unit.IsLatestStart t t :=
  ⟨h, le_rfl, fun _ _ hle => hle⟩

/-! ### Units of fixed length -/

/-- The seconds of a local time since a Monday at midnight, 29 December 1969. -/
def sinceMonday (t : LocalTime) : Int :=
  t.seconds + 259200

/-- Units of fixed length begin at multiples of their length. -/
theorem isStart_iff_of_seconds? {length : Int} (h : unit.seconds? = some length) :
    unit.IsStart t ↔ sinceMonday t % length = 0 ∧ t.nanos = 0 := by
  cases unit with
  | year => cases h
  | month => cases h
  | week =>
    obtain rfl := Option.some.inj h
    -- Day numbers count on through the weeks, so the date is not needed for the weekday.
    have hweekday : t.date.weekday = 0 ↔ (t.dayNumber + 5) % 7 = 0 := by
      rw [Date.weekday, LocalTime.dayNumber_date, Date.weekdayOfDay]
      omega
    simp only [IsStart, hweekday, LocalTime.isMidnight_iff, LocalTime.dayNumber,
      LocalTime.secondOfDay, sinceMonday, epochDay]
    constructor
    · rintro ⟨hday, hmidnight, hnanos⟩
      exact ⟨by omega, hnanos⟩
    · rintro ⟨hlength, hnanos⟩
      exact ⟨by omega, by omega, hnanos⟩
  | day =>
    obtain rfl := Option.some.inj h
    simp only [IsStart, LocalTime.isMidnight_iff, LocalTime.secondOfDay, sinceMonday]
    omega
  | hour =>
    obtain rfl := Option.some.inj h
    simp only [IsStart, LocalTime.minute, LocalTime.second, LocalTime.secondOfDay, sinceMonday]
    omega
  | minute =>
    obtain rfl := Option.some.inj h
    simp only [IsStart, LocalTime.second, LocalTime.secondOfDay, sinceMonday]
    omega
  | second =>
    obtain rfl := Option.some.inj h
    simp only [IsStart]
    omega

theorem start_of_seconds? {length : Int} (h : unit.seconds? = some length) (t : LocalTime) :
    unit.start t = ⟨t.seconds - sinceMonday t % length, 0⟩ := by
  have hday := LocalTime.dayNumber_date t
  have hseconds := t.seconds_eq
  cases unit with
  | year => cases h
  | month => cases h
  | week =>
    obtain rfl := Option.some.inj h
    simp only [start, LocalTime.ofDate, Date.dayNumber_ofDayNumber, Date.weekday, hday,
      Date.weekdayOfDay, LocalTime.mk.injEq, and_true]
    simp only [LocalTime.dayNumber, sinceMonday, epochDay]
    omega
  | day =>
    obtain rfl := Option.some.inj h
    simp only [start, LocalTime.ofDate, hday, LocalTime.mk.injEq, and_true]
    simp only [LocalTime.dayNumber, sinceMonday]
    omega
  | hour =>
    obtain rfl := Option.some.inj h
    simp only [start, LocalTime.ofDate, hday, LocalTime.mk.injEq, and_true]
    simp only [LocalTime.dayNumber, LocalTime.hour, LocalTime.secondOfDay, sinceMonday]
    omega
  | minute =>
    obtain rfl := Option.some.inj h
    simp only [start, LocalTime.ofDate, hday, LocalTime.mk.injEq, and_true]
    simp only [LocalTime.dayNumber, LocalTime.secondOfDay, sinceMonday]
    omega
  | second =>
    obtain rfl := Option.some.inj h
    simp only [start, LocalTime.ofDate, hday, LocalTime.mk.injEq, and_true]
    omega

theorem seconds?_pos {length : Int} (h : unit.seconds? = some length) : 0 < length := by
  cases unit with
  | year => cases h
  | month => cases h
  | _ =>
    obtain rfl := Option.some.inj h
    decide

/-- Between a time and the last multiple of a length there is no other one. -/
theorem isLatestStart_start_of_seconds? {length : Int} (h : unit.seconds? = some length)
    (t : LocalTime) : unit.IsLatestStart t (unit.start t) := by
  have hpos := seconds?_pos h
  have hsplit := Int.mul_ediv_add_emod (sinceMonday t) length
  have hsince : sinceMonday t = t.seconds + 259200 := rfl
  rw [start_of_seconds? h]
  refine ⟨(isStart_iff_of_seconds? h).2 ⟨?_, rfl⟩, ?_, ?_⟩
  · have hmultiple : sinceMonday ⟨t.seconds - sinceMonday t % length, 0⟩ =
        length * (sinceMonday t / length) := by
      change t.seconds - sinceMonday t % length + 259200 = _
      omega
    rw [hmultiple, Int.mul_emod_right]
  · exact Int.sub_le_self _ (Int.emod_nonneg _ hpos.ne')
  · intro v hv hle
    obtain ⟨hv, -⟩ := (isStart_iff_of_seconds? h).1 hv
    -- Both are multiples of the length, so it is enough to compare how many.
    have hle' : sinceMonday v ≤ sinceMonday t := Int.add_le_add_right hle _
    have hquotient : length * (sinceMonday v / length) ≤ length * (sinceMonday t / length) :=
      Int.mul_le_mul_of_nonneg_left (Int.ediv_le_ediv hpos hle') hpos.le
    have hvsplit := Int.mul_ediv_add_emod (sinceMonday v) length
    have hvsince : sinceMonday v = v.seconds + 259200 := rfl
    change v.seconds ≤ t.seconds - sinceMonday t % length
    omega

/-! ### Months and years -/

theorem isLatestStart_start_month (t : LocalTime) :
    DateUnit.month.IsLatestStart t (DateUnit.month.start t) := by
  have hfirst : DateUnit.month.start t = LocalTime.ofDate t.date.firstOfMonth 0 0 := rfl
  have hexists := t.exists_date
  rw [hfirst]
  refine ⟨⟨?_, LocalTime.isMidnight_ofDate _⟩, ?_, ?_⟩
  · rw [LocalTime.date_ofDate hexists.firstOfMonth (by decide)]
    rfl
  · exact LocalTime.seconds_ofDate_le (hexists.dayNumber_firstOfMonth_le.trans_eq t.dayNumber_date)
  · rintro v ⟨hday, hmidnight⟩ hle
    refine hmidnight.seconds_le_ofDate ?_
    rw [← v.dayNumber_date]
    refine Date.dayNumber_le_firstOfMonth v.exists_date hexists hday ?_
    simpa using LocalTime.dayNumber_le_of_seconds_le hle

theorem isLatestStart_start_year (t : LocalTime) :
    DateUnit.year.IsLatestStart t (DateUnit.year.start t) := by
  have hfirst : DateUnit.year.start t = LocalTime.ofDate t.date.firstOfYear 0 0 := rfl
  have hexists := t.exists_date
  have hdate : (LocalTime.ofDate t.date.firstOfYear 0 0).date = t.date.firstOfYear :=
    LocalTime.date_ofDate t.date.exists_firstOfYear (by decide) 0
  rw [hfirst]
  refine ⟨⟨?_, ?_, LocalTime.isMidnight_ofDate _⟩, ?_, ?_⟩
  · rw [hdate]
    rfl
  · rw [hdate]
    rfl
  · exact LocalTime.seconds_ofDate_le (hexists.dayNumber_firstOfYear_le.trans_eq t.dayNumber_date)
  · rintro v ⟨hmonth, hday, hmidnight⟩ hle
    refine hmidnight.seconds_le_ofDate ?_
    rw [← v.dayNumber_date]
    refine Date.dayNumber_le_firstOfYear v.exists_date hexists hmonth hday ?_
    simpa using LocalTime.dayNumber_le_of_seconds_le hle

/-- What the clocks are set back to is the latest start of the unit. -/
theorem isLatestStart_start (unit : DateUnit) (t : LocalTime) :
    unit.IsLatestStart t (unit.start t) := by
  cases hlength : unit.seconds? with
  | some length => exact isLatestStart_start_of_seconds? hlength t
  | none =>
    cases unit with
    | year => exact isLatestStart_start_year t
    | month => exact isLatestStart_start_month t
    | _ => cases hlength

/-- A start stays where it is. -/
theorem start_of_isStart (h : unit.IsStart t) : unit.start t = t :=
  (isLatestStart_start unit t).eq h.isLatestStart

/-! ### Nested units -/

/-- Units of which each one is made of whole units of those before it. -/
def nestedUnits : List DateUnit :=
  [.second, .minute, .hour, .day, .month, .year]

/-- The start of a unit is the start of the units in it. -/
theorem isStart_of_nested (h : [fine, coarse].Sublist nestedUnits) (ht : coarse.IsStart t) :
    fine.IsStart t := by
  have hpairwise : nestedUnits.Pairwise fun fine coarse => coarse.IsStart t → fine.IsStart t := by
    simp only [nestedUnits, List.pairwise_cons, IsStart, LocalTime.IsMidnight]
    simp +contextual
  exact List.pairwise_iff_forall_sublist.1 hpairwise h ht

theorem isStart_of_isStart_year (h : unit ∈ nestedUnits) (ht : DateUnit.year.IsStart t) :
    unit.IsStart t := by
  simp only [nestedUnits, List.mem_cons, List.not_mem_nil, or_false] at h
  rcases h with rfl | rfl | rfl | rfl | rfl | rfl
  · exact ht.nanos_eq
  · exact ⟨ht.2.2.2.2.1, ht.nanos_eq⟩
  · exact ht.2.2.2
  · exact ht.2.2
  · exact ht.2
  · exact ht

/-- The latest start of a unit is not missed from that of a unit in it. -/
theorem start_start_of_nested (h : [fine, coarse].Sublist nestedUnits) (t : LocalTime) :
    coarse.start (fine.start t) = coarse.start t := by
  have hfine := isLatestStart_start fine t
  have hcoarse := isLatestStart_start coarse t
  have hle := hfine.max _ (isStart_of_nested h hcoarse.isStart) hcoarse.le
  refine (isLatestStart_start coarse (fine.start t)).eq ⟨hcoarse.isStart, hle, fun v hv hvle => ?_⟩
  exact hcoarse.max v hv (hvle.trans hfine.le)

end DateUnit

/-! ### Instants -/

theorem calendarStart_eq : calendarStart = -8334601228800 := by decide +kernel

theorem calendarEnd_eq : calendarEnd = 8210266876800 := by decide +kernel

theorem LocalTime.inCalendar_iff {t : LocalTime} :
    t.inCalendar = true ↔ calendarStart ≤ t.seconds ∧ t.seconds < calendarEnd := by
  simp [inCalendar]

/-- An instant is determined by its seconds and nanoseconds. -/
theorem Instant.ofUnix?_eq_some_iff {seconds : Int} {nanos : Nat} {i : Instant} :
    ofUnix? seconds nanos = some i ↔ i.seconds = seconds ∧ i.nanos = nanos := by
  unfold ofUnix?
  constructor
  · intro h
    split at h
    next =>
      obtain rfl := Option.some.inj h
      exact ⟨rfl, rfl⟩
    next => cases h
  · rintro ⟨rfl, rfl⟩
    exact dif_pos ⟨i.inCalendar, i.nanos_lt⟩

/-- A local time belongs to the instant at which the clocks show it. -/
theorem LocalTime.toInstant?_eq_some_iff {t : LocalTime} {offset : Int} {i : Instant} :
    t.toInstant? offset = some i ↔ i.atOffset offset = t := by
  rw [toInstant?, Instant.ofUnix?_eq_some_iff, Instant.atOffset, mk.injEq, eq_comm,
    Int.sub_eq_iff_eq_add]
  exact and_congr_left fun _ => eq_comm

/-- What the clocks show between two instants in full seconds belongs to an instant. -/
theorem LocalTime.exists_toInstant? {t : LocalTime} {offset : Int} {i j : Instant}
    (hi : (i.atOffset offset).seconds ≤ t.seconds) (hj : t.seconds ≤ (j.atOffset offset).seconds)
    (hnanos : t.nanos = 0) : ∃ k, t.toInstant? offset = some k := by
  have hstart := i.inCalendar.1
  have hend := j.inCalendar.2
  simp only [Instant.atOffset] at hi hj
  exact ⟨_, dif_pos ⟨⟨by omega, by omega⟩, by omega⟩⟩

namespace Instant

variable {unit fine coarse : DateUnit} {offset : Int} {i j r s : Instant}

/-- Instants are compared in time. -/
instance : LE Instant := ⟨fun i j => (i.compare j).isLE⟩

theorem le_iff :
    i ≤ j ↔ i.seconds < j.seconds ∨ i.seconds = j.seconds ∧ i.nanos ≤ j.nanos := by
  change (i.compare j).isLE = true ↔ _
  simp [Instant.compare, Ordering.isLE_then_iff_or, Int.compare_eq_lt, Nat.isLE_compare]

theorem le_trans (hij : i ≤ j) (hjr : j ≤ r) : i ≤ r := by
  rw [le_iff] at *
  omega

/-- A number of milliseconds lies in no inserted second. -/
theorem nanos_lt_of_ofMillis? {millis : Int} (h : ofMillis? millis = some i) :
    i.nanos < 1000000000 := by
  obtain ⟨-, hnanos⟩ := ofUnix?_eq_some_iff.1 h
  omega

/-- What an instant is rounded down to is where the clocks show the start of its unit, which must
lie in the calendar as the local time itself must. -/
theorem floor_eq_ok_iff :
    unit.floor offset i = .ok r ↔ (i.atOffset offset).inCalendar ∧
      (unit.start (i.atOffset offset)).inCalendar ∧
      r.atOffset offset = unit.start (i.atOffset offset) := by
  rw [← LocalTime.toInstant?_eq_some_iff]
  simp only [DateUnit.floor]
  split
  next houtside =>
    constructor
    · intro h
      cases h
    · rintro ⟨ht, hstart, -⟩
      simp [ht, hstart] at houtside
  next hwithin =>
    simp only [Bool.or_eq_true, Bool.not_eq_true', not_or, Bool.not_eq_false] at hwithin
    cases (unit.start (i.atOffset offset)).toInstant? offset with
    | none => simp
    | some k => simp [hwithin]

/-- Rounding down gives the latest instant at the start of a unit that is not after the given
one. -/
theorem isGreatest_of_floor (h : unit.floor offset i = .ok r) :
    IsGreatest {j | j ≤ i ∧ unit.IsStart (j.atOffset offset)} r := by
  obtain ⟨-, -, hr⟩ := floor_eq_ok_iff.1 h
  have hlatest := DateUnit.isLatestStart_start unit (i.atOffset offset)
  rw [← hr] at hlatest
  -- A start is a full second, so the order of the clocks in seconds is that of the instants.
  refine ⟨⟨?_, hlatest.isStart⟩, ?_⟩
  · have hle : r.seconds + offset ≤ i.seconds + offset := hlatest.le
    have hnanos : r.nanos = 0 := hlatest.isStart.nanos_eq
    rw [le_iff]
    omega
  · rintro j ⟨hji, hstart⟩
    have hnanos : j.nanos = 0 := hstart.nanos_eq
    rw [le_iff] at hji
    have hle : j.seconds + offset ≤ r.seconds + offset :=
      hlatest.max _ hstart (Int.add_le_add_right (by omega) offset)
    rw [le_iff]
    omega

/-- What was rounded down stays where it is. -/
theorem floor_of_floor (h : unit.floor offset i = .ok r) : unit.floor offset r = .ok r := by
  obtain ⟨-, hstart, hr⟩ := floor_eq_ok_iff.1 h
  have hfixed : unit.start (r.atOffset offset) = r.atOffset offset := by
    rw [hr]
    exact DateUnit.start_of_isStart (DateUnit.isLatestStart_start unit _).isStart
  rw [floor_eq_ok_iff, hfixed, hr]
  exact ⟨hstart, hstart, rfl⟩

/-- Later instants are not rounded down to earlier ones. -/
theorem floor_mono (hij : i ≤ j) (hi : unit.floor offset i = .ok r)
    (hj : unit.floor offset j = .ok s) : r ≤ s := by
  obtain ⟨hri, hr⟩ := (isGreatest_of_floor hi).1
  exact (isGreatest_of_floor hj).2 ⟨le_trans hri hij, hr⟩

/-! ### Nested units -/

/-- The calendar begins with a year, so a unit that is nested in years and began before the
calendar would have ended before it too. -/
theorem inCalendar_start (hunit : unit ∈ DateUnit.nestedUnits) {t : LocalTime}
    (ht : t.inCalendar = true) : (unit.start t).inCalendar = true := by
  have hyear : DateUnit.year.IsStart ⟨calendarStart, 0⟩ := by
    have hfixed : DateUnit.year.start ⟨calendarStart, 0⟩ = ⟨calendarStart, 0⟩ := by decide +kernel
    rw [← hfixed]
    exact (DateUnit.isLatestStart_start _ _).isStart
  have hlatest := DateUnit.isLatestStart_start unit t
  rw [LocalTime.inCalendar_iff] at *
  exact ⟨hlatest.max _ (DateUnit.isStart_of_isStart_year hunit hyear) ht.1,
    hlatest.le.trans_lt ht.2⟩

/-- Within the calendar, rounding to a nested unit can only fail by leaving it. -/
theorem floor_of_nested (hunit : unit ∈ DateUnit.nestedUnits)
    (hi : (i.atOffset offset).inCalendar = true) :
    unit.floor offset i =
      match (unit.start (i.atOffset offset)).toInstant? offset with
      | some r => .ok r
      | none => .error .leavesCalendar := by
  have hstart := inCalendar_start hunit hi
  simp only [DateUnit.floor, hi, hstart]
  rfl

/-- Rounding to a unit and then to one that it is nested in is rounding to the latter, with the
same error where there is no result. -/
theorem floor_bind_floor (h : [fine, coarse].Sublist DateUnit.nestedUnits) :
    fine.floor offset i >>= coarse.floor offset = coarse.floor offset i := by
  have hfine : fine ∈ DateUnit.nestedUnits := h.subset List.mem_cons_self
  have hcoarse : coarse ∈ DateUnit.nestedUnits := h.subset (by simp)
  cases hi : (i.atOffset offset).inCalendar with
  | false => simp [DateUnit.floor, hi, bind, Except.bind]
  | true =>
    have hstart := DateUnit.start_start_of_nested h (i.atOffset offset)
    have hlatest := DateUnit.isLatestStart_start fine (i.atOffset offset)
    rw [floor_of_nested hfine hi, floor_of_nested hcoarse hi]
    cases hr : (fine.start (i.atOffset offset)).toInstant? offset with
    | some r =>
      have hr := LocalTime.toInstant?_eq_some_iff.1 hr
      have hwithin : (r.atOffset offset).inCalendar = true := by
        rw [hr]
        exact inCalendar_start hfine hi
      change coarse.floor offset r = _
      rw [floor_of_nested hcoarse hwithin, hr, hstart]
    | none =>
      cases hs : (coarse.start (i.atOffset offset)).toInstant? offset with
      | none => rfl
      | some s =>
        -- The start of the smaller unit lies between two instants.
        have hs := LocalTime.toInstant?_eq_some_iff.1 hs
        have hbetween : (s.atOffset offset).seconds ≤ (fine.start (i.atOffset offset)).seconds := by
          rw [hs, ← hstart]
          exact (DateUnit.isLatestStart_start coarse _).le
        obtain ⟨k, hk⟩ := LocalTime.exists_toInstant? hbetween hlatest.le hlatest.isStart.nanos_eq
        cases hr.symm.trans hk

/-! ### Steps -/

/-- The single step of rounding down at an offset gives the latest instant that is not after the
given one and at which clocks at the offset show a start of the unit. It changes no instant that it
gives, keeps the order of instants, and rounding down to the larger of two nested units behind the
smaller one is rounding down to the larger one alone. -/
theorem isGreatest_walk_floor (offset : Int) :
    (∀ unit i r, walk offset [.floor unit] i = .ok r →
      IsGreatest {j | j ≤ i ∧ unit.IsStart (j.atOffset offset)} r) ∧
    (∀ unit i r, walk offset [.floor unit] i = .ok r → walk offset [.floor unit] r = .ok r) ∧
    (∀ unit i j r s, i ≤ j → walk offset [.floor unit] i = .ok r →
      walk offset [.floor unit] j = .ok s → r ≤ s) ∧
    ∀ fine coarse i, [fine, coarse].Sublist DateUnit.nestedUnits →
      walk offset [.floor fine, .floor coarse] i = walk offset [.floor coarse] i := by
  have hwalk (unit : DateUnit) (i : Instant) :
      walk offset [.floor unit] i = unit.floor offset i := by
    rw [walk, List.foldlM_cons, DateStep.apply]
    simp
  refine ⟨?_, ?_, ?_, ?_⟩
  · intro unit i r h
    rw [hwalk] at h
    exact isGreatest_of_floor h
  · intro unit i r h
    rw [hwalk] at *
    exact floor_of_floor h
  · intro unit i j r s hij hi hj
    rw [hwalk] at *
    exact floor_mono hij hi hj
  · intro fine coarse i h
    rw [hwalk, ← floor_bind_floor h]
    simp [walk, DateStep.apply]

/-- A millisecond before 1970 clocks seven and a half hours behind show the afternoon of a
Wednesday in another year, and five days later that of a Monday. -/
theorem isGreatest_walk_floor_week :
    let i : Instant := ⟨-1, 999000000, by decide, by decide⟩
    let j : Instant := ⟨432000, 0, by decide, by decide⟩
    let monday : Instant := ⟨-232200, 0, by decide, by decide⟩
    let next : Instant := ⟨372600, 0, by decide, by decide⟩
    ofMillis? (-1) = some i ∧ ofMillis? 432000000 = some j ∧ i ≤ j ∧
      walk (-27000) [.floor .week] i = .ok monday ∧ walk (-27000) [.floor .week] j = .ok next ∧
      [DateUnit.hour, .year].Sublist DateUnit.nestedUnits ∧
      IsGreatest {j | j ≤ i ∧ DateUnit.week.IsStart (j.atOffset (-27000))} monday ∧
      walk (-27000) [.floor .week] monday = .ok monday ∧ monday ≤ next ∧
      walk (-27000) [.floor .hour, .floor .year] i = walk (-27000) [.floor .year] i := by
  intro i j monday next
  have hij : i ≤ j := le_iff.2 (.inl (by decide))
  have hi : walk (-27000) [.floor .week] i = .ok monday := by decide +kernel
  have hj : walk (-27000) [.floor .week] j = .ok next := by decide +kernel
  have hunits : [DateUnit.hour, .year].Sublist DateUnit.nestedUnits := by decide
  obtain ⟨hgreatest, hagain, hmono, hnested⟩ := isGreatest_walk_floor (-27000)
  exact ⟨rfl, rfl, hij, hi, hj, hunits, hgreatest _ i _ hi, hagain _ i _ hi,
    hmono _ i j _ _ hij hi hj, hnested _ _ i hunits⟩

end Instant

end AccessPolicy
