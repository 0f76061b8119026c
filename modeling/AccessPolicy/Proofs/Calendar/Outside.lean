import AccessPolicy.Proofs.Calendar.RoundTrip
import AccessPolicy.Proofs.Trace

/-!
# Rounding outside of the calendar

Rounding down reads the date that the clocks show and, for a week, goes back to its Monday. Both
must lie in the calendar (`DateUnit.Roundable`), and a walk fails otherwise exactly where it comes
to a step that rounds such a time (`Instant.walk_startsOutside_iff`). An instant lies in the
calendar on clocks at UTC, but clocks at any other offset leave it at one of its ends, and the
calendar begins on a Thursday. So only roundings in UTC to other units than weeks are safe for all
instants (`Instant.roundings_safe_iff`).
-/

namespace AccessPolicy

/-- The first second of the first Monday of the calendar. -/
def firstMonday : Int := ((⟨firstYear, 1, 5⟩ : Date).dayNumber - epochDay) * 86400

theorem firstMonday_eq : firstMonday = -8334600883200 := by decide +kernel

/-- No other week of the calendar begins earlier. -/
theorem isLeast_firstMonday :
    IsLeast {seconds | calendarStart ≤ seconds ∧ DateUnit.week.IsStart ⟨seconds, 0⟩}
      firstMonday := by
  have hstart (seconds : Int) :
      DateUnit.week.IsStart ⟨seconds, 0⟩ ↔ (seconds + 259200) % 604800 = 0 := by
    rw [DateUnit.isStart_iff_of_seconds? rfl, DateUnit.sinceMonday]
    exact and_iff_left rfl
  rw [firstMonday_eq, calendarStart_eq]
  constructor
  · exact ⟨by decide, (hstart _).2 (by decide)⟩
  · rintro seconds ⟨hcalendar, hmonday⟩
    rw [hstart] at hmonday
    omega

namespace DateUnit

variable {unit : DateUnit} {offset : Int} {t : LocalTime} {i : Instant}

/-- The clocks show a time that can be rounded down to the start of a unit. -/
structure Roundable (unit : DateUnit) (t : LocalTime) : Prop where
  /-- The time lies in the calendar. -/
  inCalendar : calendarStart ≤ t.seconds ∧ t.seconds < calendarEnd
  /-- The Monday of its week does so too, if that is asked for. -/
  monday : unit = .week → firstMonday ≤ t.seconds

theorem mem_nestedUnits_iff : unit ∈ nestedUnits ↔ unit ≠ .week := by
  cases unit <;> decide

/-- The first days of the calendar belong to a week that began before it. -/
theorem inCalendar_start_week_iff (ht : t.inCalendar = true) :
    (DateUnit.week.start t).inCalendar = true ↔ firstMonday ≤ t.seconds := by
  have hlatest := isLatestStart_start .week t
  obtain ⟨⟨hfirst, hmonday⟩, hleast⟩ := isLeast_firstMonday
  rw [LocalTime.inCalendar_iff] at *
  rw [start_of_seconds? rfl] at *
  constructor
  · rintro ⟨hstart, -⟩
    exact (hleast ⟨hstart, hlatest.isStart⟩).trans hlatest.le
  · intro hle
    -- The first Monday is a start that is not after the time, so the latest one comes behind it.
    exact ⟨hfirst.trans (hlatest.max ⟨firstMonday, 0⟩ hmonday hle), hlatest.le.trans_lt ht.2⟩

/-- A time can be rounded exactly if it lies in the calendar together with the start of its
unit. -/
theorem roundable_iff :
    unit.Roundable t ↔ t.inCalendar = true ∧ (unit.start t).inCalendar = true := by
  constructor
  · rintro ⟨hcalendar, hmonday⟩
    have ht := LocalTime.inCalendar_iff.2 hcalendar
    refine ⟨ht, ?_⟩
    by_cases hunit : unit = .week
    · subst hunit
      exact (inCalendar_start_week_iff ht).2 (hmonday rfl)
    · exact Instant.inCalendar_start (mem_nestedUnits_iff.2 hunit) ht
  · rintro ⟨ht, hstart⟩
    refine ⟨LocalTime.inCalendar_iff.1 ht, ?_⟩
    rintro rfl
    exact (inCalendar_start_week_iff ht).1 hstart

/-- Rounding fails outside of the calendar exactly if the time is not to be rounded. -/
theorem floor_startsOutside_iff :
    unit.floor offset i = .error .startsOutside ↔ ¬unit.Roundable (i.atOffset offset) := by
  rw [roundable_iff, floor]
  cases ht : (i.atOffset offset).inCalendar with
  | false => simp
  | true =>
    cases hstart : (unit.start (i.atOffset offset)).inCalendar with
    | false => simp
    | true =>
      -- Whether the start belongs to an instant does not matter any more.
      cases (unit.start (i.atOffset offset)).toInstant? offset <;> simp

end DateUnit

namespace Instant

variable {offset : Int} {steps : List DateStep} {i : Instant}

/-- Of all steps only those that round fail outside of the calendar. -/
theorem apply_startsOutside_iff {step : DateStep} :
    step.apply offset i = .error .startsOutside ↔
      ∃ unit, step = .floor unit ∧ ¬unit.Roundable (i.atOffset offset) := by
  cases step with
  | add amount unit =>
    rw [DateStep.apply]
    split
    next => simp
    next => simp
  | floor unit =>
    rw [DateStep.apply, DateUnit.floor_startsOutside_iff]
    simp

/-- A walk fails at the first step that fails. -/
theorem walk_eq_error_iff {e : StepError} :
    walk offset steps i = .error e ↔
      ∃ front step back j, steps = front ++ step :: back ∧ walk offset front i = .ok j ∧
        step.apply offset j = .error e := by
  -- The steps before the one that fails change the instant that the walk goes on from.
  induction steps generalizing i with
  | nil =>
    constructor
    · intro h
      cases h
    · rintro ⟨front, step, back, j, hsteps, -⟩
      simp at hsteps
  | cons first steps ih =>
    rw [walk_cons, Decision.bind_eq_error_iff]
    constructor
    · rintro (hfirst | ⟨j, hfirst, hrest⟩)
      · exact ⟨[], first, steps, i, rfl, rfl, hfirst⟩
      · obtain ⟨front, step, back, k, rfl, hfront, hstep⟩ := ih.1 hrest
        refine ⟨first :: front, step, back, k, rfl, ?_, hstep⟩
        rw [walk_cons, hfirst]
        exact hfront
    · rintro ⟨front, step, back, k, hsteps, hfront, hstep⟩
      cases front with
      | nil =>
        obtain ⟨rfl, rfl⟩ := List.cons.inj hsteps
        obtain rfl := Except.ok.inj hfront
        exact .inl hstep
      | cons _ front =>
        obtain ⟨rfl, rfl⟩ := List.cons.inj hsteps
        rw [walk_cons] at hfront
        obtain ⟨j, hfirst, hfront⟩ := Decision.bind_eq_ok_iff.1 hfront
        exact .inr ⟨j, hfirst, ih.2 ⟨front, step, back, k, rfl, hfront, hstep⟩⟩

/-- A walk fails outside of the calendar exactly if it comes to a time that is not to be rounded
where it rounds. -/
theorem walk_startsOutside_iff :
    walk offset steps i = .error .startsOutside ↔
      ∃ front unit back j, steps = front ++ .floor unit :: back ∧ walk offset front i = .ok j ∧
        ¬unit.Roundable (j.atOffset offset) := by
  rw [walk_eq_error_iff]
  constructor
  · rintro ⟨front, step, back, j, rfl, hfront, hstep⟩
    obtain ⟨unit, rfl, hunit⟩ := apply_startsOutside_iff.1 hstep
    exact ⟨front, unit, back, j, rfl, hfront, hunit⟩
  · rintro ⟨front, unit, back, j, rfl, hfront, hunit⟩
    exact ⟨front, .floor unit, back, j, rfl, hfront,
      apply_startsOutside_iff.2 ⟨unit, rfl, hunit⟩⟩

/-- In UTC every instant can be rounded to all units but weeks. -/
theorem roundable_atOffset_zero {unit : DateUnit} (hunit : unit ≠ .week) (i : Instant) :
    unit.Roundable (i.atOffset 0) where
  inCalendar := by
    rw [atOffset, Int.add_zero]
    exact i.inCalendar
  monday h := absurd h hunit

/-- To weeks, or on clocks that are not at UTC, an end of the calendar cannot be rounded. -/
theorem exists_not_roundable {unit : DateUnit} (h : offset ≠ 0 ∨ unit = .week) :
    ∃ i : Instant, i.IsMillis ∧ ¬unit.Roundable (i.atOffset offset) := by
  by_cases hahead : 0 < offset
  · -- Clocks that are ahead show a time behind the calendar before it ends.
    let last : Instant := ⟨calendarEnd - 1, 0, by decide +kernel, by decide⟩
    refine ⟨last, ⟨by decide, rfl⟩, fun hround => ?_⟩
    have hend : calendarEnd - 1 + offset < calendarEnd := hround.inCalendar.2
    omega
  · -- What clocks that are behind show, and the Monday, come before the calendar begins.
    let first : Instant := ⟨calendarStart, 0, by decide +kernel, by decide⟩
    refine ⟨first, ⟨by decide, rfl⟩, fun hround => ?_⟩
    have hstart : calendarStart ≤ calendarStart + offset := hround.inCalendar.1
    rcases h with hoffset | hweek
    · omega
    · have hmonday : firstMonday ≤ calendarStart + offset := hround.monday hweek
      rw [calendarStart_eq, firstMonday_eq] at hmonday
      omega

/-- A walk fails outside of the calendar exactly if it rounds a time of which the date, or the
Monday of its week if it rounds to weeks, does not lie in the calendar. For all dates that can be
read, walks that round to some units are safe from this exactly if there are no such units, or
clocks are at UTC and weeks are not among the units. -/
theorem roundings_safe_iff (offset : Int) :
    (∀ steps i, walk offset steps i = .error .startsOutside ↔
      ∃ front unit back j, steps = front ++ .floor unit :: back ∧ walk offset front i = .ok j ∧
        ¬unit.Roundable (j.atOffset offset)) ∧
    ∀ units : List DateUnit,
      (∀ (v : Value) i steps, v.toInstant? = some i →
        (∀ unit, DateStep.floor unit ∈ steps → unit ∈ units) →
          walk offset steps i ≠ .error .startsOutside) ↔
        units = [] ∨ offset = 0 ∧ .week ∉ units := by
  refine ⟨fun steps i => walk_startsOutside_iff, fun units => ⟨fun hsafe => ?_, ?_⟩⟩
  · -- Otherwise one of the units cannot be rounded to at an end of the calendar.
    by_contra hunsafe
    obtain ⟨hsome, hother⟩ := not_or.1 hunsafe
    obtain ⟨unit, hunit, hcause⟩ : ∃ unit ∈ units, offset ≠ 0 ∨ unit = .week := by
      by_cases hweek : .week ∈ units
      · exact ⟨.week, hweek, .inr rfl⟩
      · obtain ⟨unit, hunit⟩ := List.exists_mem_of_ne_nil units hsome
        exact ⟨unit, hunit, .inl fun hoffset => hother ⟨hoffset, hweek⟩⟩
    obtain ⟨i, hmillis, hround⟩ := exists_not_roundable hcause
    have hread : (Value.ofInt i.toMillis).toInstant? = some i := by
      rw [Value.toInstant?_ofInt, hmillis.ofMillis?_toMillis]
    -- The walk with this rounding alone fails at once.
    refine hsafe _ i [.floor unit] hread (by simp [hunit]) ?_
    exact walk_startsOutside_iff.2 ⟨[], unit, [], i, rfl, rfl, hround⟩
  · intro hsafe v i steps _ hunits houtside
    obtain ⟨front, unit, back, j, rfl, -, hround⟩ := walk_startsOutside_iff.1 houtside
    have hunit : unit ∈ units := hunits unit (by simp)
    rcases hsafe with rfl | ⟨rfl, hweek⟩
    · exact List.not_mem_nil hunit
    · refine hround (roundable_atOffset_zero ?_ j)
      rintro rfl
      exact hweek hunit

/-- The first second of the calendar, a Thursday: its week begins before the calendar, and clocks
an hour behind UTC show the day before. An hour ahead, clocks leave the calendar before it ends. -/
theorem not_roundings_safe_ends :
    let first : Instant := ⟨-8334601228800, 0, by decide, by decide⟩
    let last : Instant := ⟨8210266876799, 999000000, by decide, by decide⟩
    (Value.ofInt (-8334601228800000)).toInstant? = some first ∧
      (Value.ofInt 8210266876799999).toInstant? = some last ∧
      walk 0 [.floor .week] first = .error .startsOutside ∧
      walk (-3600) [.floor .day] first = .error .startsOutside ∧
      walk 3600 [.floor .day] last = .error .startsOutside ∧
      walk 0 [.floor .day] first = .ok first := by
  decide +kernel

end Instant

end AccessPolicy
