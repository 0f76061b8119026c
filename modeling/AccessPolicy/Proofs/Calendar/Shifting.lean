import AccessPolicy.Proofs.Calendar.Rounding
import AccessPolicy.Standard.DatePipes

/-!
# Adding units to instants

Units of fixed length move an instant by their seconds, so amounts add up
(`Instant.shift?_eq_some_iff`). Months and years move what clocks at an offset show
(`LocalTime.IsMonthsLater`): the month is counted, the time of day stays, and the day of the month
stays as far as the month has it (`LocalTime.addMonths?_eq_some_iff`). A day that every month has is
restored by going back, as long as the clocks showed a date of the calendar
(`Instant.walk_add`). Clocks ahead of UTC show the year after the last one at the end of the
calendar, and nothing leads back to that (`Instant.walk_add_back_lost`).
-/

namespace AccessPolicy

/-! ### Months -/

/-- A month has at least 28 days. -/
theorem le_daysOfMonth (year : Int) {month : Nat} (hone : 1 ≤ month) (hle : month ≤ 12) :
    28 ≤ daysOfMonth year month := by
  have hlengths : ∀ length ∈ monthLengths year, 28 ≤ length := by
    unfold monthLengths
    split <;> decide
  obtain ⟨n, rfl⟩ := Nat.exists_eq_add_of_le' hone
  have hn : n < (monthLengths year).length := hle
  rw [daysOfMonth_succ hn]
  exact hlengths _ (List.getElem_mem hn)

namespace LocalTime

variable {t u : LocalTime} {months : Int}

/-- The clocks show a time in the month that is so many months later, at the same time of day. The
last day of the month stands for days that it lacks. -/
structure IsMonthsLater (months : Int) (t u : LocalTime) : Prop where
  /-- The month is so many months later. -/
  month_eq : u.date.year * 12 + u.date.month = t.date.year * 12 + t.date.month + months
  /-- The day is the same, or the last one of the month if it comes earlier. -/
  day_eq : u.date.day = min t.date.day (daysOfMonth u.date.year u.date.month)
  /-- The time of day is the same. -/
  secondOfDay_eq : u.secondOfDay = t.secondOfDay
  /-- The fraction of the second is the same. -/
  nanos_eq : u.nanos = t.nanos

/-- The clocks show a time in the same month at the same time. -/
theorem isMonthsLater_zero (t : LocalTime) : IsMonthsLater 0 t t where
  month_eq := (Int.add_zero _).symm
  day_eq := (Nat.min_eq_left t.exists_date.day_le).symm
  secondOfDay_eq := rfl
  nanos_eq := rfl

/-- There is at most one time that is so many months later. -/
theorem IsMonthsLater.eq {v : LocalTime} (hu : IsMonthsLater months t u)
    (hv : IsMonthsLater months t v) : u = v := by
  have hmonths := hu.month_eq.trans hv.month_eq.symm
  have := u.exists_date.month_le
  have := v.exists_date.month_le
  have := u.exists_date.one_le_month
  have := v.exists_date.one_le_month
  have hyear : u.date.year = v.date.year := by omega
  have hmonth : u.date.month = v.date.month := by omega
  have hday : u.date.day = v.date.day := by
    rw [hu.day_eq, hv.day_eq, hyear, hmonth]
  have hdate : u.date = v.date := by
    rw [Date.mk.injEq]
    exact ⟨hyear, hmonth, hday⟩
  rw [← ofDate_date u, ← ofDate_date v, hdate, hu.secondOfDay_eq, hu.nanos_eq, hv.secondOfDay_eq,
    hv.nanos_eq]

/-- The date so many months after that of the clocks. -/
def dateMonthsLater (t : LocalTime) (months : Int) : Date :=
  let total := t.date.year * 12 + (t.date.month - 1 : Nat) + months
  let year := total / 12
  let month := (total % 12).toNat + 1
  ⟨year, month, min t.date.day (daysOfMonth year month)⟩

theorem exists_dateMonthsLater (t : LocalTime) (months : Int) :
    (t.dateMonthsLater months).Exists := by
  have hone : 1 ≤ (t.dateMonthsLater months).month := Nat.le_add_left 1 _
  have hle : (t.dateMonthsLater months).month ≤ 12 := by
    simp only [dateMonthsLater]
    omega
  refine ⟨hone, hle, Nat.le_min.2 ⟨t.exists_date.one_le_day, ?_⟩, Nat.min_le_right _ _⟩
  exact Nat.le_trans (by decide) (le_daysOfMonth _ hone hle)

/-- The clocks show that date at the same time of day so many months later. -/
theorem isMonthsLater_ofDate (t : LocalTime) (months : Int) :
    IsMonthsLater months t (ofDate (t.dateMonthsLater months) t.secondOfDay t.nanos) := by
  have hdate := date_ofDate (t.exists_dateMonthsLater months) t.secondOfDay_lt t.nanos
  have hone := t.exists_date.one_le_month
  refine ⟨?_, ?_, secondOfDay_ofDate t.secondOfDay_lt t.nanos, rfl⟩
  · rw [hdate]
    simp only [dateMonthsLater]
    omega
  · rw [hdate]
    rfl

/-- Going months forward or back gives the time so many months later, if there are less than
`2 ^ 31` of them and its date lies in the calendar. -/
theorem addMonths?_eq_some_iff :
    t.addMonths? months = some u ↔ IsMonthsLater months t u ∧
      (months = 0 ∨ months.natAbs < 2 ^ 31 ∧ u.date.inCalendar = true) := by
  have hlater := t.isMonthsLater_ofDate months
  have hdate := date_ofDate (t.exists_dateMonthsLater months) t.secondOfDay_lt t.nanos
  have hadd : t.addMonths? months =
      if months = 0 then some t else if 2 ^ 31 ≤ months.natAbs then none
      else (if (t.dateMonthsLater months).inCalendar = true then some (t.dateMonthsLater months)
        else none).map fun date => ofDate date t.secondOfDay t.nanos := rfl
  rw [hadd]
  split_ifs with hzero hmany hwithin
  · -- No months lead nowhere, even where the clocks show no date of the calendar.
    subst hzero
    rw [Option.some.injEq]
    constructor
    · rintro rfl
      exact ⟨t.isMonthsLater_zero, .inl rfl⟩
    · rintro ⟨hu, -⟩
      exact t.isMonthsLater_zero.eq hu
  · refine iff_of_false (by simp) ?_
    rintro ⟨-, h⟩
    omega
  · rw [Option.map_some, Option.some.injEq]
    constructor
    · rintro rfl
      rw [hdate]
      exact ⟨hlater, .inr ⟨not_le.1 hmany, hwithin⟩⟩
    · rintro ⟨hu, -⟩
      exact hlater.eq hu
  · refine iff_of_false (by simp) ?_
    rintro ⟨hu, h⟩
    rw [hu.eq hlater, hdate] at h
    exact h.elim hzero fun h => hwithin h.2

/-- A day that every month has is that of the time so many months earlier. -/
theorem IsMonthsLater.neg (h : IsMonthsLater months t u) (hday : t.date.day ≤ 28) :
    IsMonthsLater (-months) u t := by
  have hmonth := h.month_eq
  have hkept : u.date.day = t.date.day := by
    have := le_daysOfMonth u.date.year u.exists_date.one_le_month u.exists_date.month_le
    rw [h.day_eq]
    omega
  refine ⟨by omega, ?_, h.secondOfDay_eq.symm, h.nanos_eq.symm⟩
  rw [hkept]
  exact (Nat.min_eq_left t.exists_date.day_le).symm

end LocalTime

/-! ### Single steps -/

namespace DateUnit

variable {unit : DateUnit} {length per amount offset : Int} {i j : Instant}

/-- The number of months of a unit that counts months, and of no other. -/
def months? : DateUnit → Option Int
  | .year => some 12
  | .month => some 1
  | _ => none

/-- Adding units of fixed length moves an instant by their seconds. -/
theorem add?_eq_some_iff_of_seconds? (h : unit.seconds? = some length)
    (hi : i.nanos < 1000000000) :
    unit.add? amount offset i = some j ↔
      j.seconds = i.seconds + amount * length ∧ j.nanos = i.nanos := by
  rw [add?, h]
  simp only [Instant.shift?, hi, true_or, if_true]
  exact Instant.ofUnix?_eq_some_iff

/-- Adding units that count months moves what the clocks show. -/
theorem add?_eq_some_iff_of_months? (h : unit.months? = some per) :
    unit.add? amount offset i = some j ↔
      LocalTime.IsMonthsLater (amount * per) (i.atOffset offset) (j.atOffset offset) ∧
      (amount * per = 0 ∨ (amount * per).natAbs < 2 ^ 31 ∧
        (j.atOffset offset).date.inCalendar = true) := by
  have hadd : unit.add? amount offset i =
      ((i.atOffset offset).addMonths? (amount * per)).bind fun t => t.toInstant? offset := by
    cases unit with
    | year =>
      obtain rfl := Option.some.inj h
      rfl
    | month =>
      obtain rfl := Option.some.inj h
      rw [Int.mul_one]
      rfl
    | _ => cases h
  rw [hadd, Option.bind_eq_some_iff, ← LocalTime.addMonths?_eq_some_iff]
  constructor
  · rintro ⟨t, ht, hj⟩
    rwa [LocalTime.toInstant?_eq_some_iff.1 hj]
  · intro h
    exact ⟨_, h, LocalTime.toInstant?_eq_some_iff.2 rfl⟩

end DateUnit

/-! ### Steps -/

namespace Instant

variable {unit : DateUnit} {amount offset millis : Int} {i j k : Instant}

theorem walk_cons (step : DateStep) (steps : List DateStep) :
    walk offset (step :: steps) i = step.apply offset i >>= walk offset steps := by
  rw [walk, List.foldlM_cons]
  rfl

/-- The step of adding fails only where it leaves the calendar. -/
theorem walk_add_singleton (i : Instant) (offset amount : Int) (unit : DateUnit) :
    walk offset [.add amount unit] i =
      match unit.add? amount offset i with
      | some j => .ok j
      | none => .error .leavesCalendar := by
  rw [walk_cons, DateStep.apply]
  cases unit.add? amount offset i with
  | none => rfl
  | some j => rfl

theorem walk_add_eq_ok_iff :
    walk offset [.add amount unit] i = .ok j ↔ unit.add? amount offset i = some j := by
  rw [walk_add_singleton]
  cases unit.add? amount offset i with
  | none => simp
  | some k => simp

/-- Without a result, the step leaves the calendar. -/
theorem walk_add_eq_error (h : ∀ j, walk offset [.add amount unit] i ≠ .ok j) :
    walk offset [.add amount unit] i = .error .leavesCalendar := by
  rw [walk_add_singleton] at *
  cases hadd : unit.add? amount offset i with
  | none => rfl
  | some j => exact absurd (by rw [hadd]) (h j)

/-- Adding twice is adding to what was added to. -/
theorem walk_add_add {other : Int} (h : walk offset [.add amount unit] i = .ok j) :
    walk offset [.add amount unit, .add other unit] i = walk offset [.add other unit] j := by
  rw [walk_cons, DateStep.apply, walk_add_eq_ok_iff.1 h]
  rfl

/-- Adding `amount` and then `other` units of fixed length is adding their sum. -/
theorem walk_add_add_of_seconds? {length other : Int} (hunit : unit.seconds? = some length)
    (hi : i.nanos < 1000000000) (hj : walk offset [.add amount unit] i = .ok j)
    (hk : k.seconds = i.seconds + (amount + other) * length ∧ k.nanos = i.nanos) :
    walk offset [.add amount unit, .add other unit] i = .ok k := by
  obtain ⟨hseconds, hnanos⟩ :=
    (DateUnit.add?_eq_some_iff_of_seconds? hunit hi).1 (walk_add_eq_ok_iff.1 hj)
  rw [walk_add_add hj, walk_add_eq_ok_iff,
    DateUnit.add?_eq_some_iff_of_seconds? hunit (hnanos.trans_lt hi)]
  rw [hseconds, hnanos, hk.1, hk.2, Int.add_mul, Int.add_assoc]
  exact ⟨rfl, rfl⟩

/-- Adding months moves what the clocks show. -/
theorem walk_add_of_months? {per : Int} (hunit : unit.months? = some per) :
    walk offset [.add amount unit] i = .ok j ↔
      LocalTime.IsMonthsLater (amount * per) (i.atOffset offset) (j.atOffset offset) ∧
      (amount * per = 0 ∨ (amount * per).natAbs < 2 ^ 31 ∧
        (j.atOffset offset).date.inCalendar = true) := by
  rw [walk_add_eq_ok_iff, DateUnit.add?_eq_some_iff_of_months? hunit]

/-- Going back as many months leads back from a day that every month has, if the clocks showed a
date of the calendar. -/
theorem walk_add_neg_of_months? {per : Int} (hunit : unit.months? = some per)
    (hj : walk offset [.add amount unit] i = .ok j)
    (hday : (i.atOffset offset).date.day ≤ 28) :
    walk offset [.add amount unit, .add (-amount) unit] i = .ok i ↔
      amount = 0 ∨ (i.atOffset offset).date.inCalendar = true := by
  have hper : per ≠ 0 := by
    rintro rfl
    cases unit <;> cases hunit
  obtain ⟨hlater, hbound⟩ := (walk_add_of_months? hunit).1 hj
  have hback := hlater.neg hday
  rw [walk_add_add hj, walk_add_of_months? hunit, Int.neg_mul, Int.neg_eq_zero, Int.natAbs_neg,
    Int.mul_eq_zero, or_iff_left hper]
  rw [Int.mul_eq_zero, or_iff_left hper] at hbound
  constructor
  · rintro ⟨-, hzero | ⟨-, hdate⟩⟩
    · exact .inl hzero
    · exact .inr hdate
  · rintro (hzero | hdate)
    · exact ⟨hback, .inl hzero⟩
    · exact ⟨hback, hbound.imp_right fun h => ⟨h.1, hdate⟩⟩

end Instant

namespace Standard

/-- The pipe `datePlus` with an amount, a unit and an offset adds them to dates. -/
theorem datePlusPipe_fixed {amountText unitText zoneText : String} {amount offset : Int}
    {unit : DateUnit} (hamount : Amount.ofArgument amountText = .ok (.fixed amount))
    (hunit : readUnit? unitText = some unit) (hzone : Zone.ofArgument zoneText = .fixed offset) :
    ∃ transform, datePlusPipe [amountText, unitText, zoneText] = .ok transform ∧
      ∀ scope v i, v.toInstant? = some i →
        transform.value scope v = optionalInstant (unit.add? amount offset i) := by
  refine ⟨onDate fun scope i => optionalInstant (unit.add? amount offset i), ?_, ?_⟩
  · simp [datePlusPipe, hamount, hunit, hzone, Zone.ofOptional, Zone.offset, Amount.resolve, bind,
      Except.bind, pure, Except.pure]
  · intro scope v i hi
    simp only [onDate, hi]

end Standard

namespace Instant

variable {offset millis : Int} {i : Instant}

/-- What adding an amount of a unit to a number of milliseconds gives on clocks at an offset. For
units of fixed length amounts add up. Years and months give the time so many months later, from
which the opposite amount leads back if every month has the day and the clocks showed a date of the
calendar. There is no result exactly if that time does not lie in the calendar or there are too many
months, and then the pipe `datePlus` gives null. -/
theorem walk_add (hi : ofMillis? millis = some i) (offset : Int) :
    (∀ unit length, DateUnit.seconds? unit = some length →
      (∀ a j, walk offset [.add a unit] i = .ok j ↔
        j.seconds = i.seconds + a * length ∧ j.nanos = i.nanos) ∧
      (∀ a b j k, walk offset [.add a unit] i = .ok j → walk offset [.add (a + b) unit] i = .ok k →
        walk offset [.add a unit, .add b unit] i = .ok k) ∧
      ∀ a j, walk offset [.add a unit] i = .ok j →
        walk offset [.add a unit, .add (-a) unit] i = .ok i) ∧
    (∀ unit per, DateUnit.months? unit = some per → ∀ n,
      (∀ j, walk offset [.add n unit] i = .ok j ↔
        LocalTime.IsMonthsLater (n * per) (i.atOffset offset) (j.atOffset offset) ∧
        (n * per = 0 ∨ (n * per).natAbs < 2 ^ 31 ∧
          (j.atOffset offset).date.inCalendar = true)) ∧
      (2 ^ 32 ≤ (n * per).natAbs → walk offset [.add n unit] i = .error .leavesCalendar) ∧
      ∀ j, walk offset [.add n unit] i = .ok j → (i.atOffset offset).date.day ≤ 28 →
        (walk offset [.add n unit, .add (-n) unit] i = .ok i ↔
          n = 0 ∨ (i.atOffset offset).date.inCalendar = true)) ∧
    ∀ unit n,
      ((∀ j, walk offset [.add n unit] i ≠ .ok j) →
        walk offset [.add n unit] i = .error .leavesCalendar) ∧
      ∀ amountText unitText zoneText, Standard.Amount.ofArgument amountText = .ok (.fixed n) →
        Standard.readUnit? unitText = some unit →
        Standard.Zone.ofArgument zoneText = .fixed offset →
        ∃ transform, Standard.datePlusPipe [amountText, unitText, zoneText] = .ok transform ∧
          ∀ scope v, v.toInstant? = some i → transform.value scope v =
            match walk offset [.add n unit] i with
            | .ok j => .ofInstant j
            | .error _ => .null := by
  have hnanos := nanos_lt_of_ofMillis? hi
  refine ⟨?_, ?_, ?_⟩
  · -- Units of fixed length move the instant itself.
    intro unit length hunit
    have hadd (a : Int) (j : Instant) : walk offset [.add a unit] i = .ok j ↔
        j.seconds = i.seconds + a * length ∧ j.nanos = i.nanos := by
      rw [walk_add_eq_ok_iff, DateUnit.add?_eq_some_iff_of_seconds? hunit hnanos]
    refine ⟨hadd, ?_, ?_⟩
    · intro a b j k hj hk
      exact walk_add_add_of_seconds? hunit hnanos hj ((hadd (a + b) k).1 hk)
    · intro a j hj
      refine walk_add_add_of_seconds? hunit hnanos hj ⟨?_, rfl⟩
      rw [Int.add_right_neg, Int.zero_mul, Int.add_zero]
  · -- Years and months move what the clocks show.
    intro unit per hunit n
    refine ⟨fun j => walk_add_of_months? hunit, ?_, ?_⟩
    · intro hmany
      refine walk_add_eq_error fun j hj => ?_
      obtain ⟨-, hbound⟩ := (walk_add_of_months? hunit).1 hj
      omega
    · intro j hj hday
      exact walk_add_neg_of_months? hunit hj hday
  · intro unit n
    refine ⟨walk_add_eq_error, ?_⟩
    intro amountText unitText zoneText hamount hunit hzone
    obtain ⟨transform, htransform, hvalue⟩ := Standard.datePlusPipe_fixed hamount hunit hzone
    refine ⟨transform, htransform, fun scope v hv => ?_⟩
    rw [hvalue scope v i hv, walk_add_singleton]
    cases unit.add? n offset i with
    | none => rfl
    | some j => rfl

/-- Half past midnight on a leap day, at which clocks an hour behind show the evening before: forty
days later and then sixty earlier, a year later and back, and more months than there can be. -/
theorem walk_add_leapDay :
    let i : Instant := ⟨951784200, 7000000, by decide, by decide⟩
    let j : Instant := ⟨955240200, 7000000, by decide, by decide⟩
    let k : Instant := ⟨950056200, 7000000, by decide, by decide⟩
    let next : Instant := ⟨983406600, 7000000, by decide, by decide⟩
    ofMillis? 951784200007 = some i ∧ walk (-3600) [.add 40 .day] i = .ok j ∧
      walk (-3600) [.add (40 + -60) .day] i = .ok k ∧
      walk (-3600) [.add 40 .day, .add (-60) .day] i = .ok k ∧
      walk (-3600) [.add 40 .day, .add (-40) .day] i = .ok i ∧
      (i.atOffset (-3600)).date = ⟨2000, 2, 28⟩ ∧ walk (-3600) [.add 1 .year] i = .ok next ∧
      LocalTime.IsMonthsLater 12 (i.atOffset (-3600)) (next.atOffset (-3600)) ∧
      walk (-3600) [.add 1 .year, .add (-1) .year] i = .ok i ∧
      walk (-3600) [.add (2 ^ 62) .year] i = .error .leavesCalendar ∧
      ∃ transform, Standard.datePlusPipe ["1", "y", "-01"] = .ok transform ∧
        ∀ scope, transform.value scope (.ofInt 951784200007) = .ofInstant next := by
  intro i j k next
  have hi : ofMillis? 951784200007 = some i := by decide +kernel
  have hj : walk (-3600) [.add 40 .day] i = .ok j := by decide +kernel
  have hk : walk (-3600) [.add (40 + -60) .day] i = .ok k := by decide +kernel
  have hnext : walk (-3600) [.add 1 .year] i = .ok next := by decide +kernel
  have hdate : (i.atOffset (-3600)).date = ⟨2000, 2, 28⟩ := by decide +kernel
  obtain ⟨hfixed, hmonths, hpipe⟩ := walk_add hi (-3600)
  obtain ⟨-, hadd, hback⟩ := hfixed .day _ rfl
  obtain ⟨hiff, -, hrestored⟩ := hmonths .year _ rfl 1
  obtain ⟨-, hmany, -⟩ := hmonths .year _ rfl (2 ^ 62)
  have hday : (i.atOffset (-3600)).date.day ≤ 28 := by
    rw [hdate]
  have hrestored := (hrestored next hnext hday).2 (.inr (by rw [hdate]; decide))
  obtain ⟨transform, htransform, hvalue⟩ := (hpipe .year 1).2 "1" "y" "-01" (by decide +kernel)
    (by decide +kernel) (by decide +kernel)
  refine ⟨hi, hj, hk, hadd _ _ j k hj hk, hback _ j hj, hdate, hnext, ((hiff next).1 hnext).1,
    hrestored, hmany (by decide), transform, htransform, fun scope => ?_⟩
  rw [hvalue scope (.ofInt 951784200007) (by decide +kernel), hnext]

/-- The last millisecond of the calendar, at which clocks an hour ahead show the first day of a
year beyond it: a month earlier they show a date of the calendar, and nothing leads back. -/
theorem walk_add_back_lost :
    let i : Instant := ⟨8210266876799, 999000000, by decide, by decide⟩
    ofMillis? 8210266876799999 = some i ∧ (i.atOffset 3600).date.day ≤ 28 ∧
      (∃ j, walk 3600 [.add (-1) .month] i = .ok j) ∧
      walk 3600 [.add (-1) .month, .add 1 .month] i ≠ .ok i := by
  intro i
  refine ⟨by decide +kernel, by decide +kernel, ?_, by decide +kernel⟩
  exact ⟨⟨8210264198399, 999000000, by decide, by decide⟩, by decide +kernel⟩

end Instant

end AccessPolicy
