import AccessPolicy.Proofs.Calendar.Fields
import AccessPolicy.Proofs.Calendar.Scanner
import AccessPolicy.Proofs.Calendar.Shifting
import AccessPolicy.Proofs.Number.Binary64

/-!
# Dates survive being written and read

The text of an instant is read back up to the millisecond (`Instant.read?_toText`), as long as a
second is inserted at the end of a minute only, which is so for all instants that are read. Numbers
of milliseconds denote the instants without a smaller part and outside of inserted seconds
(`Instant.ofMillis?_eq_some_iff`), and they are doubles without rounding, so these instants come
back from their numbers as from their texts. Date arithmetic stays among them
(`Instant.fractionStep_of_apply`, `Instant.walk_induction`).
-/

namespace AccessPolicy

namespace Instant

variable {i : Instant}

/-- The instant without what is less than a millisecond. -/
def cut (i : Instant) : Instant :=
  { i with
    nanos := i.nanos / 1000000 * 1000000
    nanos_lt := (Nat.div_mul_le_self _ _).trans_lt i.nanos_lt }

theorem inCalendar_atOffset_zero (i : Instant) : (i.atOffset 0).inCalendar = true := by
  rw [LocalTime.inCalendar_iff, atOffset, Int.add_zero]
  exact i.inCalendar

/-- The fields of an instant determine its date. -/
theorem date_fields (i : Instant) : i.fields.date = .ok (i.atOffset 0).date := by
  have hdate : (i.atOffset 0).date.inCalendar = true := by
    rw [LocalTime.inCalendar_date, inCalendar_atOffset_zero]
  have hparts : Date.ofParts? (i.atOffset 0).date.year ((i.atOffset 0).date.month : Int).toNat
      ((i.atOffset 0).date.day : Int).toNat = some (i.atOffset 0).date := by
    rw [Int.toNat_natCast, Int.toNat_natCast, Date.ofParts?, if_pos hdate]
  -- Nothing is given that could disagree with the date.
  have hweek (date : Date) : i.fields.admitsWeek date = true := by
    change (true && (if 0 ≤ date.isoYear then true else true) && true && true) = true
    rw [ite_self]
    rfl
  have hordinal (date : Date) : i.fields.admitsOrdinal date = true := rfl
  have hcandidate : i.fields.candidate (some (i.atOffset 0).date.year) none =
      .ok (true, (i.atOffset 0).date) := by
    change (DateFields.inRange (Date.ofParts? _ _ _) >>= fun date =>
      .ok (i.fields.admitsWeek date && i.fields.admitsOrdinal date, date)) = _
    rw [hparts]
    simp only [DateFields.inRange, bind, Except.bind, hweek, hordinal, Bool.and_self]
  change (i.fields.candidate (some (i.atOffset 0).date.year) none >>= fun found =>
    if found.1 && true then .ok found.2 else .error .impossible) = _
  rw [hcandidate]
  rfl

/-- The fields of an instant determine its time of day. -/
theorem time_fields (hi : i.IsClear) :
    i.fields.time = .ok ((i.atOffset 0).secondOfDay, i.cut.nanos) := by
  have hnanos := i.nanos_lt
  have hsecond : (i.atOffset 0).second = (i.seconds % 60).toNat := by
    simp only [LocalTime.second, LocalTime.secondOfDay, atOffset]
    omega
  have hday : (i.atOffset 0).secondOfDay = (i.atOffset 0).hour * 3600 +
      (i.atOffset 0).minute * 60 + (i.atOffset 0).second := by
    simp only [LocalTime.hour, LocalTime.minute, LocalTime.second]
    omega
  have hlt := (i.atOffset 0).second_lt
  -- The second is the sixtieth exactly where it is inserted.
  have hsixty : (((i.atOffset 0).second + (i.atOffset 0).nanos / 1000000000 : Nat) : Int) = 60 ↔
      1000000000 ≤ i.nanos := by
    have hsame : (i.atOffset 0).nanos = i.nanos := rfl
    unfold IsClear at hi
    omega
  simp only [DateFields.time, fields, LocalTime.fields, Date.fields, Option.getD_some, hsixty, hday,
    cut, Except.ok.injEq, Prod.mk.injEq]
  by_cases hinserted : 1000000000 ≤ i.nanos
  · have hlast := hi hinserted
    rw [if_pos hinserted, if_pos hinserted]
    omega
  · have hsame : (i.atOffset 0).nanos = i.nanos := rfl
    rw [if_neg hinserted, if_neg hinserted]
    omega

/-- The fields that an instant gives determine it up to the millisecond. -/
theorem instant?_fields (hi : i.IsClear) : i.fields.instant? = some i.cut := by
  have hshown : LocalTime.ofDate (i.atOffset 0).date (i.atOffset 0).secondOfDay i.cut.nanos =
      i.cut.atOffset 0 := LocalTime.ofDate_date (i.cut.atOffset 0)
  have hlocal : i.fields.localTime 0 = .ok (i.cut.atOffset 0) := by
    simp only [DateFields.localTime, date_fields, time_fields hi, hshown]
    rfl
  have hoffset : i.fields.offset = some 0 := rfl
  simp only [DateFields.instant?, hoffset, Option.getD_some, hlocal]
  exact LocalTime.toInstant?_eq_some_iff.2 rfl

/-- The text of an instant ends with the letter of its offset. -/
theorem getLast?_toText (i : Instant) : i.toText.toList.getLast? = some 'Z' := by
  rw [toList_toText, ← List.cons_append, ← List.append_assoc, List.getLast?_concat]

theorem trimmed_toText (i : Instant) : Text.trimmed i.toText = i.toText := by
  have htrim : Text.trim i.toText.toList = i.toText.toList := by
    rw [Text.trim_eq_self_iff]
    constructor
    · intro c hc
      rw [toList_toText, LocalTime.toText_append] at hc
      exact not_isBlank_head_yearText hc
    · intro c hc
      rw [getLast?_toText] at hc
      rw [← Option.some.inj hc]
      decide
  rw [Text.trimmed, htrim, String.ofList_toList]

/-- The text of an instant is read back up to the millisecond: by the strict form where the year
has four digits, and by the second of the forms with an offset where it has a sign. -/
theorem read?_toText (hi : i.IsClear) : read? i.toText = some i.cut := by
  have hwithin := i.inCalendar_atOffset_zero
  have hne : i.toText.isEmpty = false := by
    rw [Bool.eq_false_iff]
    intro hempty
    have hlast := i.getLast?_toText
    rw [String.isEmpty_iff.1 hempty] at hlast
    cases hlast
  by_cases hfour : 0 ≤ (i.atOffset 0).date.year ∧ (i.atOffset 0).date.year ≤ 9999
  · -- Nothing comes before the strict form.
    have hstrict : readStrict? i.toText = some i.cut := by
      rw [readStrict?, scanStrict_toText hwithin hfour]
      exact instant?_fields hi
    simp [read?, hne, hstrict]
  · -- The strict form and the first form with an offset have to refuse the text.
    have hstrict : readStrict? i.toText = none := by
      rw [readStrict?, scanStrict_toText_of_signed hfour]
    have hoffset : (offsetForms.findSome? fun form =>
        (DateFields.read? form i.toText).bind DateFields.instant?) = some i.cut := by
      simp only [offsetForms, List.findSome?_cons, read?_toText_seconds hwithin,
        read?_toText_fraction hwithin, Option.bind_none, Option.bind_some, instant?_fields hi]
    simp [read?, hne, hstrict, hoffset]

/-! ### Milliseconds -/

/-- The instant is a whole number of milliseconds, in no inserted second. -/
structure IsMillis (i : Instant) : Prop where
  /-- It is in no inserted second. -/
  nanos_lt : i.nanos < 1000000000
  /-- There is nothing on top of the milliseconds. -/
  nanos_mod : i.nanos % 1000000 = 0

variable {millis : Int}

theorem IsMillis.isClear (hi : i.IsMillis) : i.IsClear :=
  isClear_of_nanos_lt hi.nanos_lt

theorem IsMillis.cut_eq (hi : i.IsMillis) : i.cut = i := by
  have hnanos : i.nanos / 1000000 * 1000000 = i.nanos :=
    Nat.div_mul_cancel (Nat.dvd_of_mod_eq_zero hi.nanos_mod)
  cases i
  simp_all [cut]

theorem isMillis_cut (hi : i.nanos < 1000000000) : i.cut.IsMillis where
  nanos_lt := (Nat.div_mul_le_self _ _).trans_lt hi
  nanos_mod := Nat.mul_mod_left _ _

@[simp]
theorem toMillis_cut (i : Instant) : i.cut.toMillis = i.toMillis := by
  simp only [toMillis, cut]
  omega

/-- What is less than a millisecond is not written. -/
@[simp]
theorem toText_cut (i : Instant) : i.cut.toText = i.toText := by
  have hplaces : i.cut.nanos % 1000000000 / 1000000 = i.nanos % 1000000000 / 1000000 := by
    simp only [cut]
    omega
  have hinserted : (i.cut.atOffset 0).nanos / 1000000000 = (i.atOffset 0).nanos / 1000000000 := by
    simp only [cut, atOffset]
    omega
  have hclocks : (i.cut.atOffset 0).toText = (i.atOffset 0).toText := by
    rw [LocalTime.toText, hinserted]
    rfl
  rw [toText, hclocks, hplaces, toText]

/-- The instants that numbers of milliseconds denote are those that are whole numbers of
milliseconds. -/
theorem ofMillis?_eq_some_iff : ofMillis? millis = some i ↔ i.IsMillis ∧ i.toMillis = millis := by
  rw [ofMillis?, ofUnix?_eq_some_iff, toMillis]
  constructor
  · -- The remainder is less than a thousand, also before 1970.
    rintro ⟨hseconds, hnanos⟩
    exact ⟨⟨by omega, by omega⟩, by omega⟩
  · rintro ⟨⟨hlt, hmod⟩, hmillis⟩
    omega

theorem IsMillis.ofMillis?_toMillis (hi : i.IsMillis) : ofMillis? i.toMillis = some i :=
  ofMillis?_eq_some_iff.2 ⟨hi, rfl⟩

/-- Seconds and nanoseconds are the digits of a number of milliseconds. -/
theorem toMillis_lt_iff (hi : i.IsMillis) {j : Instant} (hj : j.IsMillis) :
    i.toMillis < j.toMillis ↔
      i.seconds < j.seconds ∨ i.seconds = j.seconds ∧ i.nanos < j.nanos := by
  obtain ⟨hlt, hmod⟩ := hi
  obtain ⟨hlt', hmod'⟩ := hj
  unfold toMillis
  omega

/-- The numbers of milliseconds of the calendar denote instants. -/
theorem exists_ofMillis? (hstart : calendarStart * 1000 ≤ millis)
    (hend : millis < calendarEnd * 1000) : ∃ i, ofMillis? millis = some i :=
  ⟨_, dif_pos ⟨⟨by omega, by omega⟩, by omega⟩⟩

/-- The seconds of an instant lie in the calendar, so its milliseconds take less than 53 bits. -/
theorem natAbs_toMillis_lt (i : Instant) : i.toMillis.natAbs < 2 ^ 53 := by
  have hcalendar := i.inCalendar
  have hnanos := i.nanos_lt
  rw [calendarStart_eq, calendarEnd_eq] at hcalendar
  unfold toMillis
  omega

end Instant

namespace Value

variable {i : Instant} {millis : Int}

/-- What is written of an instant is read back up to the millisecond. -/
theorem toInstant?_ofInstant (hi : i.IsClear) : (ofInstant i).toInstant? = some i.cut := by
  rw [ofInstant, toInstant?, Instant.trimmed_toText, Instant.read?_toText hi]

/-- A number of milliseconds is a double without rounding. -/
theorem toInstant?_number {n : Number} (hn : n.toBinary64 = Binary64.ofInt i.toMillis) :
    (number n).toInstant? = Instant.ofMillis? i.toMillis := by
  rw [toInstant?, hn, Binary64.toInt64_ofInt i.natAbs_toMillis_lt]

theorem toInstant?_ofInt (i : Instant) :
    (ofInt i.toMillis).toInstant? = Instant.ofMillis? i.toMillis :=
  toInstant?_number rfl

theorem toInstant?_ofInstant_of_isMillis (hi : i.IsMillis) : (ofInstant i).toInstant? = some i := by
  rw [toInstant?_ofInstant hi.isClear, hi.cut_eq]

end Value

/-! ### Date arithmetic -/

namespace Instant

variable {i j : Instant} {offset : Int}

/-- What date arithmetic makes of the part of an instant that is less than a second. -/
inductive FractionStep (i j : Instant) : Prop where
  /-- Rounding drops it. -/
  | dropped (h : j.nanos = 0)
  /-- Leaving an inserted second takes that second off. -/
  | left (h : j.nanos + 1000000000 = i.nanos)
  /-- It is kept, and an inserted second keeps its place in the minute. -/
  | kept (h : j.nanos = i.nanos)
    (hseconds : 1000000000 ≤ i.nanos → j.seconds % 60 = i.seconds % 60)

theorem FractionStep.isClear (h : FractionStep i j) (hi : i.IsClear) : j.IsClear := by
  have := i.nanos_lt
  unfold IsClear at *
  cases h <;> omega

theorem FractionStep.isMillis (h : FractionStep i j) (hi : i.IsMillis) : j.IsMillis := by
  obtain ⟨hlt, hmod⟩ := hi
  constructor <;> cases h <;> omega

theorem fractionStep_of_shift? {seconds : Int} (h : i.shift? seconds = some j) :
    FractionStep i j := by
  unfold shift? at h
  split at h
  next hkept =>
    obtain ⟨hseconds, hnanos⟩ := ofUnix?_eq_some_iff.1 h
    exact .kept hnanos fun _ => by omega
  next hinserted =>
    have hleft : j.nanos = i.nanos - 1000000000 := by
      split at h
      · exact (ofUnix?_eq_some_iff.1 h).2
      · exact (ofUnix?_eq_some_iff.1 h).2
    exact .left (by omega)

theorem fractionStep_of_add? {unit : DateUnit} {amount : Int}
    (h : unit.add? amount offset i = some j) : FractionStep i j := by
  cases hseconds : unit.seconds? with
  | some seconds =>
    rw [DateUnit.add?, hseconds] at h
    exact fractionStep_of_shift? h
  | none =>
    have hmonths : ∃ per, unit.months? = some per := by
      cases unit with
      | year => exact ⟨_, rfl⟩
      | month => exact ⟨_, rfl⟩
      | _ => cases hseconds
    obtain ⟨per, hper⟩ := hmonths
    obtain ⟨hlater, -⟩ := (DateUnit.add?_eq_some_iff_of_months? hper).1 h
    have hday := hlater.secondOfDay_eq
    simp only [LocalTime.secondOfDay, atOffset] at hday
    exact .kept hlater.nanos_eq fun _ => by omega

/-- A step of date arithmetic keeps the part that is less than a second, or drops it. -/
theorem fractionStep_of_apply {step : DateStep} (h : step.apply offset i = .ok j) :
    FractionStep i j := by
  cases step with
  | add amount unit =>
    rw [DateStep.apply] at h
    cases hadd : unit.add? amount offset i with
    | none =>
      rw [hadd] at h
      cases h
    | some k =>
      rw [hadd] at h
      exact Except.ok.inj h ▸ fractionStep_of_add? hadd
  | floor unit =>
    obtain ⟨-, -, hstart⟩ := floor_eq_ok_iff.1 h
    have hnanos := (DateUnit.isLatestStart_start unit (i.atOffset offset)).isStart.nanos_eq
    rw [← hstart] at hnanos
    exact .dropped hnanos

/-- What single steps keep is kept by all steps of a date arithmetic. -/
theorem walk_induction {P : Instant → Prop} (hP : ∀ i j, FractionStep i j → P i → P j)
    {steps : List DateStep} (h : walk offset steps i = .ok j) (hi : P i) : P j := by
  induction steps generalizing i with
  | nil =>
    obtain rfl := Except.ok.inj h
    exact hi
  | cons step steps ih =>
    rw [walk_cons] at h
    cases hstep : step.apply offset i with
    | error e =>
      rw [hstep] at h
      cases h
    | ok k =>
      rw [hstep] at h
      exact ih h (hP i k (fractionStep_of_apply hstep) hi)

end Instant

end AccessPolicy
