import AccessPolicy.Calendar.Reading
import AccessPolicy.Proofs.Calendar.Rounding
import AccessPolicy.Proofs.Number.Whole
import AccessPolicy.Proofs.Text.Trim

/-!
# Reading the text of an instant

Numbers that are written with a fixed width are read back whatever follows them, a year up to the
dash behind it and the places of a second up to the offset. Giving the fields one after the other
meets nothing that disagrees (`Date.exists_gather`, `LocalTime.exists_gather`,
`Instant.exists_gather`), so a form that fits the text gives the fields of the instant
(`Instant.fields`). Years of four digits are left to the strict form (`Instant.scanStrict_toText`).
It refuses a sign in front (`Instant.scanStrict_toText_of_signed`), the form with an offset right
behind the seconds refuses their places (`Instant.read?_toText_seconds`), and the next one reads the
text (`Instant.read?_toText_fraction`).
-/

namespace AccessPolicy

/-! ### Numbers -/

theorem isDigit_head_padded {width n : Nat} {rest : List Char} {c : Char}
    (h : (padded width n ++ rest).head? = some c) : c.isDigit = true := by
  rw [List.head?_append_of_ne_nil _ (padded_ne_nil width n)] at h
  exact isDigit_of_mem_padded (List.mem_of_head? h)

/-- A year begins with a digit or a sign. -/
theorem not_isBlank_head_yearText {year : Int} {rest : List Char} {c : Char}
    (h : (yearText year ++ rest).head? = some c) : ¬Text.isBlank c := by
  unfold yearText signedPadded at h
  split_ifs at h
  · exact Text.not_isBlank_of_isDigit (isDigit_head_padded h)
  · rw [← Option.some.inj h]
    decide
  · rw [← Option.some.inj h]
    decide

namespace Scan

variable {least most width n : Nat} {digits rest : List Char}

/-- Digits are taken as far as they go, or up to the number of them that may be taken. -/
theorem number_append (hdigits : ∀ c ∈ digits, c.isDigit = true) (hleast : least ≤ digits.length)
    (hmost : digits.length ≤ most) (hbound : digitsValue digits < 2 ^ 63)
    (hstop : digits.length = most ∨ ∀ c, rest.head? = some c → c.isDigit = false) :
    number least most (digits ++ rest) = .ok (digitsValue digits, rest) := by
  have htaken : ((digits ++ rest).take most).takeWhile Char.isDigit = digits := by
    rw [List.take_append, List.take_of_length_le hmost, List.takeWhile_append_of_pos hdigits]
    rcases hstop with hfull | hstop
    · simp [hfull]
    · -- What follows ends the digits, if it is looked at.
      cases rest with
      | nil => simp
      | cons c rest =>
        cases hroom : most - digits.length with
        | zero => simp
        | succ room => simp [hstop c rfl]
  have hleast : ¬digits.length < least := Nat.not_lt.2 hleast
  have hbound : ¬Nat.pow 2 63 ≤ digitsValue digits := Nat.not_le.2 hbound
  simp only [number, htaken, hleast, hbound, if_false, List.drop_left]

/-- A number is read back from the width that it is written in. -/
theorem number_padded (hpos : 0 < width) (hleast : least ≤ width) (hn : n < 10 ^ width)
    (hwidth : width ≤ 18) (rest : List Char) :
    number least width (padded width n ++ rest) = .ok (n, rest) := by
  have hlength := length_padded hpos hn
  have hbound : n < 2 ^ 63 := by
    calc n < 10 ^ width := hn
      _ ≤ 10 ^ 18 := Nat.pow_le_pow_right (by decide) hwidth
      _ < 2 ^ 63 := by decide
  have hread := @number_append least width (padded width n) rest
    (fun c hc => isDigit_of_mem_padded hc) (by omega) (Nat.le_of_eq hlength)
    (by rwa [digitsValue_padded]) (.inl hlength)
  rwa [digitsValue_padded] at hread

/-- A number after a sign is read up to what ends its digits. -/
theorem number_padded_of_stop (hn : n < 2 ^ 63)
    (hstop : ∀ c, rest.head? = some c → c.isDigit = false) :
    number 1 (padded width n ++ rest).length (padded width n ++ rest) = .ok (n, rest) := by
  have hpos : 1 ≤ (padded width n).length := List.length_pos_iff.2 (padded_ne_nil width n)
  have hread := @number_append 1 (padded width n ++ rest).length (padded width n) rest
    (fun c hc => isDigit_of_mem_padded hc) hpos (by simp) (by rwa [digitsValue_padded])
    (.inr hstop)
  rwa [digitsValue_padded] at hread

/-- A text that begins with a digit has no sign. -/
theorem signedNumber_of_isDigit {cs : List Char} (h : ∀ c, cs.head? = some c → c.isDigit = true) :
    signedNumber most cs = number 1 most cs := by
  unfold signedNumber
  split
  · exact absurd (h _ rfl) (by decide)
  · exact absurd (h _ rfl) (by decide)
  · rfl

/-- A year is read back from its text, of four digits or with a sign. -/
theorem signedNumber_yearText {year : Int} (h : year.natAbs < 2 ^ 63) (rest : List Char) :
    signedNumber 4 (yearText year ++ '-' :: rest) = .ok (year, '-' :: rest) := by
  have hstop : ∀ c, ('-' :: rest).head? = some c → c.isDigit = false := by
    intro c hc
    rw [← Option.some.inj hc]
    rfl
  unfold yearText signedPadded
  split_ifs with hfour hneg
  · rw [signedNumber_of_isDigit fun c hc => isDigit_head_padded hc,
      number_padded (by decide) (by decide) (by omega) (by decide), Int.toNat_of_nonneg hfour.1]
  · rw [List.cons_append, signedNumber, number_padded_of_stop h hstop]
    simp only [Except.map]
    congr
    omega
  · rw [List.cons_append, signedNumber, number_padded_of_stop h hstop]
    congr
    omega

/-- The places of a second are read up to what ends their digits. -/
theorem decimals_padded (hpos : 0 < width) (hn : n < 10 ^ width) (hwidth : width ≤ 9)
    (hstop : ∀ c, rest.head? = some c → c.isDigit = false) :
    decimals (padded width n ++ rest) = .ok (n * Nat.pow 10 (9 - width), rest) := by
  have hlength := length_padded hpos hn
  have htaken : (padded width n ++ rest).takeWhile Char.isDigit = padded width n := by
    rw [List.takeWhile_append_of_pos fun c hc => isDigit_of_mem_padded hc]
    cases rest with
    | nil => simp
    | cons c rest => simp [hstop c rfl]
  have hkept : (padded width n).take 9 = padded width n :=
    List.take_of_length_le (hlength.trans_le hwidth)
  have hne : (padded width n).isEmpty = false := by
    rw [List.isEmpty_eq_false_iff]
    exact padded_ne_nil width n
  have hrest : (padded width n ++ rest).drop width = rest := List.drop_left' hlength
  simp only [decimals, htaken, hne, hkept, digitsValue_padded, hlength, hrest, Bool.false_eq_true,
    if_false]

theorem offsetSeconds_zulu (separator : OffsetSeparator) (hoursAlone : Bool) (rest : List Char) :
    offsetSeconds separator true hoursAlone ('Z' :: rest) = .ok (0, rest) :=
  rfl

end Scan

/-! ### Fields -/

namespace DateFields

variable {first last n : Int}

/-- A field that has no value yet takes one in its range. -/
theorem agree_none (h : first ≤ n ∧ n ≤ last) : agree none first last n = .ok (some n) := by
  have hrange : ¬(n < first ∨ last < n) := by omega
  rw [agree, if_neg hrange, if_pos (.inl rfl)]

theorem map_agree_none {g : Option Int → DateFields} (h : first ≤ n ∧ n ≤ last) :
    (agree none first last n).map g = .ok (g (some n)) := by
  rw [agree_none h, Except.map]

/-- An hour gives its half of the day and its place in that. -/
theorem setHour_of_none {f : DateFields} {hour : Int} (h : 0 ≤ hour ∧ hour < 24)
    (hhalf : f.half = none) (hhour : f.hourOfHalf = none) :
    f.setHour hour =
      .ok { f with half := some (hour / 12), hourOfHalf := some (hour % 12) } := by
  have hwithin : ¬(hour < 0 ∨ 23 < hour) := by omega
  rw [setHour, if_neg hwithin, hhalf, hhour, agree_none (by omega), agree_none (by omega)]
  rfl

end DateFields

section Directives

variable {n : Nat} {f g : DateFields} {rest : List Char}

/-- A field of two digits is read back. -/
theorem NumericField.scan_padded {field : NumericField}
    (hfield : field ∈ [NumericField.month, .day, .hour, .minute, .second]) (hn : n < 100)
    (hset : f.set field n = .ok g) (rest : List Char) :
    field.scan f (padded 2 n ++ rest) = .ok (g, rest) := by
  have hstart : Text.trimStart (padded 2 n ++ rest) = padded 2 n ++ rest :=
    Text.trimStart_eq_self_iff.2 fun c hc => Text.not_isBlank_of_isDigit (isDigit_head_padded hc)
  have hnumber := @Scan.number_padded 1 2 n (by decide) (by decide) hn (by decide) rest
  simp only [List.mem_cons, List.not_mem_nil, or_false] at hfield
  rcases hfield with rfl | rfl | rfl | rfl | rfl <;>
    simp only [scan, hstart, hnumber, hset, bind, Except.bind, pure, Except.pure]

/-- A year is read back where a dash follows it. -/
theorem NumericField.scan_yearText {year : Int} (hyear : year.natAbs < 2 ^ 63)
    (hset : f.set .year year = .ok g) (rest : List Char) :
    NumericField.year.scan f (yearText year ++ '-' :: rest) = .ok (g, '-' :: rest) := by
  have hstart : Text.trimStart (yearText year ++ '-' :: rest) = yearText year ++ '-' :: rest :=
    Text.trimStart_eq_self_iff.2 fun c hc => not_isBlank_head_yearText hc
  simp only [scan, hstart, Scan.signedNumber_yearText hyear, hset, bind, Except.bind, pure,
    Except.pure]

theorem Directive.scan_char (c : Char) (f : DateFields) (rest : List Char) :
    Directive.scan f (c :: rest) (.char c) = .ok (f, rest) := by
  simp [Directive.scan, char, scanPlain, Scan.exactly, Text.dropFront?, Except.map]

theorem NamedField.scan_fraction_of_decimals {cs : List Char} {value : Int}
    (hdecimals : Scan.decimals cs = .ok (value, rest)) (hset : f.set .nanosecond value = .ok g) :
    NamedField.fraction.scan f ('.' :: cs) = .ok (g, rest) := by
  simp only [scan, hdecimals, bind, Except.bind, hset, pure, Except.pure]

/-- The places of a second are read back where no digit follows them. -/
theorem NamedField.scan_fraction (hn : n < 1000)
    (hset : f.set .nanosecond (n * 1000000) = .ok g)
    (hstop : ∀ c, rest.head? = some c → c.isDigit = false) :
    NamedField.fraction.scan f ('.' :: (padded 3 n ++ rest)) = .ok (g, rest) := by
  have hpower : Nat.pow 10 (9 - 3) = 1000000 := by decide
  have hdecimals : Scan.decimals (padded 3 n ++ rest) = .ok ((n : Int) * 1000000, rest) := by
    rw [Scan.decimals_padded (by decide) hn (by decide) hstop, hpower, Nat.cast_ofNat]
  exact scan_fraction_of_decimals hdecimals hset

theorem scanAll_cons {cs : List Char} {directive : Directive}
    (h : directive.scan f cs = .ok (g, rest)) (directives : List Directive) :
    scanAll Directive.scan f cs (directive :: directives) =
      scanAll Directive.scan g rest directives := by
  rw [scanAll, h]
  rfl

theorem scanAll_zeros_cons {field : NumericField} {cs : List Char}
    (h : field.scan f cs = .ok (g, rest)) (directives : List Directive) :
    scanAll Directive.scan f cs (.zeros field :: directives) =
      scanAll Directive.scan g rest directives := by
  have hzeros : (Directive.zeros field).scan f cs = .ok (g, rest) := h
  exact scanAll_cons hzeros directives

theorem scanAll_char_cons (c : Char) (f : DateFields) (rest : List Char)
    (directives : List Directive) :
    scanAll Directive.scan f (c :: rest) (.char c :: directives) =
      scanAll Directive.scan f rest directives :=
  scanAll_cons (Directive.scan_char c f rest) directives

end Directives

/-! ### Dates and times -/

/-- No month has more than 31 days. -/
theorem daysOfMonth_le (year : Int) (month : Nat) : daysOfMonth year month ≤ 31 := by
  have hlengths : ∀ length ∈ monthLengths year, length ≤ 31 := by
    unfold monthLengths
    split <;> decide
  rw [daysOfMonth]
  cases hlength : (monthLengths year)[month - 1]? with
  | none => decide
  | some length => exact hlengths _ (List.mem_of_getElem? hlength)

theorem Date.inCalendar_iff {date : Date} :
    date.inCalendar = true ↔ -262143 ≤ date.year ∧ date.year ≤ 262142 ∧ date.Exists := by
  simp only [inCalendar, Bool.and_eq_true, decide_eq_true_eq]
  unfold firstYear lastYear
  constructor
  · rintro ⟨⟨⟨⟨⟨hfirst, hlast⟩, hone⟩, hmonth⟩, honeDay⟩, hday⟩
    exact ⟨hfirst, hlast, hone, hmonth, honeDay, hday⟩
  · rintro ⟨hfirst, hlast, hone, hmonth, honeDay, hday⟩
    exact ⟨⟨⟨⟨⟨hfirst, hlast⟩, hone⟩, hmonth⟩, honeDay⟩, hday⟩

namespace LocalTime

variable {t : LocalTime}

theorem hour_lt (t : LocalTime) : t.hour < 24 := by
  have := t.secondOfDay_lt
  unfold hour
  omega

theorem minute_lt (t : LocalTime) : t.minute < 60 :=
  Nat.mod_lt _ (by decide)

theorem second_lt (t : LocalTime) : t.second < 60 :=
  Nat.mod_lt _ (by decide)

end LocalTime

/-- The fields of a date. -/
def Date.fields (date : Date) : DateFields where
  year := some date.year
  month := some date.month
  day := some date.day

/-- The fields of a date and a time of day to the second, where an inserted second is the
sixtieth. -/
def LocalTime.fields (t : LocalTime) : DateFields :=
  { t.date.fields with
    half := some (t.hour / 12 : Nat)
    hourOfHalf := some (t.hour % 12 : Nat)
    minute := some t.minute
    second := some (t.second + t.nanos / 1000000000 : Nat) }

/-- The fields that the text of an instant gives. -/
def Instant.fields (i : Instant) : DateFields :=
  { (i.atOffset 0).fields with
    nanosecond := some ((i.nanos % 1000000000 / 1000000 : Nat) * 1000000)
    offset := some 0 }

/-- Giving the parts of a date in their order gives its fields. -/
theorem Date.exists_gather {date : Date} (h : date.inCalendar = true) :
    ∃ f g, DateFields.set {} .year date.year = .ok f ∧ f.set .month date.month = .ok g ∧
      g.set .day date.day = .ok date.fields := by
  obtain ⟨hfirst, hlast, hone, hmonth, honeDay, hday⟩ := inCalendar_iff.1 h
  have hday := hday.trans (daysOfMonth_le date.year date.month)
  have hleast : DateFields.least32 = -2147483648 := by decide
  have hgreatest : DateFields.greatest32 = 2147483647 := by decide
  refine ⟨{ year := some date.year }, { year := some date.year, month := some date.month },
    ?_, ?_, ?_⟩
  · exact DateFields.map_agree_none ⟨by omega, by omega⟩
  · exact DateFields.map_agree_none ⟨by omega, by omega⟩
  · exact DateFields.map_agree_none ⟨by omega, by omega⟩

/-- Giving the parts of a time of day in their order, behind its date, gives its fields. -/
theorem LocalTime.exists_gather {t : LocalTime} (h : t.nanos < 2000000000) :
    ∃ f g, t.date.fields.set .hour t.hour = .ok f ∧ f.set .minute t.minute = .ok g ∧
      g.set .second (t.second + t.nanos / 1000000000 : Nat) = .ok t.fields := by
  have hhour := t.hour_lt
  have hminute := t.minute_lt
  have hsecond := t.second_lt
  refine ⟨{ t.date.fields with
      half := some (t.hour / 12 : Nat), hourOfHalf := some (t.hour % 12 : Nat) },
    { t.date.fields with
      half := some (t.hour / 12 : Nat), hourOfHalf := some (t.hour % 12 : Nat)
      minute := some t.minute }, ?_, ?_, ?_⟩
  · exact DateFields.setHour_of_none ⟨by omega, by omega⟩ rfl rfl
  · exact DateFields.map_agree_none ⟨by omega, by omega⟩
  · exact DateFields.map_agree_none ⟨by omega, by omega⟩

/-- Giving the places of a second and the offset behind the date and time gives the fields of an
instant. -/
theorem Instant.exists_gather (i : Instant) :
    ∃ f, (i.atOffset 0).fields.set .nanosecond ((i.nanos % 1000000000 / 1000000 : Nat) * 1000000) =
      .ok f ∧ f.setOffset 0 = .ok i.fields := by
  refine ⟨{ (i.atOffset 0).fields with
    nanosecond := some ((i.nanos % 1000000000 / 1000000 : Nat) * 1000000) }, ?_, ?_⟩
  · exact DateFields.map_agree_none ⟨by omega, by omega⟩
  · exact DateFields.map_agree_none ⟨by decide, by decide⟩

/-! ### Texts -/

theorem Scan.exactly_singleton (c : Char) (rest : List Char) :
    exactly [c] (c :: rest) = .ok ((), rest) := by
  simp [exactly, Text.dropFront?]

theorem LocalTime.toText_append (t : LocalTime) (rest : List Char) :
    t.toText ++ rest =
      yearText t.date.year ++ '-' :: (padded 2 t.date.month ++ '-' :: (padded 2 t.date.day ++
        'T' :: (padded 2 t.hour ++ ':' :: (padded 2 t.minute ++ ':' ::
          (padded 2 (t.second + t.nanos / 1000000000) ++ rest))))) := by
  simp [toText]

theorem Instant.toList_toText (i : Instant) :
    i.toText.toList = (i.atOffset 0).toText ++
      '.' :: (padded 3 (i.nanos % 1000000000 / 1000000) ++ ['Z']) := by
  simp [toText]

/-- What the clocks show takes two digits each, apart from the year. -/
theorem LocalTime.two_digits {t : LocalTime} (hnanos : t.nanos < 2000000000) :
    t.date.month < 100 ∧ t.date.day < 100 ∧ t.hour < 100 ∧ t.minute < 100 ∧
      t.second + t.nanos / 1000000000 < 100 := by
  have hmonth := t.exists_date.month_le
  have hday := t.exists_date.day_le.trans (daysOfMonth_le _ _)
  have hhour := t.hour_lt
  have hminute := t.minute_lt
  have hsecond := t.second_lt
  omega

/-- The date and time are read back by the forms that begin with them. -/
theorem LocalTime.scanAll_toText {t : LocalTime} (ht : t.inCalendar = true)
    (hnanos : t.nanos < 2000000000) (tail : List Directive) (rest : List Char) :
    scanAll Directive.scan {} (t.toText ++ rest) (dateAndTime (.char 'T') tail) =
      scanAll Directive.scan t.fields rest tail := by
  have hdate : t.date.inCalendar = true := by rwa [inCalendar_date]
  obtain ⟨f, g, hyear, hmonth, hday⟩ := Date.exists_gather hdate
  obtain ⟨k, l, hhour, hminute, hsecond⟩ := exists_gather hnanos
  obtain ⟨hmonths, hdays, hhours, hminutes, hseconds⟩ := two_digits hnanos
  have hyears : t.date.year.natAbs < 2 ^ 63 := by
    have := Date.inCalendar_iff.1 hdate
    omega
  -- Each part reads what was written for it and leaves the rest to the next one.
  rw [toText_append]
  change scanAll Directive.scan {} _ (.zeros .year :: .char '-' :: .zeros .month :: .char '-' ::
    .zeros .day :: .char 'T' :: .zeros .hour :: .char ':' :: .zeros .minute :: .char ':' ::
    .zeros .second :: tail) = _
  rw [scanAll_zeros_cons (NumericField.scan_yearText hyears hyear _),
    scanAll_char_cons,
    scanAll_zeros_cons (NumericField.scan_padded (by simp) hmonths hmonth _),
    scanAll_char_cons,
    scanAll_zeros_cons (NumericField.scan_padded (by simp) hdays hday _),
    scanAll_char_cons,
    scanAll_zeros_cons (NumericField.scan_padded (by simp) hhours hhour _),
    scanAll_char_cons,
    scanAll_zeros_cons (NumericField.scan_padded (by simp) hminutes hminute _),
    scanAll_char_cons,
    scanAll_zeros_cons (NumericField.scan_padded (by simp) hseconds hsecond _)]

/-- The strict form reads the whole text back where the year has four digits. -/
theorem Instant.scanStrict_toText {i : Instant} (hi : (i.atOffset 0).inCalendar = true)
    (hfour : 0 ≤ (i.atOffset 0).date.year ∧ (i.atOffset 0).date.year ≤ 9999) :
    scanStrict i.toText.toList = .ok (i.fields, []) := by
  obtain ⟨f, g, hyear, hmonth, hday⟩ :=
    Date.exists_gather ((LocalTime.inCalendar_date _).trans hi)
  have hnanos : (i.atOffset 0).nanos < 2000000000 := i.nanos_lt
  obtain ⟨k, l, hhour, hminute, hsecond⟩ := LocalTime.exists_gather hnanos
  obtain ⟨m, hnanosecond, hoffset⟩ := i.exists_gather
  obtain ⟨hmonths, hdays, hhours, hminutes, hseconds⟩ := LocalTime.two_digits hnanos
  have hnumber (n : Nat) (hn : n < 100) (rest : List Char) :
      Scan.number 2 2 (padded 2 n ++ rest) = .ok ((n : Int), rest) :=
    Scan.number_padded (by decide) (by decide) hn (by decide) rest
  have hyears (rest : List Char) :
      Scan.number 4 4 (yearText (i.atOffset 0).date.year ++ rest) =
        .ok ((i.atOffset 0).date.year, rest) := by
    rw [yearText, if_pos hfour, Scan.number_padded (by decide) (by decide) (by omega) (by decide),
      Int.toNat_of_nonneg hfour.1]
  have hfraction : NamedField.fraction.scan (i.atOffset 0).fields
      ('.' :: (padded 3 (i.nanos % 1000000000 / 1000000) ++ ['Z'])) = .ok (m, ['Z']) :=
    NamedField.scan_fraction (by omega) hnanosecond (by simp)
  rw [toList_toText, LocalTime.toText_append]
  simp only [scanStrict, hyears, hyear, Scan.exactly_singleton, hnumber _ hmonths, hmonth,
    hnumber _ hdays, hday, hnumber _ hhours, hhour, hnumber _ hminutes, hminute,
    hnumber _ hseconds, hsecond, hfraction, Scan.offsetSeconds_zulu, hoffset, bind, Except.bind,
    true_or, if_true, Int.natAbs_zero, Nat.not_lt_zero, if_false, pure, Except.pure]

/-- The strict form does not begin with a sign, as years do that have not four digits. -/
theorem Instant.scanStrict_toText_of_signed {i : Instant}
    (hfour : ¬(0 ≤ (i.atOffset 0).date.year ∧ (i.atOffset 0).date.year ≤ 9999)) :
    scanStrict i.toText.toList = .error .malformed := by
  have hyear : ∃ sign digits, yearText (i.atOffset 0).date.year = sign :: digits ∧
      sign.isDigit = false := by
    rw [yearText, if_neg hfour, signedPadded]
    refine ⟨_, _, rfl, ?_⟩
    split <;> rfl
  obtain ⟨sign, digits, hyear, hsign⟩ := hyear
  have hnumber (rest : List Char) : Scan.number 4 4 (sign :: rest) = .error .malformed := by
    simp [Scan.number, hsign]
  rw [toList_toText, LocalTime.toText_append, hyear, List.cons_append, scanStrict, hnumber]
  rfl

/-- The form with an offset behind the seconds does not read the places of a second. -/
theorem Instant.read?_toText_seconds {i : Instant} (hi : (i.atOffset 0).inCalendar = true) :
    DateFields.read? (dateAndTime (.char 'T') [.named .lenientOffset]) i.toText = none := by
  have hnanos : (i.atOffset 0).nanos < 2000000000 := i.nanos_lt
  rw [DateFields.read?, toList_toText, LocalTime.scanAll_toText hi hnanos]
  rfl

/-- The form with the places of a second reads the whole text back. -/
theorem Instant.read?_toText_fraction {i : Instant} (hi : (i.atOffset 0).inCalendar = true) :
    DateFields.read? (dateAndTime (.char 'T') [.named .fraction, .named .lenientOffset]) i.toText =
      some i.fields := by
  have hnanos : (i.atOffset 0).nanos < 2000000000 := i.nanos_lt
  obtain ⟨f, hnanosecond, hoffset⟩ := i.exists_gather
  have hfraction : Directive.scan (i.atOffset 0).fields
      ('.' :: (padded 3 (i.nanos % 1000000000 / 1000000) ++ ['Z'])) (.named .fraction) =
        .ok (f, ['Z']) :=
    NamedField.scan_fraction (by omega) hnanosecond (by simp)
  have hzone : Directive.scan f ['Z'] (.named .lenientOffset) = .ok (i.fields, []) := by
    change NamedField.lenientOffset.scan f ['Z'] = _
    have hstart : Text.trimStart ['Z'] = ['Z'] := by decide
    simp only [NamedField.scan, hstart, Scan.offsetSeconds_zulu, bind, Except.bind, hoffset, pure,
      Except.pure]
  rw [DateFields.read?, toList_toText, LocalTime.scanAll_toText hi hnanos,
    scanAll_cons hfraction, scanAll_cons hzone]
  rfl

end AccessPolicy
