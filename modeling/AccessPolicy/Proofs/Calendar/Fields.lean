import AccessPolicy.Calendar.Reading
import AccessPolicy.Proofs.Calendar.Rounding

/-!
# Inserted seconds come at the end of a minute

Whatever is read of a text keeps the fields of a date in their ranges (`DateFields.WellFormed`), and
offsets are whole minutes. So a second is inserted only behind the last one of a minute, on the
clocks and in UTC.
-/

namespace AccessPolicy

/-- Whatever a reading gives satisfies `P`. -/
def Gives {α : Type} (P : α → Prop) (x : Except FieldError α) : Prop :=
  ∀ a, x = .ok a → P a

namespace Gives

variable {α β : Type} {P : α → Prop} {Q : β → Prop}

theorem error (e : FieldError) : Gives P (.error e) := by
  intro a h
  cases h

theorem ok {a : α} (h : P a) : Gives P (.ok a) := by
  intro b hb
  exact Except.ok.inj hb ▸ h

theorem bind {x : Except FieldError α} {f : α → Except FieldError β} (hx : Gives P x)
    (hf : ∀ a, P a → Gives Q (f a)) : Gives Q (x >>= f) := by
  cases x with
  | error e => exact error e
  | ok a => exact hf a (hx a rfl)

theorem map {x : Except FieldError α} {f : α → β} (hx : Gives P x) (hf : ∀ a, P a → Q (f a)) :
    Gives Q (x.map f) := by
  cases x with
  | error e => exact error e
  | ok a => exact ok (hf a (hx a rfl))

theorem ite {c : Prop} [Decidable c] {x y : Except FieldError α} (hx : c → Gives P x)
    (hy : ¬c → Gives P y) : Gives P (if c then x else y) := by
  split
  next hc => exact hx hc
  next hc => exact hy hc

theorem trivially (x : Except FieldError α) : Gives (fun _ => True) x :=
  fun _ _ => trivial

end Gives

namespace DateFields

/-- The fields of a time of day and the offset lie in their ranges. -/
structure WellFormed (f : DateFields) : Prop where
  /-- The halves of a day are counted from zero. -/
  half : ∀ n ∈ f.half, 0 ≤ n
  /-- The hours of half a day are counted from zero. -/
  hourOfHalf : ∀ n ∈ f.hourOfHalf, 0 ≤ n
  /-- Minutes are counted from zero. -/
  minute : ∀ n ∈ f.minute, 0 ≤ n
  /-- There are less than a thousand million nanoseconds. -/
  nanosecond : ∀ n ∈ f.nanosecond, n ≤ 999999999
  /-- An offset is whole minutes. -/
  offset : ∀ n ∈ f.offset, 60 ∣ n

theorem wellFormed_empty : WellFormed {} := by
  constructor <;> simp

variable {f : DateFields}

/-- A field that is given a value has that value, which lies in its range. -/
theorem gives_agree (old : Option Int) (first last new : Int) :
    Gives (fun field => ∀ n ∈ field, n = new ∧ first ≤ n ∧ n ≤ last)
      (agree old first last new) := by
  unfold agree
  split_ifs with hrange
  · exact .error _
  · refine .ok fun n hn => ?_
    rw [← Option.some.inj hn]
    omega
  · exact .error _

theorem WellFormed.setHour (hf : f.WellFormed) (hour : Int) :
    Gives WellFormed (f.setHour hour) := by
  unfold DateFields.setHour
  refine .ite (fun _ => .error _) fun _ => ?_
  refine (gives_agree _ _ _ _).bind fun half hhalf => ?_
  refine (gives_agree _ _ _ _).bind fun hourOfHalf hhour => ?_
  exact .ok { hf with
    half := fun n hn => (hhalf n hn).2.1
    hourOfHalf := fun n hn => (hhour n hn).2.1 }

/-- Numbers are given to the fields in their ranges. -/
theorem WellFormed.set (hf : f.WellFormed) (field : NumericField) (n : Int) :
    Gives WellFormed (f.set field n) := by
  cases field with
  | hour => exact hf.setHour n
  | hour12 =>
    refine .ite (fun _ => .error _) fun _ => ?_
    exact (gives_agree _ _ _ _).map fun _ h => { hf with hourOfHalf := fun n hn => (h n hn).2.1 }
  | minute =>
    exact (gives_agree _ _ _ _).map fun _ h => { hf with minute := fun n hn => (h n hn).2.1 }
  | nanosecond =>
    exact (gives_agree _ _ _ _).map fun _ h => { hf with nanosecond := fun n hn => (h n hn).2.2 }
  | daysFromSunday =>
    refine .ite (fun _ => .error _) fun _ => ?_
    exact (Gives.trivially _).map fun _ _ => { hf with }
  | _ => exact (Gives.trivially _).map fun _ _ => { hf with }

theorem WellFormed.setHalf (hf : f.WellFormed) (afternoon : Bool) :
    Gives WellFormed (f.setHalf afternoon) :=
  (gives_agree _ _ _ _).map fun _ h => { hf with half := fun n hn => (h n hn).2.1 }

theorem WellFormed.setWeekday (hf : f.WellFormed) (weekday : Nat) :
    Gives WellFormed (f.setWeekday weekday) :=
  (Gives.trivially _).map fun _ _ => { hf with }

theorem WellFormed.setOffset (hf : f.WellFormed) {offset : Int} (h : 60 ∣ offset) :
    Gives WellFormed (f.setOffset offset) :=
  (gives_agree _ _ _ _).map fun _ hfield =>
    { hf with offset := fun n hn => (hfield n hn).1 ▸ h }

end DateFields

/-! ### Reading -/

/-- The fields that a reading gives are well formed. -/
abbrev GivesFields (x : Except FieldError (DateFields × List Char)) : Prop :=
  Gives (fun read => read.1.WellFormed) x

/-- An offset is read as whole minutes. -/
theorem Scan.gives_offsetSeconds (separator : OffsetSeparator) (zulu hoursAlone : Bool)
    (cs : List Char) :
    Gives (fun read => 60 ∣ read.1) (offsetSeconds separator zulu hoursAlone cs) := by
  unfold offsetSeconds
  split
  next => exact .error _
  next c rest =>
    refine .ite (fun _ => .ok (Int.dvd_zero 60)) fun _ => ?_
    refine .ite (fun _ => ?_) fun _ => .error _
    refine (Gives.trivially _).bind fun hours _ => ?_
    refine (Gives.trivially _).bind fun behind _ => ?_
    refine .ite (fun _ => .ok (dvd_mul_of_dvd_right (by decide) _)) fun _ => ?_
    refine (Gives.trivially _).bind fun minutes _ => ?_
    exact .ite (fun _ => .error _) fun _ => .ok (dvd_mul_of_dvd_right (by omega) _)

section Scanners

variable {f : DateFields}

theorem NumericField.gives_scan (hf : f.WellFormed) (field : NumericField) (cs : List Char) :
    GivesFields (field.scan f cs) := by
  -- The fields differ only in how their numbers are read.
  cases field <;>
    exact (Gives.trivially _).bind fun number _ => (hf.set _ number.1).bind fun g hg => .ok hg

theorem gives_scanHalf (hf : f.WellFormed) (cs : List Char) : GivesFields (scanHalf f cs) := by
  unfold scanHalf
  split
  · exact (hf.setHalf false).map fun g hg => hg
  · exact (hf.setHalf true).map fun g hg => hg
  · exact .error _

theorem NamedField.gives_scan (hf : f.WellFormed) (field : NamedField) (cs : List Char) :
    GivesFields (field.scan f cs) := by
  cases field with
  | shortMonth =>
    exact (Gives.trivially _).bind fun name _ => (hf.set _ _).bind fun g hg => .ok hg
  | longMonth =>
    exact (Gives.trivially _).bind fun name _ => (hf.set _ _).bind fun g hg => .ok hg
  | shortWeekday =>
    exact (Gives.trivially _).bind fun name _ => (hf.setWeekday _).bind fun g hg => .ok hg
  | longWeekday =>
    exact (Gives.trivially _).bind fun name _ => (hf.setWeekday _).bind fun g hg => .ok hg
  | lowerHalf => exact gives_scanHalf hf cs
  | upperHalf => exact gives_scanHalf hf cs
  | fraction =>
    simp only [scan]
    split
    · exact (Gives.trivially _).bind fun number _ => (hf.set _ _).bind fun g hg => .ok hg
    · exact .ok hf
  | places count =>
    simp only [scan]
    split
    · exact (Gives.trivially _).bind fun number _ => (hf.set _ _).bind fun g hg => .ok hg
    · exact .ok hf
  | barePlaces count =>
    exact (Gives.trivially _).bind fun number _ => (hf.set _ _).bind fun g hg => .ok hg
  | zoneName => exact .ok hf
  | offset form =>
    exact (Scan.gives_offsetSeconds _ _ _ _).bind fun seconds h =>
      (hf.setOffset h).bind fun g hg => .ok hg
  | lenientOffset =>
    exact (Scan.gives_offsetSeconds _ _ _ _).bind fun seconds h =>
      (hf.setOffset h).bind fun g hg => .ok hg
  | dateTime => exact .error _

theorem Directive.gives_scanPlain (hf : f.WellFormed) (directive : Directive) (cs : List Char) :
    GivesFields (directive.scanPlain f cs) := by
  cases directive with
  | literal text => exact (Gives.trivially _).map fun _ _ => hf
  | space text => exact .ok hf
  | numeric field padding => exact field.gives_scan hf cs
  | named field => exact field.gives_scan hf cs

/-- Parts that are read one after the other keep the fields well formed if each of them does. -/
theorem gives_scanAll
    {scan : DateFields → List Char → Directive → Except FieldError (DateFields × List Char)}
    (hscan : ∀ f cs directive, f.WellFormed → GivesFields (scan f cs directive)) (hf : f.WellFormed)
    (cs : List Char) (directives : List Directive) :
    GivesFields (scanAll scan f cs directives) := by
  induction directives generalizing f cs with
  | nil => exact .ok hf
  | cons directive directives ih =>
    exact (hscan f cs directive hf).bind fun read hread => ih hread read.2

theorem gives_scanDateTime (hf : f.WellFormed) (cs : List Char) :
    GivesFields (scanDateTime f cs) := by
  have hplain (directives : List Directive) {g : DateFields} (hg : g.WellFormed)
      (cs : List Char) : GivesFields (scanAll Directive.scanPlain g cs directives) :=
    gives_scanAll (fun f cs directive hf => directive.gives_scanPlain hf cs) hg cs directives
  refine (hplain _ hf cs).bind fun ⟨g, behind⟩ hg => ?_
  cases behind with
  | nil => exact .error _
  | cons c rest =>
    refine .ite (fun _ => .error _) fun _ => ?_
    refine (hplain _ hg rest).bind fun ⟨g, behind⟩ hg => ?_
    simp only
    split
    · exact (hg.setOffset (Int.dvd_zero 60)).bind fun g hg => .ok hg
    · exact (Scan.gives_offsetSeconds _ _ _ _).bind fun seconds h =>
        (hg.setOffset h).bind fun g hg => .ok hg

theorem Directive.gives_scan (hf : f.WellFormed) (directive : Directive) (cs : List Char) :
    GivesFields (directive.scan f cs) := by
  unfold scan
  split
  · exact gives_scanDateTime hf cs
  · exact gives_scanPlain hf _ cs


/-- The strict form keeps the fields well formed. -/
theorem gives_scanStrict (cs : List Char) : GivesFields (scanStrict cs) := by
  have hf := DateFields.wellFormed_empty
  refine (Gives.trivially _).bind fun year _ => (hf.set _ _).bind fun f hf => ?_
  refine (Gives.trivially _).bind fun dash _ => (Gives.trivially _).bind fun month _ => ?_
  refine (hf.set _ _).bind fun f hf => ?_
  refine (Gives.trivially _).bind fun dash _ => (Gives.trivially _).bind fun day _ => ?_
  refine (hf.set _ _).bind fun f hf => ?_
  -- The time of day is read where a letter or a blank separates it from the date.
  simp only
  split
  next =>
    refine .ite (fun _ => (Gives.trivially _).bind fun cs _ => ?_) fun _ => .error _
    refine (Gives.trivially _).bind fun hour _ => (hf.set _ _).bind fun f hf => ?_
    refine (Gives.trivially _).bind fun colon _ => (Gives.trivially _).bind fun minute _ => ?_
    refine (hf.set _ _).bind fun f hf => ?_
    refine (Gives.trivially _).bind fun colon _ => (Gives.trivially _).bind fun second _ => ?_
    refine (hf.set _ _).bind fun f hf => ?_
    refine (NamedField.gives_scan hf _ _).bind fun read hread => ?_
    refine (Scan.gives_offsetSeconds _ _ _ _).bind fun seconds h => ?_
    refine .ite (fun _ => .error _) fun _ => ?_
    exact (hread.setOffset h).bind fun g hg => .ok hg
  next => exact .error _

/-- What a text gives by a pattern is well formed. -/
theorem DateFields.wellFormed_of_read? {directives : List Directive} {text : String}
    (h : DateFields.read? directives text = some f) : f.WellFormed := by
  have hscan := gives_scanAll (fun f cs directive hf => directive.gives_scan hf cs)
    DateFields.wellFormed_empty text.toList directives
  unfold DateFields.read? at h
  split at h
  next g hread =>
    obtain rfl := Option.some.inj h
    exact hscan _ hread
  next => cases h

end Scanners

/-! ### Inserted seconds -/

/-- An inserted second comes at the end of a minute, on the clocks. -/
def LocalTime.IsClear (t : LocalTime) : Prop :=
  1000000000 ≤ t.nanos → t.seconds % 60 = 59

/-- An inserted second comes at the end of a minute. -/
def Instant.IsClear (i : Instant) : Prop :=
  1000000000 ≤ i.nanos → i.seconds % 60 = 59

theorem LocalTime.isClear_ofDate {date : Date} {secondOfDay nanos : Nat}
    (h : 1000000000 ≤ nanos → secondOfDay % 60 = 59) : (ofDate date secondOfDay nanos).IsClear := by
  intro hnanos
  have := h hnanos
  simp only [ofDate]
  omega

/-- Offsets are whole minutes, so a second that is inserted on the clocks at the end of a minute is
so in UTC. -/
theorem LocalTime.IsClear.toInstant? {t : LocalTime} {offset : Int} {i : Instant} (ht : t.IsClear)
    (hoffset : 60 ∣ offset) (h : t.toInstant? offset = some i) : i.IsClear := by
  obtain rfl := LocalTime.toInstant?_eq_some_iff.1 h
  intro hnanos
  have hclear : (i.seconds + offset) % 60 = 59 := ht hnanos
  omega

namespace DateFields

variable {f : DateFields}

/-- A second is inserted behind the last one of a minute. -/
theorem gives_time (hf : f.WellFormed) :
    Gives (fun time => 1000000000 ≤ time.2 → time.1 % 60 = 59) f.time := by
  unfold time
  split
  next half hour minute hhalf hhour hminute =>
    have hhalf := hf.half _ hhalf
    have hhour := hf.hourOfHalf _ hhour
    have hminute := hf.minute _ hminute
    have hnanos : ((f.nanosecond.getD 0).toNat : Nat) < 1000000000 := by
      cases hnanosecond : f.nanosecond with
      | none => decide
      | some n =>
        have := hf.nanosecond n hnanosecond
        rw [Option.getD_some]
        omega
    simp only
    split
    next => exact .error _
    next =>
      refine .ok fun hinserted => ?_
      -- Only the sixtieth second has more nanoseconds than a second, and it is the last one.
      split at hinserted
      next hsixty =>
        rw [if_pos hsixty]
        omega
      next => omega
  next => exact .error _

/-- A timestamp brings no other inserted seconds than those of the fields. -/
theorem gives_ofTimestamp (hf : f.WellFormed) (timestamp offset : Int) :
    Gives LocalTime.IsClear (f.ofTimestamp timestamp offset) := by
  have hgather (g : DateFields) (hg : g.WellFormed) (year ordinal hour minute : Int) :
      Gives LocalTime.IsClear (do
        let f ← g.set .year year
        let f ← f.set .ordinal ordinal
        let f ← f.set .hour hour
        let f ← f.set .minute minute
        let date ← f.date
        let time ← f.time
        return LocalTime.ofDate date time.1 time.2) := by
    refine (hg.set _ _).bind fun f hf => (hf.set _ _).bind fun f hf => ?_
    refine (hf.set _ _).bind fun f hf => (hf.set _ _).bind fun f hf => ?_
    refine (Gives.trivially _).bind fun date _ => (gives_time hf).bind fun time htime => ?_
    exact .ok (LocalTime.isClear_ofDate htime)
  unfold ofTimestamp
  refine .ite (fun _ => .error _) fun _ => .ite (fun _ => .error _) fun _ => ?_
  refine .ite (fun _ => hgather f hf _ _ _ _) fun _ => ?_
  exact (hf.set _ _).bind fun g hg => hgather g hg _ _ _ _

/-- The clocks show inserted seconds at the end of a minute only. -/
theorem gives_localTime (hf : f.WellFormed) (offset : Int) :
    Gives LocalTime.IsClear (f.localTime offset) := by
  unfold localTime
  split
  next date second nanos hdate htime =>
    refine .ite (fun _ => .ok ?_) fun _ => .error _
    exact LocalTime.isClear_ofDate (gives_time hf _ htime)
  next => exact .error _
  next => exact .error _
  next => exact .error _
  next => exact .error _
  next => exact gives_ofTimestamp hf _ _
  next => exact .error _

/-- Offsets are whole minutes, so seconds are inserted at the end of a minute in UTC too. -/
theorem isClear_of_instant? (hf : f.WellFormed) {i : Instant} (h : f.instant? = some i) :
    i.IsClear := by
  have hoffset : 60 ∣ f.offset.getD 0 := by
    cases hgiven : f.offset with
    | none => exact Int.dvd_zero 60
    | some offset => exact hf.offset offset hgiven
  unfold instant? at h
  split at h
  next => cases h
  next =>
    simp only at h
    split at h
    next t hlocal =>
      split at h
      next => exact LocalTime.IsClear.toInstant? (gives_localTime hf _ t hlocal) hoffset h
      next => cases h
    next => cases h

end DateFields

namespace LocalTime

variable {directives : List Directive} {text : String} {t : LocalTime}

theorem isClear_of_readLocal? (h : readLocal? directives text = some t) : t.IsClear := by
  obtain ⟨f, hread, hlocal⟩ := Option.bind_eq_some_iff.1 h
  have hf := DateFields.wellFormed_of_read? hread
  cases htime : f.localTime 0 with
  | error e =>
    rw [htime] at hlocal
    cases hlocal
  | ok u =>
    rw [htime] at hlocal
    obtain rfl := Option.some.inj hlocal
    exact DateFields.gives_localTime hf 0 _ htime

theorem isClear_of_readDay? (h : readDay? directives text = some t) : t.IsClear := by
  obtain ⟨f, -, hdate⟩ := Option.bind_eq_some_iff.1 h
  obtain ⟨date, -, rfl⟩ := Option.map_eq_some_iff.1 hdate
  exact isClear_ofDate (by simp)

/-- What is read by a pattern is a date with its time of day, or else the midnight of a day. -/
theorem read?_eq (directives : List Directive) (text : String) :
    LocalTime.read? directives text =
      (readLocal? directives text).or (readDay? directives text) := by
  unfold LocalTime.read? readLocal? readDay?
  cases DateFields.read? directives text with
  | none => rfl
  | some f =>
    simp only [Option.bind_some]
    cases f.localTime 0 with
    | ok t => rfl
    | error e => rfl

theorem isClear_of_read? (h : LocalTime.read? directives text = some t) : t.IsClear := by
  rw [read?_eq] at h
  rcases Option.or_eq_some_iff.1 h with hlocal | ⟨-, hday⟩
  · exact isClear_of_readLocal? hlocal
  · exact isClear_of_readDay? hday

end LocalTime

namespace Instant

variable {i : Instant}

/-- Milliseconds are in no inserted second. -/
theorem isClear_of_nanos_lt (h : i.nanos < 1000000000) : i.IsClear := by
  intro hnanos
  exact absurd hnanos (Nat.not_le.2 h)

/-- Every text is read as an instant whose inserted second, if it is in one, comes at the end of a
minute. -/
theorem isClear_of_read? {text : String} (h : read? text = some i) : i.IsClear := by
  unfold read? at h
  split at h
  next => cases h
  next =>
    rcases Option.or_eq_some_iff.1 h with hstrict | ⟨-, h⟩
    · -- The strict form.
      unfold readStrict? at hstrict
      split at hstrict
      next f hscan =>
        exact DateFields.isClear_of_instant? (gives_scanStrict _ _ hscan) hstrict
      next => cases hstrict
    rcases Option.or_eq_some_iff.1 h with hoffset | ⟨-, h⟩
    · -- A form with an offset.
      obtain ⟨form, -, hread⟩ := List.exists_of_findSome?_eq_some hoffset
      obtain ⟨f, hfields, hinstant⟩ := Option.bind_eq_some_iff.1 hread
      exact DateFields.isClear_of_instant? (DateFields.wellFormed_of_read? hfields) hinstant
    rcases Option.or_eq_some_iff.1 h with hplain | ⟨-, hmillis⟩
    · -- A form without an offset, or a day.
      obtain ⟨t, hlocal, ht⟩ := Option.bind_eq_some_iff.1 hplain
      refine LocalTime.IsClear.toInstant? ?_ (Int.dvd_zero 60) ht
      rcases Option.or_eq_some_iff.1 hlocal with hlocal | ⟨-, hday⟩
      · obtain ⟨form, -, hread⟩ := List.exists_of_findSome?_eq_some hlocal
        exact LocalTime.isClear_of_readLocal? hread
      · obtain ⟨form, -, hread⟩ := List.exists_of_findSome?_eq_some hday
        exact LocalTime.isClear_of_readDay? hread
    · -- A number of milliseconds.
      obtain ⟨millis, -, hmillis⟩ := Option.bind_eq_some_iff.1 hmillis
      exact isClear_of_nanos_lt (nanos_lt_of_ofMillis? hmillis)

end Instant

/-- An instant that a value denotes is in no other inserted second than one at the end of a
minute. -/
theorem Value.isClear_of_toInstant? {v : Value} {i : Instant} (h : v.toInstant? = some i) :
    i.IsClear := by
  cases v with
  | number n => exact Instant.isClear_of_nanos_lt (Instant.nanos_lt_of_ofMillis? h)
  | string text => exact Instant.isClear_of_read? h
  | _ => cases h

end AccessPolicy
