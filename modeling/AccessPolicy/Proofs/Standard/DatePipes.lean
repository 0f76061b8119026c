import AccessPolicy.Proofs.Calendar.RoundTrip
import AccessPolicy.Proofs.Calendar.Shifting
import AccessPolicy.Proofs.Trace
import AccessPolicy.Standard.Operators

/-!
# Pipes on dates lose nothing

What `parseDate`, `dateMath` and `datePlus` make of a value is a `DateResult`, and what they write
is read as the date that was written (`DateResult.reads`). On dates they compute functions of
instants (`Computes`), and a chain of them computes one function after the other
(`toInstant?_runAll`). The pipes that read dates see nothing but the instant
(`ReadsDates.readsInstants`), and the operators on dates compare milliseconds
(`compareInstants_of_isMillis`). `dates_roundTrip` puts this together.
-/

namespace AccessPolicy

/-! ### Offsets -/

/-- Hours and minutes are whole minutes. -/
theorem dvd_of_readHoursAndMinutes? {digits : List Char} {n : Nat}
    (h : readHoursAndMinutes? digits = some n) : 60 ∣ n := by
  unfold readHoursAndMinutes? at h
  simp only [Option.ite_none_right_eq_some, Option.some.injEq] at h
  obtain ⟨-, rfl⟩ := h
  omega

/-- The offset of a zone is whole minutes. -/
theorem dvd_of_readOffset? {text : String} {offset : Int} (h : readOffset? text = some offset) :
    60 ∣ offset := by
  unfold readOffset? at h
  simp only at h
  split at h
  next =>
    obtain rfl := Option.some.inj h
    exact Int.dvd_zero 60
  next =>
    obtain ⟨hseconds, -⟩ := Option.filter_eq_some_iff.1 h
    split at hseconds
    next rest =>
      obtain ⟨n, hn, rfl⟩ := Option.map_eq_some_iff.1 hseconds
      exact Int.ofNat_dvd.2 (dvd_of_readHoursAndMinutes? hn)
    next rest =>
      obtain ⟨n, hn, rfl⟩ := Option.map_eq_some_iff.1 hseconds
      exact Int.dvd_neg.2 (Int.ofNat_dvd.2 (dvd_of_readHoursAndMinutes? hn))
    next => cases hseconds

theorem eq_ok_of_toOption {ε α : Type} {x : Except ε α} {a : α} (h : x.toOption = some a) :
    x = .ok a := by
  cases x with
  | error e => cases h
  | ok b => rw [Option.some.inj h]

namespace Standard

variable {scope : Scope} {v : Value} {i : Instant}

/-- A zone that an argument names has an offset of whole minutes. -/
theorem Zone.dvd_offset_ofOptional (arg : Option String) (scope : Scope) :
    60 ∣ (Zone.ofOptional arg).offset scope := by
  -- Without a readable offset it is zero.
  have hread (o : Option Int) (h : ∀ offset, o = some offset → 60 ∣ offset) : 60 ∣ o.getD 0 := by
    cases o with
    | none => exact Int.dvd_zero 60
    | some offset => exact h offset rfl
  cases arg with
  | none => exact Int.dvd_zero 60
  | some text =>
    change 60 ∣ (Zone.ofArgument text).offset scope
    unfold Zone.ofArgument
    split
    next path =>
      refine hread _ fun offset h => ?_
      obtain ⟨text, -, hoffset⟩ := Option.bind_eq_some_iff.1 h
      exact dvd_of_readOffset? hoffset
    next => exact hread _ fun offset h => dvd_of_readOffset? h

/-! ### Pipes with their arguments -/

/-- The pipe `formatDate` with its arguments: a pattern and a zone. -/
theorem formatDatePipe_eq (args : List String) :
    formatDatePipe args =
      ((args.head?.map (readPattern "formatDate")).getD (.ok defaultPattern)).map fun directives =>
        onDate fun scope i =>
          ((i.format? directives ((Zone.ofOptional args[1]?).offset scope)).map .string).getD
            .null := by
  unfold formatDatePipe
  cases args.head? <;> rfl

/-- The pipe `dateMath` with its arguments: steps, which may begin with a date, and a zone. -/
theorem dateMathPipe_cons (math : String) (args : List String) :
    dateMathPipe (math :: args) = (readDateMath (Text.trimmed math)).map fun read =>
      { value := fun scope v =>
          match read.1.or v.toInstant? with
          | some start =>
            optionalInstant (start.walk ((Zone.ofOptional args.head?).offset scope) read.2).toOption
          | none => v } := by
  rw [List.head?_eq_getElem?]
  cases hread : readDateMath (Text.trimmed math) <;>
    simp only [dateMathPipe, List.head?_cons, hread] <;> rfl

/-- The pipe `datePlus` with its arguments: an amount, a unit and a zone. -/
theorem datePlusPipe_eq (args : List String) :
    datePlusPipe args = ((args.head?.map Amount.ofArgument).getD (.ok (.fixed 1))).map fun amount =>
      onDate fun scope i =>
        match (args[1]?.map readUnit?).getD (some .day) with
        | some unit => optionalInstant
            (unit.add? (amount.resolve scope) ((Zone.ofOptional args[2]?).offset scope) i)
        | none => .ofInstant i := by
  unfold datePlusPipe
  cases args.head? <;> cases args[1]? <;> rfl

/-! ### Results -/

/-- What becomes of a value where dates are written. -/
inductive DateResult (v : Value) : Value → Prop where
  /-- The value is passed on. -/
  | passed : DateResult v v
  /-- There is no date. -/
  | null : DateResult v .null
  /-- Its date becomes a number of milliseconds. -/
  | millis {i : Instant} (h : v.toInstant? = some i) : DateResult v (.ofInt i.toMillis)
  /-- An instant is written. -/
  | instant {i : Instant} (h : i.IsClear) : DateResult v (.ofInstant i)

theorem dateResult_optionalInstant {o : Option Instant} (h : ∀ i, o = some i → i.IsClear) :
    DateResult v (optionalInstant o) := by
  cases o with
  | none => exact .null
  | some i => exact .instant (h i rfl)

theorem dateResult_onDate {f : Scope → Instant → Value}
    (hf : ∀ i, i.IsClear → DateResult v (f scope i)) : DateResult v ((onDate f).value scope v) := by
  simp only [onDate]
  split
  next i hi => exact hf i (Value.isClear_of_toInstant? hi)
  next => exact .passed

theorem dateResult_parseDate {args : List String} {transform : Transform}
    (h : parseDatePipe args = .ok transform) : DateResult v (transform.value scope v) := by
  unfold parseDatePipe at h
  split at h
  next =>
    obtain rfl := Except.ok.inj h
    exact dateResult_optionalInstant fun i hi => Value.isClear_of_toInstant? hi
  next =>
    obtain rfl := Except.ok.inj h
    simp only
    cases hv : v.toInstant? with
    | none => exact .null
    | some i => exact .millis hv
  next pattern _ _ =>
    cases hread : readPattern "parseDate" pattern with
    | error e =>
      rw [hread] at h
      cases h
    | ok directives =>
      rw [hread] at h
      obtain rfl := Except.ok.inj h
      refine dateResult_optionalInstant fun i hi => ?_
      -- An offset of whole minutes leaves an inserted second at the end of a minute.
      obtain ⟨text, -, hi⟩ := Option.bind_eq_some_iff.1 hi
      obtain ⟨t, ht, hi⟩ := Option.bind_eq_some_iff.1 hi
      exact LocalTime.IsClear.toInstant? (LocalTime.isClear_of_read? ht)
        (Zone.dvd_offset_ofOptional _ scope) hi

/-- The date that date arithmetic starts from may be in an inserted second at the end of a minute
only. -/
theorem isClear_of_readDateMath {math : String} {steps : List DateStep}
    (h : readDateMath math = .ok (some i, steps)) : i.IsClear := by
  simp only [readDateMath, bind, Except.bind, pure, Except.pure] at h
  split at h
  next rest hnow =>
    -- The value itself is what it starts from.
    split at h
    · cases h
    · cases h
  next hnow =>
    split at h
    next j hread =>
      split at h
      next =>
        cases h
        exact Instant.isClear_of_read? hread
      next => cases h
    next => cases h

theorem dateResult_dateMath {args : List String} {transform : Transform}
    (h : dateMathPipe args = .ok transform) : DateResult v (transform.value scope v) := by
  cases args with
  | nil =>
    obtain rfl := Except.ok.inj h
    exact .passed
  | cons math args =>
    rw [dateMathPipe_cons] at h
    obtain ⟨⟨anchor, steps⟩, hread, rfl⟩ := exists_of_map_eq_ok h
    simp only
    split
    next start hstart =>
      have hclear : start.IsClear := by
        rcases Option.or_eq_some_iff.1 hstart with rfl | ⟨-, hv⟩
        · exact isClear_of_readDateMath hread
        · exact Value.isClear_of_toInstant? hv
      refine dateResult_optionalInstant fun j hj => ?_
      exact Instant.walk_induction (fun i j h hi => h.isClear hi) (eq_ok_of_toOption hj) hclear
    next => exact .passed

theorem dateResult_datePlus {args : List String} {transform : Transform}
    (h : datePlusPipe args = .ok transform) : DateResult v (transform.value scope v) := by
  rw [datePlusPipe_eq] at h
  obtain ⟨amount, -, rfl⟩ := exists_of_map_eq_ok h
  refine dateResult_onDate fun i hi => ?_
  split
  next unit _ =>
    exact dateResult_optionalInstant fun j hj => (Instant.fractionStep_of_add? hj).isClear hi
  next => exact .instant hi

/-- What the pipes give that write dates is read as the date that is written. Only a number of
milliseconds that comes from an inserted second denotes another instant. -/
theorem DateResult.reads {out : Value} (h : DateResult v out) :
    out = v ∨ out = .null ∨
    (∃ i, v.toInstant? = some i ∧ out = .ofInt i.toMillis ∧
      out.toInstant? = Instant.ofMillis? i.toMillis ∧
      (i.nanos < 1000000000 → out.toInstant? = some i.cut)) ∨
    ∃ i, out = .ofInstant i ∧ out.toInstant? = some i := by
  cases h with
  | passed => exact .inl rfl
  | null => exact .inr (.inl rfl)
  | @millis i hv =>
    have hread := Value.toInstant?_ofInt i
    refine .inr (.inr (.inl ⟨i, hv, rfl, hread, fun hnanos => ?_⟩))
    rw [hread, ← i.toMillis_cut, (Instant.isMillis_cut hnanos).ofMillis?_toMillis]
  | @instant i hi =>
    refine .inr (.inr (.inr ⟨i.cut, ?_, Value.toInstant?_ofInstant hi⟩))
    rw [Value.ofInstant, Value.ofInstant, Instant.toText_cut]

/-! ### Chains -/

/-- What the pipes that write dates compute of an instant. -/
inductive Computes (scope : Scope) : Transform → (Instant → Option Instant) → Prop where
  /-- Reading a date gives it. -/
  | parse {args : List String} {transform : Transform} (h : parseDatePipe args = .ok transform)
    (hargs : ∀ arg, args.head? = some arg → arg = "") : Computes scope transform some
  /-- Date arithmetic goes its steps. -/
  | math {math : String} {args : List String} {steps : List DateStep} {transform : Transform}
    (hread : readDateMath (Text.trimmed math) = .ok (none, steps))
    (h : dateMathPipe (math :: args) = .ok transform) :
    Computes scope transform fun i =>
      (i.walk ((Zone.ofOptional args.head?).offset scope) steps).toOption
  /-- An amount of a unit is added, if there is such a unit. -/
  | plus {args : List String} {amount : Amount} {transform : Transform}
    (hamount : (args.head?.map Amount.ofArgument).getD (.ok (.fixed 1)) = .ok amount)
    (h : datePlusPipe args = .ok transform) :
    Computes scope transform fun i =>
      ((args[1]?.map readUnit?).getD (some .day)).elim (some i) fun unit =>
        unit.add? (amount.resolve scope) ((Zone.ofOptional args[2]?).offset scope) i

variable {transform : Transform} {f : Instant → Option Instant}

theorem Computes.isMillis (h : Computes scope transform f) {j : Instant} (hi : i.IsMillis)
    (hj : f i = some j) : j.IsMillis := by
  cases h with
  | parse => exact Option.some.inj hj ▸ hi
  | math =>
    exact Instant.walk_induction (fun i j h hi => h.isMillis hi) (eq_ok_of_toOption hj) hi
  | @plus args =>
    cases hunit : (args[1]?.map readUnit?).getD (some .day) with
    | none =>
      rw [hunit] at hj
      exact Option.some.inj hj ▸ hi
    | some unit =>
      rw [hunit] at hj
      exact (Instant.fractionStep_of_add? hj).isMillis hi

/-- Without a pattern, reading a date writes it as a text or as a number of milliseconds. -/
theorem value_of_parseDatePipe {args : List String} (h : parseDatePipe args = .ok transform)
    (hargs : ∀ arg, args.head? = some arg → arg = "") :
    (∀ scope v, transform.value scope v = optionalInstant v.toInstant?) ∨
      ∀ scope v, transform.value scope v =
        (v.toInstant?.map fun i => Value.ofInt i.toMillis).getD .null := by
  cases args with
  | nil =>
    obtain rfl := Except.ok.inj h
    exact .inl fun scope v => rfl
  | cons arg args =>
    obtain rfl := hargs arg rfl
    obtain rfl := Except.ok.inj h
    exact .inr fun scope v => rfl

/-- What is computed of a date stands in the result as a text, or as a number of milliseconds. What
is no date stays none. -/
theorem Computes.value_eq (h : Computes scope transform f) (v : Value) :
    (∀ i, v.toInstant? = some i → transform.value scope v = optionalInstant (f i) ∨
      f i = some i ∧ transform.value scope v = .ofInt i.toMillis) ∧
    (v.toInstant? = none → (transform.value scope v).toInstant? = none) := by
  cases h with
  | parse h hargs =>
    rcases value_of_parseDatePipe h hargs with hvalue | hvalue
    · refine ⟨fun i hv => .inl ?_, fun hv => ?_⟩
      · rw [hvalue, hv]
      · rw [hvalue, hv]
        rfl
    · refine ⟨fun i hv => .inr ⟨rfl, ?_⟩, fun hv => ?_⟩
      · rw [hvalue, hv]
        rfl
      · rw [hvalue, hv]
        rfl
  | math hread h =>
    rw [dateMathPipe_cons, hread] at h
    obtain rfl := Except.ok.inj h
    simp only [Option.none_or]
    refine ⟨fun i hv => .inl ?_, fun hv => ?_⟩
    · rw [hv]
    · rw [hv]
      exact hv
  | @plus args _ _ hamount h =>
    rw [datePlusPipe_eq, hamount] at h
    obtain rfl := Except.ok.inj h
    simp only [onDate]
    refine ⟨fun i hv => .inl ?_, fun hv => ?_⟩
    · rw [hv]
      cases (args[1]?.map readUnit?).getD (some .day) with
      | none => rfl
      | some unit => rfl
    · rw [hv]
      exact hv

/-- What is written for an instant, if there is one, is read back. -/
theorem toInstant?_optionalInstant {o : Option Instant} (h : ∀ i, o = some i → i.IsMillis) :
    (optionalInstant o).toInstant? = o := by
  cases o with
  | none => rfl
  | some i => exact Value.toInstant?_ofInstant_of_isMillis (h i rfl)

/-- What a pipe writes is read as the instant that it computed. -/
theorem Computes.toInstant?_value (h : Computes scope transform f) (hv : v.toInstant? = some i)
    (hi : i.IsMillis) : (transform.value scope v).toInstant? = f i := by
  rcases (h.value_eq v).1 i hv with htext | ⟨hf, hnumber⟩
  · rw [htext, toInstant?_optionalInstant fun j hj => h.isMillis hi hj]
  · rw [hnumber, hf, Value.toInstant?_ofInt, hi.ofMillis?_toMillis]

theorem toInstant?_runAll_of_none {transforms : List Transform}
    {fs : List (Instant → Option Instant)} (h : List.Forall₂ (Computes scope) transforms fs)
    (hv : v.toInstant? = none) : (Transform.runAll scope transforms v).1.toInstant? = none := by
  induction h generalizing v with
  | nil => exact hv
  | cons hfirst hrest ih =>
    rw [Transform.runAll]
    exact ih ((hfirst.value_eq v).2 hv)

/-- However many pipes follow each other, what is read of the last result is what they compute of
the instant one after the other. -/
theorem toInstant?_runAll {transforms : List Transform} {fs : List (Instant → Option Instant)}
    (h : List.Forall₂ (Computes scope) transforms fs) (hv : v.toInstant? = some i)
    (hi : i.IsMillis) :
    (Transform.runAll scope transforms v).1.toInstant? = fs.foldlM (fun j f => f j) i := by
  induction h generalizing v i with
  | nil => exact hv
  | @cons transform f transforms fs hfirst hrest ih =>
    have hnext := hfirst.toInstant?_value hv hi
    rw [Transform.runAll, List.foldlM_cons]
    cases hj : f i with
    | some j => exact ih (hnext.trans hj) (hfirst.isMillis hi hj)
    | none => exact toInstant?_runAll_of_none hrest (hnext.trans hj)

/-! ### What dates are read for -/

/-- To a transformation, a date is nothing but its instant. -/
def ReadsInstants (transform : Transform) : Prop :=
  ∀ scope v w i, v.toInstant? = some i → w.toInstant? = some i →
    transform.value scope v = transform.value scope w

theorem readsInstants_onDate (f : Scope → Instant → Value) : ReadsInstants (onDate f) := by
  intro scope v w i hv hw
  simp only [onDate, hv, hw]

/-- The pipes that read dates in the common forms, with their arguments. -/
inductive ReadsDates : Pipe → List String → Prop where
  /-- Dates are formatted. -/
  | formatDate (args : List String) : ReadsDates formatDatePipe args
  /-- Dates are read without a pattern. -/
  | parseDate {args : List String} (hargs : ∀ arg, args.head? = some arg → arg = "") :
    ReadsDates parseDatePipe args
  /-- There are steps to go. -/
  | dateMath (math : String) (args : List String) : ReadsDates dateMathPipe (math :: args)
  /-- An amount is added. -/
  | datePlus (args : List String) : ReadsDates datePlusPipe args
  /-- The distance from the present is put into words. -/
  | fromNow (args : List String) : ReadsDates fromNowPipe args
  /-- Units are counted up to the present. -/
  | fromNowUnits (args : List String) : ReadsDates fromNowUnitsPipe args

theorem ReadsDates.readsInstants {pipe : Pipe} {args : List String} (h : ReadsDates pipe args)
    (htransform : pipe args = .ok transform) : ReadsInstants transform := by
  cases h with
  | formatDate =>
    rw [formatDatePipe_eq] at htransform
    obtain ⟨directives, -, rfl⟩ := exists_of_map_eq_ok htransform
    exact readsInstants_onDate _
  | parseDate hargs =>
    intro scope v w i hv hw
    rcases value_of_parseDatePipe htransform hargs with hvalue | hvalue
    · rw [hvalue, hvalue, hv, hw]
    · rw [hvalue, hvalue, hv, hw]
  | dateMath math args =>
    intro scope v w i hv hw
    rw [dateMathPipe_cons] at htransform
    obtain ⟨read, -, rfl⟩ := exists_of_map_eq_ok htransform
    simp only [hv, hw, Option.or_some]
  | datePlus =>
    rw [datePlusPipe_eq] at htransform
    obtain ⟨amount, -, rfl⟩ := exists_of_map_eq_ok htransform
    exact readsInstants_onDate _
  | fromNow =>
    obtain rfl := Except.ok.inj htransform
    exact readsInstants_onDate _
  | fromNowUnits =>
    obtain rfl := Except.ok.inj htransform
    exact readsInstants_onDate _

/-- Milliseconds are compared as numbers. -/
theorem compareInstants_of_isMillis {i j : Instant} (hi : i.IsMillis) (hj : j.IsMillis) :
    compareInstants (some i) (some j) = Ord.compare i.toMillis j.toMillis := by
  have hlt := Instant.toMillis_lt_iff hi hj
  have hgt := Instant.toMillis_lt_iff hj hi
  rw [compareInstants, Instant.compare]
  rcases lt_trichotomy i.seconds j.seconds with h | h | h
  · rw [compare_lt_iff_lt.2 h, compare_lt_iff_lt.2 (hlt.2 (.inl h))]
    rfl
  · rw [compare_eq_iff_eq.2 h]
    rcases lt_trichotomy i.nanos j.nanos with hn | hn | hn
    · rw [compare_lt_iff_lt.2 hn, compare_lt_iff_lt.2 (hlt.2 (.inr ⟨h, hn⟩))]
      rfl
    · rw [compare_eq_iff_eq.2 hn, compare_eq_iff_eq.2 (by rw [Instant.toMillis, h, hn, Instant.toMillis])]
      rfl
    · rw [compare_gt_iff_gt.2 hn, compare_gt_iff_gt.2 (hgt.2 (.inr ⟨h.symm, hn⟩))]
      rfl
  · rw [compare_gt_iff_gt.2 h, compare_gt_iff_gt.2 (hgt.2 (.inl h))]
    rfl

/-- Reading undoes writing of a date. Every number of milliseconds in the calendar denotes an
instant, as an integer and as a double, and the text of the instant denotes it too, so the texts of
different numbers differ. Pipes on dates that follow each other compute of the value what they
compute of instants, what they write is read as what was written, and all that pipes and conditions
see of a date is its instant. Of other instants a text loses what is less than a millisecond, and a
number of milliseconds an inserted second. -/
theorem dates_roundTrip :
    (∀ millis : Int, calendarStart * 1000 ≤ millis → millis < calendarEnd * 1000 →
      ∃ t, Instant.ofMillis? millis = some t ∧ t.toMillis = millis ∧
        (Value.ofInt millis).toInstant? = some t ∧
        (Value.number (.float (Binary64.ofInt millis))).toInstant? = some t ∧
        (Value.ofInstant t).toInstant? = some t) ∧
    (∀ m n t u, Instant.ofMillis? m = some t → Instant.ofMillis? n = some u → m ≠ n →
      Value.ofInstant t ≠ Value.ofInstant u) ∧
    (∀ (v : Value) (i : Instant), v.toInstant? = some i →
      (Value.ofInstant i).toInstant? = some i.cut) ∧
    (∀ scope transforms fs, List.Forall₂ (Computes scope) transforms fs →
      ∀ millis t v, Instant.ofMillis? millis = some t → v.toInstant? = some t →
        (Transform.runAll scope transforms v).1.toInstant? = fs.foldlM (fun j f => f j) t) ∧
    (∀ pipe ∈ [parseDatePipe, dateMathPipe, datePlusPipe],
      ∀ args transform, pipe args = .ok transform → ∀ scope v out, transform.value scope v = out →
        out = v ∨ out = .null ∨
        (∃ i, v.toInstant? = some i ∧ out = .ofInt i.toMillis ∧
          out.toInstant? = Instant.ofMillis? i.toMillis ∧
          (i.nanos < 1000000000 → out.toInstant? = some i.cut)) ∨
        ∃ i, out = .ofInstant i ∧ out.toInstant? = some i) ∧
    (∀ pipe args, ReadsDates pipe args → ∀ transform, pipe args = .ok transform →
      ∀ scope v w i, v.toInstant? = some i → w.toInstant? = some i →
        transform.value scope v = transform.value scope w) ∧
    (∀ m n t u, Instant.ofMillis? m = some t → Instant.ofMillis? n = some u →
      ∀ keyValue operands, (firstItem keyValue).toInstant? = some t →
        (firstItem operands).toInstant? = some u →
        ∀ wanted, dateOperator wanted keyValue operands = wanted (Ord.compare m n)) := by
  refine ⟨?_, ?_, ?_, ?_, ?_, ?_, ?_⟩
  · -- A number in the calendar denotes an instant that is a whole number of milliseconds.
    intro millis hstart hend
    obtain ⟨t, ht⟩ := Instant.exists_ofMillis? hstart hend
    obtain ⟨hmillis, rfl⟩ := Instant.ofMillis?_eq_some_iff.1 ht
    exact ⟨t, ht, rfl, (Value.toInstant?_ofInt t).trans ht, (Value.toInstant?_number rfl).trans ht,
      Value.toInstant?_ofInstant_of_isMillis hmillis⟩
  · -- Equal texts are read as the same instant, which has one number of milliseconds.
    intro m n t u ht hu hne htext
    obtain ⟨htmillis, rfl⟩ := Instant.ofMillis?_eq_some_iff.1 ht
    obtain ⟨humillis, rfl⟩ := Instant.ofMillis?_eq_some_iff.1 hu
    have hread : some t = some u := by
      rw [← Value.toInstant?_ofInstant_of_isMillis htmillis, htext,
        Value.toInstant?_ofInstant_of_isMillis humillis]
    exact hne (congrArg Instant.toMillis (Option.some.inj hread))
  · exact fun v i hv => Value.toInstant?_ofInstant (Value.isClear_of_toInstant? hv)
  · intro scope transforms fs hfs millis t v ht hv
    exact toInstant?_runAll hfs hv (Instant.ofMillis?_eq_some_iff.1 ht).1
  · intro pipe hpipe args transform h scope v out hout
    have hresult : DateResult v (transform.value scope v) := by
      simp only [List.mem_cons, List.not_mem_nil, or_false] at hpipe
      rcases hpipe with rfl | rfl | rfl
      · exact dateResult_parseDate h
      · exact dateResult_dateMath h
      · exact dateResult_datePlus h
    exact hout ▸ hresult.reads
  · exact fun pipe args hreads transform h => hreads.readsInstants h
  · intro m n t u ht hu keyValue operands hkey hoperands wanted
    obtain ⟨htmillis, rfl⟩ := Instant.ofMillis?_eq_some_iff.1 ht
    obtain ⟨humillis, rfl⟩ := Instant.ofMillis?_eq_some_iff.1 hu
    rw [dateOperator, hkey, hoperands, compareInstants_of_isMillis htmillis humillis]

/-- The last millisecond of the calendar, whose year has six digits, is read as it is written.
From it, `datePlus` and `dateMath` go to the start of a day a month before, which `formatDate` sees
in the text as in the number, and which comes first in a condition. -/
theorem dates_roundTrip_last :
    ∃ (scope : Scope) (t u : Instant) (plus math format : Transform),
      Instant.ofMillis? 8210266876799999 = some t ∧
      t.toText = "+262142-12-31T23:59:59.999Z" ∧
      (Value.ofInt 8210266876799999).toInstant? = some t ∧
      (Value.ofInstant t).toInstant? = some t ∧
      datePlusPipe ["-1", "M"] = .ok plus ∧
      dateMathPipe ["now/d"] = .ok math ∧
      Instant.ofMillis? 8210264112000000 = some u ∧
      (Transform.runAll scope [plus, math] (.ofInstant t)).1.toInstant? = some u ∧
      Value.ofInstant t ≠ Value.ofInstant u ∧
      formatDatePipe [] = .ok format ∧
      format.value scope (.ofInstant u) = format.value scope (.ofInt 8210264112000000) ∧
      dateOperator Ordering.isLT (.ofInstant u) (.ofInstant t) = true := by
  obtain ⟨hreads, hdistinct, -, hchain, -, hseen, hordered⟩ := dates_roundTrip
  have hfirst : calendarStart * 1000 ≤ 8210264112000000 := by decide +kernel
  have hlast : 8210266876799999 < calendarEnd * 1000 := by decide +kernel
  obtain ⟨t, ht, -, htnumber, -, httext⟩ := hreads 8210266876799999 (by omega) hlast
  obtain ⟨u, hu, -, hunumber, -, hutext⟩ := hreads 8210264112000000 hfirst (by omega)
  have htwritten : (Instant.ofMillis? 8210266876799999).map Instant.toText =
      some "+262142-12-31T23:59:59.999Z" := by decide +kernel
  have hsteps : (Instant.ofMillis? 8210266876799999).bind
      ([fun i => DateUnit.month.add? (-1) 0 i, fun i => (i.walk 0 [.floor .day]).toOption].foldlM
        fun j f => f j) = Instant.ofMillis? 8210264112000000 := by decide +kernel
  rw [ht] at htwritten hsteps
  rw [hu] at hsteps
  let scope : Scope := { now := t, sample := .zero false }
  obtain ⟨plus, hplus⟩ : ∃ plus, datePlusPipe ["-1", "M"] = .ok plus := ⟨_, rfl⟩
  have hread : readDateMath (Text.trimmed "now/d") = .ok (none, [.floor .day]) := by
    decide +kernel
  obtain ⟨math, hmath⟩ : ∃ math, dateMathPipe ["now/d"] = .ok math := by
    rw [dateMathPipe_cons, hread]
    exact ⟨_, rfl⟩
  obtain ⟨format, hformat⟩ : ∃ format, formatDatePipe [] = .ok format := ⟨_, rfl⟩
  have hplusComputes : Computes scope plus fun i => DateUnit.month.add? (-1) 0 i :=
    @Computes.plus scope ["-1", "M"] (.fixed (-1)) plus (by decide +kernel) hplus
  have hmathComputes : Computes scope math fun i => (i.walk 0 [.floor .day]).toOption :=
    @Computes.math scope "now/d" [] [.floor .day] math hread hmath
  have hpipes : List.Forall₂ (Computes scope) [plus, math] [fun i => DateUnit.month.add? (-1) 0 i,
      fun i => (i.walk 0 [.floor .day]).toOption] := .cons hplusComputes (.cons hmathComputes .nil)
  have hchained : (Transform.runAll scope [plus, math] (.ofInstant t)).1.toInstant? = some u :=
    (hchain scope _ _ hpipes _ t _ ht httext).trans hsteps
  have hformatted := hseen formatDatePipe [] (.formatDate []) format hformat scope
    (.ofInstant u) (.ofInt 8210264112000000) u hutext hunumber
  have hbefore : dateOperator Ordering.isLT (.ofInstant u) (.ofInstant t) = true := by
    rw [hordered 8210264112000000 8210266876799999 u t hu ht (.ofInstant u)
      (.ofInstant t) hutext httext]
    decide
  exact ⟨scope, t, u, plus, math, format, ht, Option.some.inj htwritten, htnumber, httext, hplus,
    hmath, hu, hchained, hdistinct _ _ t u ht hu (by decide), hformat, hformatted,
    hbefore⟩

end Standard

end AccessPolicy
