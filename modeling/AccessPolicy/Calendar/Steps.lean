import AccessPolicy.Calendar.Instant

/-!
# Steps through the calendar

Date arithmetic is a list of steps: `+3d` goes three days forward, `-1M` a month back and `/w`
down to the start of the week. Steps act on what clocks at some offset show. Years and months
keep the day of the month as far as the month has it; the other units count seconds.

The steps of a text are read by a position that moves through its characters. A position outside
of the text would end the reading; none is ever looked at (`DateStep.readFrom_within`).
-/

namespace AccessPolicy

/-- A unit of the calendar. -/
inductive DateUnit where
  | year
  | month
  | week
  | day
  | hour
  | minute
  | second
deriving DecidableEq

/-- The unit of a letter. -/
def DateUnit.ofChar? (c : Char) : Option DateUnit :=
  match c with
  | 'y' => some .year
  | 'M' => some .month
  | 'w' => some .week
  | 'd' => some .day
  | 'h' => some .hour
  | 'H' => some .hour
  | 'm' => some .minute
  | 's' => some .second
  | _ => none

/-- A step. -/
inductive DateStep where
  /-- Goes a number of units forward, or back if the number is negative. -/
  | add (amount : Int) (unit : DateUnit)
  /-- Goes down to the start of a unit. -/
  | floor (unit : DateUnit)
deriving DecidableEq

/-- Why a text holds no steps. -/
inductive DateMathError where
  /-- A step begins with a character that is no operator. -/
  | unknownOperator (operator : Char)
  /-- A count does not fit in 64 bits. -/
  | countTooLarge
  /-- A step has no unit. -/
  | truncated
  /-- A letter is no unit. -/
  | unknownUnit (unit : Char)
  /-- A step down to the start of a unit has a count. -/
  | roundingWithCount
deriving DecidableEq

/-- The message of an error in the given text. -/
def DateMathError.message (math : String) : DateMathError → String
  | .unknownOperator operator =>
    "operator '" ++ operator.toString ++ "' not supported in '" ++ math ++ "'"
  | .countTooLarge =>
    "bad count in '" ++ math ++ "': number too large to fit in target type"
  | .truncated => "truncated date math '" ++ math ++ "'"
  | .unknownUnit unit => "unit '" ++ unit.toString ++ "' not supported in '" ++ math ++ "'"
  | .roundingWithCount => "rounding takes a single unit in '" ++ math ++ "'"

namespace DateStep

/-- Why reading by positions ends early. -/
inductive Stop where
  /-- The text holds no steps. -/
  | refused (error : DateMathError)
  /-- A position that is looked at lies outside of the text. -/
  | outside
deriving DecidableEq

/-- The character at a position. -/
def charAt (chars : Array Char) (i : Nat) : Except Stop Char :=
  match chars[i]? with
  | some c => .ok c
  | none => .error .outside

/-- The characters from one position up to another. -/
def charsBetween (chars : Array Char) (start stop : Nat) : Except Stop (List Char) :=
  if start ≤ stop ∧ stop ≤ chars.size then .ok (chars.extract start stop).toList
  else .error .outside

/-- The number of characters from one position up to another. -/
def distance (start stop : Nat) : Except Stop Nat :=
  if start ≤ stop then .ok (stop - start) else .error .outside

/-- The sign of the amount of a step, which is zero for a step down to the start of a unit. -/
def signOf (operator : Char) : Except Stop Int :=
  match operator with
  | '+' => .ok 1
  | '-' => .ok (-1)
  | '/' => .ok 0
  | other => .error (.refused (.unknownOperator other))

/-- The position behind the digits that begin at a position. -/
def digitsEnd (chars : Array Char) (i : Nat) : Except Stop Nat :=
  if _within : i < chars.size then do
    if (← charAt chars i).isDigit then digitsEnd chars (i + 1) else return i
  else .ok i
termination_by chars.size - i

/-- The count that digits denote, which has 63 bits. -/
def readCount (digits : List Char) : Except Stop Nat :=
  if Nat.pow 2 63 ≤ digitsValue digits then .error (.refused .countTooLarge)
  else .ok (digitsValue digits)

/-- The count of the digits between two positions; no digits mean one. -/
def countBetween (chars : Array Char) (start stop : Nat) : Except Stop Nat := do
  if stop = start then return 1 else readCount (← charsBetween chars start stop)

/-- The unit at a position, where the text may have ended. -/
def unitAt (chars : Array Char) (i : Nat) : Except Stop DateUnit :=
  match chars[i]? with
  | none => .error (.refused .truncated)
  | some letter =>
    match DateUnit.ofChar? letter with
    | none => .error (.refused (.unknownUnit letter))
    | some unit => .ok unit

/-- The step of a sign, a count and a unit. For the sign zero, the unit is all there is between
the positions behind the operator and behind the unit. -/
def ofSign (sign : Int) (count : Nat) (unit : DateUnit) (start next : Nat) :
    Except Stop DateStep := do
  if sign = 0 then
    if (← distance start next) = 1 then return .floor unit
    else throw (.refused .roundingWithCount)
  else return .add (sign * count) unit

/-- The step at a position, and the position behind it. -/
def readStep (chars : Array Char) (i : Nat) : Except Stop (DateStep × Nat) := do
  let sign ← signOf (← charAt chars i)
  let start := i + 1
  let stop ← digitsEnd chars start
  let count ← countBetween chars start stop
  let unit ← unitAt chars stop
  let next := stop + 1
  return (← ofSign sign count unit start next, next)

/-- A reading that stays in the text: it refuses the text or gives something of which `P`
holds. -/
inductive Within {α : Type} (P : α → Prop) : Except Stop α → Prop where
  | ok {a : α} (holds : P a) : Within P (.ok a)
  | refused (error : DateMathError) : Within P (.error (.refused error))

section Within

variable {α β : Type} {P : α → Prop} {Q : β → Prop} {chars : Array Char} {i : Nat}

/-- Two readings stay in the text if the second does so after the first. -/
theorem Within.bind {x : Except Stop α} {f : α → Except Stop β} (hx : Within P x)
    (hf : ∀ a, P a → Within Q (f a)) : Within Q (x >>= f) := by
  cases hx with
  | ok holds => exact hf _ holds
  | refused error => exact .refused error

/-- A reading has what follows from what it has. -/
theorem Within.imp {P' : α → Prop} {x : Except Stop α} (hx : Within P x) (h : ∀ a, P a → P' a) :
    Within P' x := by
  cases hx with
  | ok holds => exact .ok (h _ holds)
  | refused error => exact .refused error

theorem Within.map {x : Except Stop α} {f : α → β} (hx : Within P x) (hf : ∀ a, P a → Q (f a)) :
    Within Q (x.map f) := by
  cases hx with
  | ok holds => exact .ok (hf _ holds)
  | refused error => exact .refused error

/-- What ends one reading within the text ends any other. -/
theorem Within.of_error {stop : Stop} (h : Within P (.error stop)) :
    Within Q (.error stop) := by
  cases h with
  | refused error => exact .refused error

theorem Within.of_ok {a : α} (h : Within P (.ok a)) : P a := by
  cases h with
  | ok holds => exact holds

theorem Within.ne_outside {x : Except Stop α} (h : Within P x) : x ≠ .error .outside := by
  rintro rfl
  cases h

theorem charAt_within (hi : i < chars.size) : Within (fun _ => True) (charAt chars i) := by
  rw [charAt, Array.getElem?_eq_getElem hi]
  exact .ok trivial

theorem charsBetween_within {start stop : Nat} (hle : start ≤ stop) (hsize : stop ≤ chars.size) :
    Within (fun _ => True) (charsBetween chars start stop) := by
  rw [charsBetween, if_pos ⟨hle, hsize⟩]
  exact .ok trivial

theorem signOf_within (operator : Char) : Within (fun _ => True) (signOf operator) := by
  unfold signOf
  split <;> constructor <;> trivial

theorem readCount_within (digits : List Char) : Within (fun _ => True) (readCount digits) := by
  unfold readCount
  split
  · exact .refused _
  · exact .ok trivial

theorem digitsEnd_within (hi : i ≤ chars.size) :
    Within (fun stop => i ≤ stop ∧ stop ≤ chars.size) (digitsEnd chars i) := by
  fun_induction digitsEnd chars i with
  | case1 i within ih =>
    refine (charAt_within within).bind fun c _ => ?_
    split
    next => exact (ih within).imp fun stop h => ⟨Nat.le_of_succ_le h.1, h.2⟩
    next => exact .ok ⟨Nat.le_refl i, hi⟩
  | case2 i => exact .ok ⟨Nat.le_refl i, hi⟩

theorem countBetween_within {start stop : Nat} (hle : start ≤ stop) (hsize : stop ≤ chars.size) :
    Within (fun _ => True) (countBetween chars start stop) := by
  unfold countBetween
  split
  · exact .ok trivial
  · exact (charsBetween_within hle hsize).bind fun digits _ => readCount_within digits

/-- A unit stands in the text. -/
theorem unitAt_within (i : Nat) : Within (fun _ => i < chars.size) (unitAt chars i) := by
  unfold unitAt
  split
  next => exact .refused _
  next letter hletter =>
    split
    next => exact .refused _
    next => exact .ok (Array.getElem?_eq_some_iff.1 hletter).1

theorem ofSign_within {start next : Nat} (sign : Int) (count : Nat) (unit : DateUnit)
    (hle : start ≤ next) : Within (fun _ => True) (ofSign sign count unit start next) := by
  have hdistance : Within (fun _ => True) (distance start next) := by
    rw [distance, if_pos hle]
    exact .ok trivial
  unfold ofSign
  split
  next =>
    refine hdistance.bind fun n _ => ?_
    split
    · exact .ok trivial
    · exact .refused _
  next => exact .ok trivial

/-- A step takes characters, all of the text. -/
theorem readStep_within (hi : i < chars.size) :
    Within (fun read => i < read.2 ∧ read.2 ≤ chars.size) (readStep chars i) := by
  unfold readStep
  refine (charAt_within hi).bind fun operator _ => ?_
  refine (signOf_within operator).bind fun sign _ => ?_
  refine (digitsEnd_within (Nat.succ_le_of_lt hi)).bind fun stop ⟨hle, hsize⟩ => ?_
  refine (countBetween_within hle hsize).bind fun count _ => ?_
  refine (unitAt_within stop).bind fun unit hstop => ?_
  refine (ofSign_within sign count unit (Nat.le_succ_of_le hle)).bind fun step _ => ?_
  exact .ok ⟨Nat.lt_succ_of_lt hle, hstop⟩

/-- Reads steps that follow each other without gaps, from a position. -/
def readFrom (chars : Array Char) (i : Nat) : Except Stop (List DateStep) :=
  if _within : i < chars.size then
    match _read : readStep chars i with
    | .ok (step, next) => (readFrom chars next).map (step :: ·)
    | .error stop => .error stop
  else .ok []
termination_by chars.size - i
decreasing_by
  have := readStep_within _within
  rw [_read] at this
  have := this.of_ok
  simp only at this
  omega

/-- Steps are read without looking outside of the text. -/
theorem readFrom_within (chars : Array Char) (i : Nat) :
    Within (fun _ => True) (readFrom chars i) := by
  fun_induction readFrom chars i with
  | case1 i within step next hread ih => exact ih.map fun _ _ => trivial
  | case2 i within stop hread =>
    have hstep := readStep_within within
    rw [hread] at hstep
    exact hstep.of_error
  | case3 i => exact .ok trivial

end Within

/-- The steps of a text, which follow each other without gaps. -/
def readAll (math : List Char) : Except DateMathError (List DateStep) :=
  match _read : readFrom math.toArray 0 with
  | .ok steps => .ok steps
  | .error (.refused error) => .error error
  | .error .outside => absurd _read (readFrom_within math.toArray 0).ne_outside

end DateStep

/-- Why a step leads nowhere. -/
inductive StepError where
  /-- It leads out of the calendar. -/
  | leavesCalendar
  /-- The local date that it starts from, or the Monday of the week, lies outside the calendar. -/
  | startsOutside
deriving DecidableEq

/-- The local time so many months later; the last day of the month stands for days that the month
lacks. -/
def LocalTime.addMonths? (t : LocalTime) (months : Int) : Option LocalTime :=
  if months = 0 then some t
  else if Nat.pow 2 31 ≤ months.natAbs then none
  else
    let date := t.date
    -- Months since the beginning of the year 0.
    let total := date.year * 12 + (date.month - 1 : Nat) + months
    let year := total / 12
    let month := (total % 12).toNat + 1
    (Date.ofParts? year month (min date.day (daysOfMonth year month))).map fun date =>
      LocalTime.ofDate date t.secondOfDay t.nanos

/-- The number of seconds of a unit of fixed length, and of no other. -/
def DateUnit.seconds? : DateUnit → Option Int
  | .year => none
  | .month => none
  | .week => some 604800
  | .day => some 86400
  | .hour => some 3600
  | .minute => some 60
  | .second => some 1

/-- The instant a number of units later on clocks at an offset. -/
def DateUnit.add? (unit : DateUnit) (amount offset : Int) (i : Instant) : Option Instant :=
  match unit.seconds? with
  | some seconds => i.shift? (amount * seconds)
  | none =>
    let months := if unit = .year then amount * 12 else amount
    ((i.atOffset offset).addMonths? months).bind fun t => t.toInstant? offset

/-- The start of the unit that a local time lies in. -/
def DateUnit.start (unit : DateUnit) (t : LocalTime) : LocalTime :=
  let date := t.date
  match unit with
  | .year => LocalTime.ofDate { date with month := 1, day := 1 } 0 0
  | .month => LocalTime.ofDate { date with day := 1 } 0 0
  | .week => LocalTime.ofDate (Date.ofDayNumber (t.dayNumber - date.weekday)) 0 0
  | .day => LocalTime.ofDate date 0 0
  | .hour => LocalTime.ofDate date (t.hour * 3600) 0
  | .minute => LocalTime.ofDate date (t.secondOfDay / 60 * 60) 0
  | .second => LocalTime.ofDate date t.secondOfDay 0

/-- The instant at the start of the unit on clocks at an offset. -/
def DateUnit.floor (unit : DateUnit) (offset : Int) (i : Instant) : Except StepError Instant :=
  let t := i.atOffset offset
  let start := unit.start t
  if !t.inCalendar || !start.inCalendar then .error .startsOutside
  else
    match start.toInstant? offset with
    | some i => .ok i
    | none => .error .leavesCalendar

/-- Takes one step on clocks at an offset. -/
def DateStep.apply (offset : Int) (i : Instant) : DateStep → Except StepError Instant
  | .add amount unit =>
    match unit.add? amount offset i with
    | some i => .ok i
    | none => .error .leavesCalendar
  | .floor unit => unit.floor offset i

/-- Takes steps one after the other on clocks at an offset. -/
def Instant.walk (offset : Int) (steps : List DateStep) (i : Instant) : Except StepError Instant :=
  steps.foldlM (DateStep.apply offset) i

end AccessPolicy
