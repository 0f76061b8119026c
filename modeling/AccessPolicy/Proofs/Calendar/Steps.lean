import AccessPolicy.Calendar.Steps
import Mathlib.Data.List.Basic

/-!
# Texts of steps through the calendar

The grammar of date arithmetic: a step is an operator, a count that may be left out and the letter
of a unit, and steps follow each other without gaps. Reading accepts the texts of this grammar and
no others, and it gives the steps that the grammar gives (`DateStep.readAll_correct`).

The position that moves through the characters is left behind at once: what matters is the text
from there on. That everything read belongs to the grammar is shown along the reader, where `Within`
carries the text of each part; the other direction computes what is read from a given text.
-/

namespace AccessPolicy

/-- The letters that are read as a unit. -/
def DateUnit.letters : DateUnit → List Char
  | .year => ['y']
  | .month => ['M']
  | .week => ['w']
  | .day => ['d']
  | .hour => ['h', 'H']
  | .minute => ['m']
  | .second => ['s']

theorem DateUnit.letters_ne_nil (unit : DateUnit) : unit.letters ≠ [] := by
  cases unit <;> decide

/-- The letter that a unit is written with. -/
def DateUnit.letter (unit : DateUnit) : Char :=
  unit.letters.head unit.letters_ne_nil

/-- A letter is read as the unit that it belongs to. -/
theorem DateUnit.ofChar?_eq_some_iff {letter : Char} {unit : DateUnit} :
    ofChar? letter = some unit ↔ letter ∈ unit.letters := by
  constructor
  · intro h
    unfold ofChar? at h
    split at h
    all_goals cases h
    all_goals decide
  · intro h
    cases unit
    all_goals simp only [letters, List.mem_cons, List.not_mem_nil, or_false] at h
    case hour => rcases h with rfl | rfl <;> rfl
    all_goals subst h; rfl

/-- No letter of a unit is a digit, so a count ends at it. -/
theorem DateUnit.isDigit_of_mem_letters {letter : Char} {unit : DateUnit}
    (h : letter ∈ unit.letters) : letter.isDigit = false := by
  have hread := ofChar?_eq_some_iff.2 h
  unfold ofChar? at hread
  split at hread
  case h_9 => cases hread
  all_goals rfl

namespace DateStep

/-- The text of a count: digits of a number with 63 bits, or nothing for one. -/
inductive CountText : List Char → Nat → Prop where
  | absent : CountText [] 1
  | digits {digits : List Char} (hne : digits ≠ []) (hdigits : ∀ c ∈ digits, c.isDigit)
      (hbound : digitsValue digits ≤ Nat.pow 2 63 - 1) : CountText digits (digitsValue digits)

/-- The text of a step. -/
inductive StepText : List Char → DateStep → Prop where
  | forward {digits : List Char} {count : Nat} {letter : Char} {unit : DateUnit}
      (hcount : CountText digits count) (hletter : letter ∈ unit.letters) :
      StepText ('+' :: (digits ++ [letter])) (.add count unit)
  | back {digits : List Char} {count : Nat} {letter : Char} {unit : DateUnit}
      (hcount : CountText digits count) (hletter : letter ∈ unit.letters) :
      StepText ('-' :: (digits ++ [letter])) (.add (-count) unit)
  | floor {letter : Char} {unit : DateUnit} (hletter : letter ∈ unit.letters) :
      StepText ['/', letter] (.floor unit)

/-- The text of steps one after the other. -/
inductive StepsText : List Char → List DateStep → Prop where
  | nil : StepsText [] []
  | cons {text rest : List Char} {step : DateStep} {steps : List DateStep}
      (hstep : StepText text step) (hsteps : StepsText rest steps) :
      StepsText (text ++ rest) (step :: steps)

variable {chars : Array Char} {i start stop : Nat} {digits text rest : List Char} {letter : Char}
  {unit : DateUnit} {step : DateStep} {steps : List DateStep} {count : Nat}

/-! ### The text from a position on -/

/-- The text from a position on. -/
def textFrom (chars : Array Char) (i : Nat) : List Char :=
  chars.toList.drop i

theorem getElem?_eq_head?_textFrom : chars[i]? = (textFrom chars i).head? := by
  simp [textFrom]

/-- Behind a part of the text the rest begins. -/
theorem textFrom_add_length (h : textFrom chars i = text ++ rest) :
    textFrom chars (i + text.length) = rest := by
  rw [textFrom] at h ⊢
  rw [← List.drop_drop, h, List.drop_left]

theorem textFrom_succ {c : Char} (h : textFrom chars i = c :: rest) :
    textFrom chars (i + 1) = rest :=
  textFrom_add_length (show textFrom chars i = [c] ++ rest from h)

/-- What stands somewhere in the text lies in its bounds. -/
theorem add_length_le_size (hne : text ≠ []) (h : textFrom chars i = text ++ rest) :
    i + text.length ≤ chars.size := by
  have := congrArg List.length h
  have := List.length_pos_of_ne_nil hne
  simp only [textFrom, List.length_drop, Array.length_toList, List.length_append] at *
  omega

/-! ### What is read belongs to the grammar -/

theorem charAt_textFrom (hi : i < chars.size) :
    Within (fun c => ∃ rest, textFrom chars i = c :: rest) (charAt chars i) := by
  rw [charAt, Array.getElem?_eq_getElem hi]
  refine .ok ⟨chars.toList.drop (i + 1), ?_⟩
  rw [textFrom, List.drop_eq_getElem_cons (by simpa using hi), Array.getElem_toList]

theorem digitsEnd_textFrom (chars : Array Char) (i : Nat) :
    Within (fun stop => ∃ digits, (∀ c ∈ digits, c.isDigit) ∧ stop = i + digits.length ∧
      ∃ rest, textFrom chars i = digits ++ rest) (digitsEnd chars i) := by
  fun_induction digitsEnd chars i with
  | case1 i within ih =>
    refine (charAt_textFrom within).bind fun c hchar => ?_
    obtain ⟨rest, hc⟩ := hchar
    split
    next hdigit =>
      refine ih.imp fun stop hread => ?_
      obtain ⟨digits, hdigits, hstop, more, hmore⟩ := hread
      refine ⟨c :: digits, by simpa [hdigit] using hdigits, ?_, more, ?_⟩
      · simp only [hstop, List.length_cons]
        omega
      · rw [hc, ← textFrom_succ hc, hmore, List.cons_append]
    next => exact .ok ⟨[], by simp, rfl, _, rfl⟩
  | case2 i => exact .ok ⟨[], by simp, rfl, _, rfl⟩

theorem signOf_operator (operator : Char) :
    Within (fun sign => (operator, sign) ∈ [('+', 1), ('-', -1), ('/', 0)]) (signOf operator) := by
  unfold signOf
  split
  case h_4 => exact .refused _
  all_goals exact .ok (by simp)

/-- The digits between two positions. -/
theorem charsBetween_eq (h : textFrom chars start = digits ++ rest)
    (hsize : start + digits.length ≤ chars.size) :
    charsBetween chars start (start + digits.length) = .ok digits := by
  rw [charsBetween, if_pos ⟨Nat.le_add_right start _, hsize⟩, Array.toList_extract,
    List.extract_eq_take_drop, ← textFrom, h, Nat.add_sub_cancel_left, List.take_left]

/-- What is counted between two positions is what the digits there denote. -/
theorem countBetween_eq (h : textFrom chars start = digits ++ rest) :
    countBetween chars start (start + digits.length) =
      if digits = [] then .ok 1 else readCount digits := by
  cases digits with
  | nil => simp [countBetween, pure, Except.pure]
  | cons c digits =>
    rw [countBetween, if_neg (by simp), charsBetween_eq h (add_length_le_size (by simp) h),
      if_neg (by simp)]
    rfl

theorem countBetween_countText (hdigits : ∀ c ∈ digits, c.isDigit)
    (h : textFrom chars start = digits ++ rest) :
    Within (CountText digits) (countBetween chars start (start + digits.length)) := by
  rw [countBetween_eq h]
  split
  next hnil => exact hnil ▸ .ok .absent
  next hne =>
    unfold readCount
    split
    · exact .refused _
    next hbound => exact .ok (.digits hne hdigits (Nat.le_pred_of_lt (Nat.lt_of_not_le hbound)))

theorem unitAt_letter (chars : Array Char) (i : Nat) :
    Within (fun unit => ∃ letter ∈ unit.letters, ∃ rest, textFrom chars i = letter :: rest)
      (unitAt chars i) := by
  unfold unitAt
  split
  next => exact .refused _
  next letter hletter =>
    split
    next => exact .refused _
    next unit hunit =>
      rw [getElem?_eq_head?_textFrom] at hletter
      exact .ok ⟨letter, DateUnit.ofChar?_eq_some_iff.1 hunit, _, List.eq_cons_of_mem_head? hletter⟩

/-- A step and what its operator, its digits and its letter make of it. -/
theorem ofSign_stepText {operator : Char} {sign : Int}
    (hsign : (operator, sign) ∈ [('+', 1), ('-', -1), ('/', 0)]) (hcount : CountText digits count)
    (hletter : letter ∈ unit.letters) :
    Within (StepText (operator :: (digits ++ [letter])))
      (ofSign sign count unit start (start + digits.length + 1)) := by
  simp only [List.mem_cons, Prod.mk.injEq, List.not_mem_nil, or_false] at hsign
  obtain ⟨rfl, rfl⟩ | ⟨rfl, rfl⟩ | ⟨rfl, rfl⟩ := hsign
  · exact .ok (by simpa using StepText.forward hcount hletter)
  · exact .ok (by simpa using StepText.back hcount hletter)
  · -- The distance is one just if there are no digits between the operator and the letter.
    rw [ofSign, if_pos rfl, distance, if_pos (by omega)]
    change Within _ (if start + digits.length + 1 - start = 1 then _ else _)
    split
    next hone =>
      obtain rfl : digits = [] := List.length_eq_zero_iff.1 (by omega)
      exact .ok (.floor hletter)
    next => exact .refused _

/-- A step that is read has a text of the grammar, and the position behind it is right. -/
theorem readStep_stepText (hi : i < chars.size) :
    Within (fun read => ∃ text, StepText text read.1 ∧ read.2 = i + text.length ∧
      ∃ rest, textFrom chars i = text ++ rest) (readStep chars i) := by
  unfold readStep
  -- From left to right, each part begins where the one before it ends.
  refine (charAt_textFrom hi).bind fun operator ⟨behind, hoperator⟩ => ?_
  refine (signOf_operator operator).bind fun sign hsign => ?_
  refine (digitsEnd_textFrom chars (i + 1)).bind fun stop ⟨digits, hdigits, hstop, tail, htail⟩ => ?_
  subst hstop
  refine (countBetween_countText hdigits htail).bind fun count hcount => ?_
  refine (unitAt_letter chars _).bind fun unit ⟨letter, hletter, rest, hrest⟩ => ?_
  refine (ofSign_stepText hsign hcount hletter).bind fun step hstep => ?_
  refine .ok ⟨_, hstep, by simp only [List.length_cons, List.length_append, List.length_nil]; omega,
    rest, ?_⟩
  rw [textFrom_add_length htail] at hrest
  rw [hoperator, ← textFrom_succ hoperator, htail, hrest]
  simp

/-- What is read from a position on are the steps of the text there. -/
theorem readFrom_stepsText (chars : Array Char) (i : Nat) :
    Within (StepsText (textFrom chars i)) (readFrom chars i) := by
  fun_induction readFrom chars i with
  | case1 i within step next hread ih =>
    have hstep := readStep_stepText within
    rw [hread] at hstep
    obtain ⟨text, htext, hnext, rest, hrest⟩ := hstep.of_ok
    -- What is left behind the step is what the induction hypothesis is about.
    obtain rfl : next = i + text.length := hnext
    rw [textFrom_add_length hrest] at ih
    exact ih.map fun steps hsteps => hrest ▸ .cons htext hsteps
  | case2 i within stop hread =>
    have hstep := readStep_stepText within
    rw [hread] at hstep
    exact hstep.of_error
  | case3 i within =>
    have hnil : textFrom chars i = [] := by
      rw [textFrom, List.drop_of_length_le (by simpa using within)]
    exact .ok (hnil ▸ .nil)

/-! ### The grammar is read -/

theorem charAt_eq {c : Char} (h : textFrom chars i = c :: rest) : charAt chars i = .ok c := by
  rw [charAt, getElem?_eq_head?_textFrom, h]
  rfl

theorem lt_size {c : Char} (h : textFrom chars i = c :: rest) : i < chars.size :=
  add_length_le_size (by simp) (show textFrom chars i = [c] ++ rest from h)

/-- Digits end at the letter behind them. -/
theorem digitsEnd_eq (hdigits : ∀ c ∈ digits, c.isDigit) (hletter : letter.isDigit = false)
    (h : textFrom chars i = digits ++ letter :: rest) :
    digitsEnd chars i = .ok (i + digits.length) := by
  induction digits generalizing i with
  | nil =>
    -- The position stands at the letter, which is no digit.
    rw [digitsEnd, dif_pos (lt_size h), charAt_eq h]
    simp [bind, Except.bind, hletter, pure, Except.pure]
  | cons c digits ih =>
    have hdigit : c.isDigit = true := hdigits c (by simp)
    have hrest := ih (fun d hd => hdigits d (by simp [hd])) (textFrom_succ h)
    rw [digitsEnd, dif_pos (lt_size h), charAt_eq h]
    simp only [bind, Except.bind, hdigit, if_true, hrest, List.length_cons]
    congr 1
    omega

theorem unitAt_eq (hletter : letter ∈ unit.letters) (h : textFrom chars i = letter :: rest) :
    unitAt chars i = .ok unit := by
  rw [unitAt, getElem?_eq_head?_textFrom, h]
  simp [DateUnit.ofChar?_eq_some_iff.2 hletter]

/-- The count of a text of the grammar. -/
theorem countBetween_of_countText (hcount : CountText digits count)
    (h : textFrom chars start = digits ++ rest) :
    countBetween chars start (start + digits.length) = .ok count := by
  rw [countBetween_eq h]
  cases hcount with
  | absent => rfl
  | digits hne _ hbound =>
    rw [if_neg hne, readCount, if_neg]
    exact Nat.not_le_of_lt (Nat.lt_of_le_pred (by decide) hbound)

theorem CountText.isDigit (hcount : CountText digits count) : ∀ c ∈ digits, c.isDigit := by
  cases hcount with
  | absent => simp
  | digits _ hdigits _ => exact hdigits

/-- What is read of a text is made of the sign of its operator, its count and its unit. -/
theorem readStep_of_parts {operator : Char} {sign : Int} (hsign : signOf operator = .ok sign)
    (hcount : CountText digits count) (hletter : letter ∈ unit.letters)
    (h : textFrom chars i = operator :: (digits ++ letter :: rest)) :
    readStep chars i =
      (ofSign sign count unit (i + 1) (i + (digits.length + 2))).map
        (·, i + (digits.length + 2)) := by
  have hbehind := textFrom_succ h
  have hend := digitsEnd_eq hcount.isDigit (DateUnit.isDigit_of_mem_letters hletter) hbehind
  have hunit := unitAt_eq hletter (textFrom_add_length hbehind)
  have hnext : i + 1 + digits.length + 1 = i + (digits.length + 2) := by omega
  simp only [readStep, charAt_eq h, hsign, hend, countBetween_of_countText hcount hbehind, hunit,
    bind, Except.bind, hnext]
  rfl

/-- A text of a step is read as the step. -/
theorem readStep_of_stepText (htext : StepText text step) (h : textFrom chars i = text ++ rest) :
    readStep chars i = .ok (step, i + text.length) := by
  cases htext with
  | @forward digits count letter unit hcount hletter =>
    rw [readStep_of_parts rfl hcount hletter (by simpa using h)]
    simp [ofSign, Except.map, pure, Except.pure]
  | @back digits count letter unit hcount hletter =>
    rw [readStep_of_parts rfl hcount hletter (by simpa using h)]
    simp [ofSign, Except.map, pure, Except.pure]
  | @floor letter unit hletter =>
    rw [readStep_of_parts rfl .absent hletter (by simpa using h)]
    simp [ofSign, distance, Except.map, bind, Except.bind, pure, Except.pure]

/-- A text of steps is read as the steps. -/
theorem readFrom_of_stepsText (htext : StepsText text steps) (h : textFrom chars i = text) :
    readFrom chars i = .ok steps := by
  induction htext generalizing i with
  | nil =>
    have hsize : ¬ i < chars.size := by simpa [textFrom] using h
    rw [readFrom, dif_neg hsize]
  | @cons text rest step steps hstep hsteps ih =>
    have hsize : i < chars.size := by
      have hpos : 0 < text.length := by cases hstep <;> simp
      have := add_length_le_size (List.ne_nil_of_length_pos hpos) h
      omega
    have hread := readStep_of_stepText hstep h
    -- Reading goes on behind the step, where the text of the others begins.
    rw [readFrom, dif_pos hsize]
    split
    next step' next hread' =>
      obtain ⟨rfl, rfl⟩ : step = step' ∧ i + text.length = next := by
        simpa [hread] using hread'
      rw [ih (textFrom_add_length h)]
      rfl
    next stop hstop => simp [hread] at hstop

/-- The steps of a text are those that are read from its first position on. -/
theorem readAll_eq_ok_iff_readFrom :
    readAll text = .ok steps ↔ readFrom text.toArray 0 = .ok steps := by
  unfold readAll
  split
  next hread => simp [hread]
  next hread => simp [hread]
  next hread => exact absurd hread (readFrom_within text.toArray 0).ne_outside

/-- A text is read as some steps just if it is a text of these steps. -/
theorem readAll_eq_ok_iff_stepsText : readAll text = .ok steps ↔ StepsText text steps := by
  have htext : textFrom text.toArray 0 = text := by simp [textFrom]
  rw [readAll_eq_ok_iff_readFrom]
  constructor
  · intro hread
    have hsteps := readFrom_stepsText text.toArray 0
    rw [hread, htext] at hsteps
    exact hsteps.of_ok
  · intro hsteps
    exact readFrom_of_stepsText hsteps htext

/-! ### Texts for given steps -/

/-- The text of a step, with its amount in decimal digits. -/
def toText : DateStep → List Char
  | .add amount unit =>
    (if amount < 0 then '-' else '+') :: (Nat.toDigits 10 amount.natAbs ++ [unit.letter])
  | .floor unit => ['/', unit.letter]

/-- The amount of a step has 63 bits apart from its sign. -/
def Fits : DateStep → Prop
  | .add amount _ => amount.natAbs ≤ Nat.pow 2 63 - 1
  | .floor _ => True

instance : DecidablePred Fits := fun step =>
  match step with
  | .add amount _ => inferInstanceAs (Decidable (amount.natAbs ≤ Nat.pow 2 63 - 1))
  | .floor _ => inferInstanceAs (Decidable True)

/-- The decimal digits of a count are a text of it. -/
theorem countText_toDigits (h : count ≤ Nat.pow 2 63 - 1) : CountText (Nat.toDigits 10 count) count := by
  have hvalue : digitsValue (Nat.toDigits 10 count) = count := Nat.ofDigitChars_ten_toDigits
  have htext : CountText (Nat.toDigits 10 count) (digitsValue (Nat.toDigits 10 count)) :=
    .digits Nat.toDigits_ne_nil (fun c hc => Nat.isDigit_of_mem_toDigits (by decide) (by decide) hc)
      (hvalue.symm ▸ h)
  rwa [hvalue] at htext

theorem stepText_toText (h : step.Fits) : StepText step.toText step := by
  cases step with
  | add amount unit =>
    have hcount := countText_toDigits h
    rw [toText]
    split
    next hneg =>
      have hamount : amount = -(amount.natAbs : Int) := by omega
      have := StepText.back hcount (List.head_mem unit.letters_ne_nil)
      rwa [← hamount] at this
    next hnonneg =>
      have hamount : amount = (amount.natAbs : Int) := by omega
      have := StepText.forward hcount (List.head_mem unit.letters_ne_nil)
      rwa [← hamount] at this
  | floor unit => exact .floor (List.head_mem unit.letters_ne_nil)

theorem stepsText_flatMap_toText (h : ∀ step ∈ steps, step.Fits) :
    StepsText (steps.flatMap toText) steps := by
  induction steps with
  | nil => exact .nil
  | cons step steps ih =>
    rw [List.flatMap_cons]
    exact .cons (stepText_toText (h step (by simp))) (ih fun s hs => h s (by simp [hs]))

/-- The reader of date arithmetic accepts the texts of the grammar and gives their steps, and it
refuses every other text; steps whose amounts have 63 bits are what their own text is read as. It
ends at whatever position it starts, and never looks outside of the text. -/
theorem readAll_correct :
    (∀ math steps, readAll math = .ok steps ↔ StepsText math steps) ∧
      (∀ steps : List DateStep, (∀ step ∈ steps, step.Fits) →
        readAll (steps.flatMap toText) = .ok steps) ∧
      ∀ (chars : Array Char) (i : Nat), (∃ steps, readFrom chars i = .ok steps) ∨
        ∃ error, readFrom chars i = .error (.refused error) := by
  refine ⟨fun _ _ => readAll_eq_ok_iff_stepsText, fun steps hsteps => ?_, fun chars i => ?_⟩
  · exact readAll_eq_ok_iff_stepsText.2 (stepsText_flatMap_toText hsteps)
  · generalize hread : readFrom chars i = outcome
    cases hread ▸ readFrom_within chars i with
    | ok => exact .inl ⟨_, rfl⟩
    | refused error => exact .inr ⟨error, rfl⟩

/-- The greatest counts, which are read back from their text, and a text with zeros in front of
digits, a missing count and the other letter of hours. -/
theorem readAll_correct_bounds :
    let steps : List DateStep := [.add 9223372036854775807 .year,
      .add (-9223372036854775807) .second, .add 0 .hour, .floor .week]
    (∀ step ∈ steps, step.Fits) ∧
      steps.flatMap toText = "+9223372036854775807y-9223372036854775807s+0h/w".toList ∧
      readAll (steps.flatMap toText) = .ok steps ∧
      readAll "+007H-d/M".toList = .ok [.add 7 .hour, .add (-1) .day, .floor .month] := by
  intro steps
  have hfits : ∀ step ∈ steps, step.Fits := by decide
  have hgrammar : StepsText "+007H-d/M".toList [.add 7 .hour, .add (-1) .day, .floor .month] :=
    .cons (.forward (@CountText.digits ['0', '0', '7'] (by simp) (by simp) (by decide))
        (by decide))
      (.cons (.back .absent (by decide)) (.cons (.floor (by decide)) .nil))
  exact ⟨hfits, by decide, readAll_correct.2.1 steps hfits, (readAll_correct.1 _ _).2 hgrammar⟩

end DateStep

end AccessPolicy
