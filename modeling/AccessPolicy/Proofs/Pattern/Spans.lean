import AccessPolicy.Pattern.Regex
import Mathlib.Logic.Function.Iterate

/-!
# What regular expressions match

A regular expression matches a text from one position to another (`Regex.Spans`), which is defined
by the expression alone. The search for a match follows sets of positions instead; it reaches the
positions where a match ends and no others (`Regex.testBit_ends`), so a text has a match exactly
if the expression spans a part of it (`Regex.isMatch_iff`).
-/

namespace AccessPolicy.Pattern.Regex

/-! ### Steps between positions -/

section Steps

/-- The given number of steps along a relation between positions. -/
def Steps (R : Nat → Nat → Prop) : Nat → Nat → Nat → Prop
  | 0, i, j => i = j
  | n + 1, i, j => ∃ k, R i k ∧ Steps R n k j

/-- Steps that go forward in a text of a given length, if they move at all. -/
def Advances (length : Nat) (R : Nat → Nat → Prop) : Prop :=
  ∀ i j, R i j → i ≤ j ∧ (i < j → j ≤ length)

variable {R : Nat → Nat → Prop} {length : Nat}

theorem steps_add {m n i j : Nat} : Steps R (m + n) i j ↔ ∃ k, Steps R m i k ∧ Steps R n k j := by
  induction m generalizing i with
  | zero => simp [Steps]
  | succ m ih =>
    rw [Nat.succ_add]
    simp only [Steps, ih]
    constructor
    · rintro ⟨k, hik, l, hkl, hlj⟩
      exact ⟨l, ⟨k, hik, hkl⟩, hlj⟩
    · rintro ⟨l, ⟨k, hik, hkl⟩, hlj⟩
      exact ⟨k, hik, l, hkl, hlj⟩

theorem Advances.steps (h : Advances length R) (n : Nat) : Advances length (Steps R n) := by
  induction n with
  | zero =>
    intro i j hij
    have hij : i = j := hij
    omega
  | succ n ih =>
    rintro i j ⟨k, hik, hkj⟩
    have hfirst := h i k hik
    have hrest := ih k j hkj
    omega

/-- A step that does not move can be left out, so no more steps are needed than there are
characters. -/
theorem Advances.exists_steps_le (h : Advances length R) {n i j : Nat} (hij : Steps R n i j) :
    ∃ m ≤ length, Steps R m i j := by
  -- Every step that is kept uses up a character of the distance.
  have hshort : ∃ m ≤ j - i, Steps R m i j := by
    induction n generalizing i with
    | zero => exact ⟨0, Nat.zero_le _, hij⟩
    | succ n ih =>
      obtain ⟨k, hik, hkj⟩ := hij
      obtain ⟨m, hm, hsteps⟩ := ih hkj
      have hrest := (h.steps n k j hkj).1
      rcases Nat.eq_or_lt_of_le (h i k hik).1 with rfl | hlt
      · exact ⟨m, hm, hsteps⟩
      · exact ⟨m + 1, by omega, k, hik, hsteps⟩
  obtain ⟨m, hm, hsteps⟩ := hshort
  have hbounds := h.steps n i j hij
  exact ⟨m, by omega, hsteps⟩

/-- A set that no step leaves is not left by several steps either. -/
theorem mem_of_steps {p : Nat → Prop} (hclosed : ∀ i j, p i → R i j → p j) {n i j : Nat}
    (hi : p i) (hij : Steps R n i j) : p j := by
  induction n generalizing i with
  | zero =>
    have hij : i = j := hij
    rwa [← hij]
  | succ n ih =>
    obtain ⟨k, hik, hkj⟩ := hij
    exact ih (hclosed i k hi hik) hkj

end Steps

/-! ### Following a relation from a set of positions -/

section Follow

variable {f : Nat → Nat} {R : Nat → Nat → Prop}
  (hf : ∀ positions j, (f positions).testBit j = true ↔
    ∃ i, positions.testBit i = true ∧ R i j)

include hf

theorem testBit_applyTimes (n positions j : Nat) :
    (applyTimes f n positions).testBit j = true ↔
      ∃ i, positions.testBit i = true ∧ Steps R n i j := by
  have hiterate : ∀ n positions, applyTimes f n positions = f^[n] positions := by
    intro n
    induction n with
    | zero => exact fun _ => rfl
    | succ n ih =>
      intro positions
      rw [applyTimes, Function.iterate_succ_apply]
      -- Where nothing changes, more rounds would change nothing either.
      split
      next hfixed => rw [hfixed, Function.iterate_fixed hfixed]
      next => exact ih _
  rw [hiterate]
  induction n generalizing positions with
  | zero => simp [Steps]
  | succ n ih =>
    rw [Function.iterate_succ_apply]
    refine (ih (f positions)).trans ?_
    simp only [hf, Steps]
    constructor
    · rintro ⟨k, ⟨i, hi, hik⟩, hkj⟩
      exact ⟨i, hi, k, hik, hkj⟩
    · rintro ⟨i, hi, k, hik, hkj⟩
      exact ⟨k, ⟨i, hi, hik⟩, hkj⟩

theorem testBit_saturate (n positions j : Nat) :
    (saturate f n positions).testBit j = true ↔
      ∃ m ≤ n, ∃ i, positions.testBit i = true ∧ Steps R m i j := by
  induction n generalizing positions with
  | zero => simp [saturate, Steps]
  | succ n ih =>
    have hnext (i : Nat) : (positions ||| f positions).testBit i = true ↔
        positions.testBit i = true ∨ ∃ k, positions.testBit k = true ∧ R k i := by
      rw [Nat.testBit_or, Bool.or_eq_true, hf]
    rw [saturate]
    split
    next hfixed =>
      -- Nothing new is in reach, so further steps stay within the set.
      have hclosed : ∀ i j, positions.testBit i = true → R i j → positions.testBit j = true := by
        intro i j hi hij
        rw [← hfixed]
        exact (hnext j).2 (.inr ⟨i, hi, hij⟩)
      constructor
      · exact fun hj => ⟨0, Nat.zero_le _, j, hj, rfl⟩
      · rintro ⟨m, -, i, hi, hij⟩
        exact mem_of_steps hclosed hi hij
    next =>
      rw [ih]
      constructor
      · rintro ⟨m, hm, i, hi, hij⟩
        -- A position that the first round added is one step away from the set.
        rcases (hnext i).1 hi with hi | ⟨k, hk, hki⟩
        · exact ⟨m, by omega, i, hi, hij⟩
        · exact ⟨m + 1, by omega, k, hk, i, hki, hij⟩
      · rintro ⟨m, hm, i, hi, hij⟩
        cases m with
        | zero => exact ⟨0, Nat.zero_le _, i, (hnext i).2 (.inl hi), hij⟩
        | succ m =>
          obtain ⟨k, hik, hkj⟩ := hij
          exact ⟨m, by omega, k, (hnext k).2 (.inr ⟨i, hi, hik⟩), hkj⟩

end Follow

/-! ### Single characters and their neighbours -/

section Masks

theorem testBit_bit_zero (b : Bool) (n : Nat) :
    ((if b then 1 else 0) + 2 * n).testBit 0 = b := by
  cases b <;> simp [Nat.testBit_zero]

theorem testBit_bit_succ (b : Bool) (n i : Nat) :
    ((if b then 1 else 0) + 2 * n).testBit (i + 1) = n.testBit i := by
  have hhalf : ((if b then 1 else 0) + 2 * n) / 2 = n := by
    split <;> omega
  rw [Nat.testBit_succ, hhalf]

theorem testBit_classMask (cls : CharClass) (text : List Char) (i : Nat) :
    (classMask cls text).testBit i = true ↔ ∃ c, text[i]? = some c ∧ cls c = true := by
  induction text generalizing i with
  | nil => simp [classMask]
  | cons c cs ih =>
    cases i with
    | zero =>
      rw [classMask, testBit_bit_zero]
      simp
    | succ i => simp [classMask, testBit_bit_succ, ih]

/-- The character in front of a position, in a text that follows `before`. -/
def charBefore (before : Option Char) (text : List Char) : Nat → Option Char
  | 0 => before
  | i + 1 => text[i]?

theorem testBit_lookMask (holds : Option Char → Option Char → Bool) (before : Option Char)
    (text : List Char) (i : Nat) :
    (lookMask holds before text).testBit i = true ↔
      i ≤ text.length ∧ holds (charBefore before text i) text[i]? = true := by
  induction text generalizing before i with
  | nil =>
    cases hholds : holds before none <;> cases i <;>
      simp [lookMask, charBefore, hholds, Nat.testBit_succ]
  | cons c cs ih =>
    cases i with
    | zero =>
      rw [lookMask, testBit_bit_zero]
      simp [charBefore]
    | succ i =>
      rw [lookMask, testBit_bit_succ, ih]
      cases i <;> simp [charBefore]

end Masks

/-! ### Matches from one position to another -/

/-- The expression matches the part of the text between two positions. -/
def Spans (text : List Char) : Regex → Nat → Nat → Prop
  | .empty => fun i j => i = j
  | .char cls => fun i j => j = i + 1 ∧ ∃ c, text[i]? = some c ∧ cls c = true
  | .look holds => fun i j =>
    i = j ∧ i ≤ text.length ∧ holds (charBefore none text i) text[i]? = true
  | .seq first second => fun i j => ∃ k, Spans text first i k ∧ Spans text second k j
  | .alt first second => fun i j => Spans text first i j ∨ Spans text second i j
  | .times body least most => fun i j =>
    ∃ n, least ≤ n ∧ (∀ m, most = some m → n ≤ max least m) ∧ Steps (Spans text body) n i j

variable {text : List Char}

theorem spans_seq_iff {first second : Regex} {i j : Nat} :
    Spans text (.seq first second) i j ↔ ∃ k, Spans text first i k ∧ Spans text second k j :=
  Iff.rfl

theorem advances_spans (r : Regex) : Advances text.length (Spans text r) := by
  induction r with
  | empty =>
    intro i j hij
    have hij : i = j := hij
    omega
  | char cls =>
    rintro i j ⟨rfl, c, hc, -⟩
    have hi : i < text.length := (List.getElem?_eq_some_iff.1 hc).1
    omega
  | look holds =>
    rintro i j ⟨rfl, -⟩
    omega
  | seq first second ihfirst ihsecond =>
    rintro i j ⟨k, hik, hkj⟩
    have hfirst := ihfirst i k hik
    have hsecond := ihsecond k j hkj
    omega
  | alt first second ihfirst ihsecond =>
    rintro i j (hij | hij)
    · exact ihfirst i j hij
    · exact ihsecond i j hij
  | times body least most ih =>
    rintro i j ⟨n, -, -, hij⟩
    exact ih.steps n i j hij

/-- A repetition is the least number of rounds and then as many more as are allowed, or as many
as can make a difference. -/
theorem spans_times_iff {body : Regex} {least : Nat} {most : Option Nat} {i j : Nat} :
    Spans text (.times body least most) i j ↔
      ∃ k, Steps (Spans text body) least i k ∧
        ∃ m ≤ (most.map (· - least)).getD (text.length + 1), Steps (Spans text body) m k j := by
  constructor
  · rintro ⟨n, hleast, hmost, hij⟩
    obtain ⟨extra, rfl⟩ := Nat.exists_eq_add_of_le hleast
    obtain ⟨k, hik, hkj⟩ := steps_add.1 hij
    refine ⟨k, hik, ?_⟩
    cases most with
    | none =>
      -- Rounds without a bound are cut down to as many as there are characters.
      obtain ⟨m, hm, hkj⟩ := (advances_spans body).exists_steps_le hkj
      exact ⟨m, Nat.le_succ_of_le hm, hkj⟩
    | some most =>
      have hbound := hmost most rfl
      exact ⟨extra, by simp; omega, hkj⟩
  · rintro ⟨k, hik, m, hm, hkj⟩
    refine ⟨least + m, Nat.le_add_right least m, ?_, steps_add.2 ⟨k, hik, hkj⟩⟩
    rintro most rfl
    simp at hm
    omega

/-- Following an expression from a set of positions leads to the ends of its matches. -/
theorem testBit_ends (r : Regex) (positions j : Nat) :
    (ends text r positions).testBit j = true ↔
      ∃ i, positions.testBit i = true ∧ Spans text r i j := by
  induction r generalizing positions j with
  | empty => simp [ends, Spans]
  | char cls =>
    rw [ends]
    cases j with
    | zero => simp [Spans, Nat.testBit_zero]
    | succ j =>
      have hhalf : 2 * (positions &&& classMask cls text) / 2 = positions &&& classMask cls text :=
        Nat.mul_div_cancel_left _ (by decide)
      rw [Nat.testBit_succ, hhalf, Nat.testBit_and, Bool.and_eq_true, testBit_classMask]
      constructor
      · rintro ⟨hj, hc⟩
        exact ⟨j, hj, rfl, hc⟩
      · rintro ⟨i, hi, hij, hc⟩
        rw [Nat.succ.inj hij]
        exact ⟨hi, hc⟩
  | look holds =>
    rw [ends, Nat.testBit_and, Bool.and_eq_true, testBit_lookMask]
    constructor
    · rintro ⟨hj, hholds⟩
      exact ⟨j, hj, rfl, hholds⟩
    · rintro ⟨i, hi, rfl, hholds⟩
      exact ⟨hi, hholds⟩
  | seq first second ihfirst ihsecond =>
    simp only [ends, ihsecond, ihfirst, Spans]
    constructor
    · rintro ⟨k, ⟨i, hi, hik⟩, hkj⟩
      exact ⟨i, hi, k, hik, hkj⟩
    · rintro ⟨i, hi, k, hik, hkj⟩
      exact ⟨k, ⟨i, hi, hik⟩, hkj⟩
  | alt first second ihfirst ihsecond =>
    rw [ends, Nat.testBit_or, Bool.or_eq_true, ihfirst, ihsecond, ← exists_or]
    exact exists_congr fun i => and_or_left.symm
  | times body least most ih =>
    -- The least number of rounds is followed first, and then what may come on top of it.
    have hends : (ends text (.times body least most) positions).testBit j = true ↔
        ∃ m ≤ (most.map (· - least)).getD (text.length + 1), ∃ k,
          (∃ i, positions.testBit i = true ∧ Steps (Spans text body) least i k) ∧
            Steps (Spans text body) m k j := by
      cases most <;> simp only [ends, testBit_saturate ih, testBit_applyTimes ih, Option.map_none,
        Option.map_some, Option.getD_none, Option.getD_some]
    rw [hends]
    simp only [spans_times_iff]
    constructor
    · rintro ⟨m, hm, k, ⟨i, hi, hik⟩, hkj⟩
      exact ⟨i, hi, k, hik, m, hm, hkj⟩
    · rintro ⟨i, hi, k, hik, m, hm, hkj⟩
      exact ⟨m, hm, k, ⟨i, hi, hik⟩, hkj⟩

/-- A text has a match exactly if the expression spans a part of it. -/
theorem isMatch_iff (r : Regex) (text : List Char) :
    r.isMatch text = true ↔ ∃ i ≤ text.length, ∃ j, Spans text r i j := by
  have hsome : r.isMatch text = true ↔ ∃ j, (ends text r (allPositions text)).testBit j = true := by
    rw [isMatch, bne_iff_ne]
    constructor
    · exact Nat.exists_testBit_of_ne_zero
    · rintro ⟨j, hj⟩ hzero
      rw [hzero, Nat.zero_testBit] at hj
      cases hj
  rw [hsome]
  simp only [testBit_ends, allPositions, Nat.pow_eq, Nat.testBit_two_pow_sub_one, decide_eq_true_eq,
    Nat.lt_succ_iff]
  constructor
  · rintro ⟨j, i, hi, hij⟩
    exact ⟨i, hi, j, hij⟩
  · rintro ⟨i, hi, j, hij⟩
    exact ⟨j, i, hi, hij⟩

end AccessPolicy.Pattern.Regex
