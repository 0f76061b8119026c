import AccessPolicy.Pattern.RegexReader
import AccessPolicy.Proofs.Pattern.Spans

/-!
# Matched parts of a text

What an expression matches between two positions, as the part of the text that stands there
(`Regex.PartAt`). Characters and runs of characters match the parts that consist of them, and an
expression between the two anchors matches a text exactly if it matches the text as a whole
(`Regex.isMatch_anchored_iff`).
-/

namespace AccessPolicy.Pattern.Regex

variable {text : List Char} {i j : Nat}

/-- The part of the text between two positions. -/
def PartAt (text : List Char) (i : Nat) (part : List Char) (j : Nat) : Prop :=
  j = i + part.length ∧ text.drop i = part ++ text.drop j

theorem partAt_nil : PartAt text i [] j ↔ i = j := by
  constructor
  · exact fun h => h.1.symm
  · rintro rfl
    exact ⟨rfl, rfl⟩

/-- Parts that stand one behind the other make up a longer one. -/
theorem partAt_append {part rest : List Char} :
    PartAt text i (part ++ rest) j ↔ ∃ k, PartAt text i part k ∧ PartAt text k rest j := by
  constructor
  · rintro ⟨hj, htext⟩
    have hrest : text.drop (i + part.length) = rest ++ text.drop j := by
      rw [← List.drop_drop, htext, List.append_assoc, List.drop_left]
    refine ⟨i + part.length, ⟨rfl, ?_⟩, ?_, hrest⟩
    · rw [htext, hrest, List.append_assoc]
    · rw [hj, List.length_append, Nat.add_assoc]
  · rintro ⟨k, ⟨hk, hpart⟩, hj, hrest⟩
    refine ⟨?_, ?_⟩
    · rw [hj, hk, List.length_append, Nat.add_assoc]
    · rw [hpart, hrest, List.append_assoc]

theorem partAt_singleton {c : Char} : PartAt text i [c] j ↔ j = i + 1 ∧ text[i]? = some c := by
  constructor
  · rintro ⟨rfl, htext⟩
    refine ⟨rfl, ?_⟩
    rw [← List.head?_drop, htext]
    rfl
  · rintro ⟨rfl, hc⟩
    obtain ⟨hi, rfl⟩ := List.getElem?_eq_some_iff.1 hc
    exact ⟨rfl, List.drop_eq_getElem_cons hi⟩

/-- The part from the start to the end is the whole text. -/
theorem partAt_zero_length {part : List Char} : PartAt text 0 part text.length ↔ part = text := by
  constructor
  · rintro ⟨-, htext⟩
    simpa using htext.symm
  · rintro rfl
    simp [PartAt]

/-- A part stands between the rest of the text on both sides. -/
theorem partAt_iff_append {part : List Char} (hne : part ≠ []) :
    PartAt text i part j ↔
      ∃ front back, front.length = i ∧ (front ++ part).length = j ∧
        text = front ++ part ++ back := by
  constructor
  · rintro ⟨rfl, htext⟩
    have hi : i ≤ text.length := by
      refine Nat.le_of_not_lt fun hle => ?_
      rw [List.drop_of_length_le (Nat.le_of_lt hle)] at htext
      exact hne (List.append_eq_nil_iff.1 htext.symm).1
    have hlength : (text.take i).length = i := List.length_take_of_le hi
    refine ⟨text.take i, text.drop (i + part.length), hlength, ?_, ?_⟩
    · rw [List.length_append, hlength]
    · rw [List.append_assoc, ← htext, List.take_append_drop]
  · rintro ⟨front, back, rfl, rfl, rfl⟩
    simp [PartAt]

/-! ### Characters and runs -/

variable {cls : CharClass}

theorem spans_char_iff : Spans text (.char cls) i j ↔ ∃ c, cls c = true ∧ PartAt text i [c] j := by
  simp only [partAt_singleton]
  constructor
  · rintro ⟨hj, c, hc, hcls⟩
    exact ⟨c, hcls, hj, hc⟩
  · rintro ⟨c, hcls, hj, hc⟩
    exact ⟨hj, c, hc, hcls⟩

theorem spans_literal_iff {c : Char} : Spans text (literal c) i j ↔ PartAt text i [c] j := by
  simp [literal, spans_char_iff, CharClass.single]

theorem steps_char_iff {n : Nat} :
    Steps (Spans text (.char cls)) n i j ↔
      ∃ part, part.length = n ∧ (∀ c ∈ part, cls c = true) ∧ PartAt text i part j := by
  induction n generalizing i with
  | zero =>
    constructor
    · exact fun hij => ⟨[], rfl, by simp, partAt_nil.2 hij⟩
    · rintro ⟨part, hlength, -, hpart⟩
      rw [List.eq_nil_of_length_eq_zero hlength, partAt_nil] at hpart
      exact hpart
  | succ n ih =>
    simp only [Steps, ih, spans_char_iff]
    constructor
    · rintro ⟨k, ⟨c, hc, hik⟩, part, hlength, hpart, hkj⟩
      exact ⟨c :: part, by simp [hlength], List.forall_mem_cons.2 ⟨hc, hpart⟩,
        partAt_append.2 ⟨k, hik, hkj⟩⟩
    · rintro ⟨part, hlength, hpart, hij⟩
      obtain ⟨c, part, rfl⟩ := List.exists_cons_of_length_eq_add_one hlength
      have hij : PartAt text i ([c] ++ part) j := hij
      obtain ⟨k, hik, hkj⟩ := partAt_append.1 hij
      obtain ⟨hc, hpart⟩ := List.forall_mem_cons.1 hpart
      exact ⟨k, ⟨c, hc, hik⟩, part, Nat.succ.inj hlength, hpart, hkj⟩

/-- A repeated class matches the runs of its characters that are not too long. -/
theorem spans_run_iff {most : Option Nat} :
    Spans text (.times (.char cls) 0 most) i j ↔
      ∃ part, (∀ m, most = some m → part.length ≤ m) ∧ (∀ c ∈ part, cls c = true) ∧
        PartAt text i part j := by
  constructor
  -- The number of rounds is the length of the part.
  · rintro ⟨n, -, hmost, hsteps⟩
    obtain ⟨part, rfl, hpart, hij⟩ := steps_char_iff.1 hsteps
    exact ⟨part, fun m hm => by simpa using hmost m hm, hpart, hij⟩
  · rintro ⟨part, hmost, hpart, hij⟩
    exact ⟨part.length, Nat.zero_le _, fun m hm => by simpa using hmost m hm,
      steps_char_iff.2 ⟨part, rfl, hpart, hij⟩⟩

/-! ### Leftmost matches -/

/-- No match begins in front of this one, and no other one where it begins. -/
structure LeftmostMatch (r : Regex) (text : List Char) (i j : Nat) : Prop where
  /-- It is a match. -/
  spans : Spans text r i j
  /-- No match begins in front of it. -/
  le {k l : Nat} : Spans text r k l → i ≤ k
  /-- No other match begins where it does. -/
  unique {l : Nat} : Spans text r i l → l = j

/-! ### The dot -/

/-- The characters that the dot matches under some flags. -/
def dotClass (flags : RegexFlags) : CharClass := fun c =>
  flags.dotAll || (c ≠ '\n' && !(flags.carriageReturns && c = '\r'))

theorem dotClass_default : dotClass {} = CharClass.notLineFeed := by
  funext c
  simp [dotClass, CharClass.notLineFeed]

theorem forall_notLineFeed_iff {part : List Char} :
    (∀ c ∈ part, CharClass.notLineFeed c = true) ↔ '\n' ∉ part := by
  simp only [CharClass.notLineFeed, decide_eq_true_eq]
  exact ⟨fun h hmem => h _ hmem rfl, fun h c hc heq => h (heq ▸ hc)⟩

/-! ### Anchored expressions -/

/-- Without flags the start of a line is the start of the text. -/
theorem spans_lineStart_iff :
    Spans text (.look ({} : RegexFlags).lineStart) i j ↔ i = 0 ∧ i = j := by
  have hstart : (charBefore none text i).isNone = true ↔ i = 0 ∨ text.length < i := by
    cases i with
    | zero => simp [charBefore]
    | succ i =>
      rw [charBefore, Option.isNone_iff_eq_none, List.getElem?_eq_none_iff]
      omega
  simp only [Spans, RegexFlags.lineStart, Bool.not_false, if_true]
  rw [hstart]
  omega

/-- Without flags the end of a line is the end of the text. -/
theorem spans_lineEnd_iff :
    Spans text (.look ({} : RegexFlags).lineEnd) i j ↔ i = text.length ∧ i = j := by
  simp only [Spans, RegexFlags.lineEnd, Bool.not_false, if_true, Option.isNone_iff_eq_none,
    List.getElem?_eq_none_iff]
  omega

/-- An expression that starts at the start of the text and is followed by the end of the text
matches the text as a whole. -/
theorem isMatch_anchored_iff {body : Regex} {p : List Char → Prop}
    (h : ∀ i j, Spans text body i j ↔ i = 0 ∧ ∃ part, p part ∧ PartAt text 0 part j) :
    (Regex.seq body (.look ({} : RegexFlags).lineEnd)).isMatch text = true ↔ p text := by
  rw [isMatch_iff]
  simp only [spans_seq_iff, spans_lineEnd_iff, h]
  constructor
  · rintro ⟨i, -, j, k, ⟨-, part, hpart, hat⟩, rfl, -⟩
    rwa [← partAt_zero_length.1 hat]
  · intro htext
    exact ⟨0, Nat.zero_le _, text.length, text.length,
      ⟨rfl, text, htext, partAt_zero_length.2 rfl⟩, rfl, rfl⟩

end AccessPolicy.Pattern.Regex
