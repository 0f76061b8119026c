import AccessPolicy.Pattern.Wildcard
import AccessPolicy.Proofs.Pattern.Parts
import AccessPolicy.Proofs.Text.Pieces
import Mathlib.Tactic.SplitIfs

/-!
# What wildcard patterns match

A wildcard pattern becomes a regular expression character by character
(`wildcardSource_eq`), which is read item by item (`read?_wildcardSource`). So every wildcard
pattern can be read, and it matches the texts that it fits: those that can be cut into parts, one
for each character of the pattern (`Fits`, `matchesText_wildcard_iff`).
-/

namespace AccessPolicy.Pattern

/-! ### From patterns to texts of regular expressions -/

/-- What a character of a pattern becomes. -/
def wildcardPart (c : Char) : List Char :=
  if c = '*' then ['.', '*']
  else if c = '?' then ['.', '?']
  else if isMeta c then ['\\', c] else [c]

/-- The characters of a pattern become parts of the expression one by one. -/
theorem wildcardSource_eq (pattern : List Char) :
    wildcardSource pattern = '^' :: (pattern.flatMap wildcardPart ++ ['$']) := by
  have hquestion : ∀ c, c ≠ '?' → '?' ∉ (if isMeta c then ['\\', c] else [c]) := by
    intro c hc
    split <;> simp [Ne.symm hc]
  have hstar : ∀ c, c ≠ '*' →
      '*' ∉ (if c = '?' then ['.', '?'] else if isMeta c then ['\\', c] else [c]) := by
    intro c hc
    split
    · decide
    · split <;> simp [Ne.symm hc]
  -- Question marks are replaced first, which leaves the parts of stars as they are.
  rw [wildcardSource, escape, Text.replaceAll_flatMap rfl hquestion (by decide),
    Text.replaceAll_flatMap rfl hstar (by decide)]
  rfl

/-! ### Reading the expression of a pattern -/

open Regex

/-- The regular expression that a character of a pattern stands for. -/
def wildcardItem (c : Char) : Regex :=
  if c = '*' then .times (.char CharClass.notLineFeed) 0 none
  else if c = '?' then .times (.char CharClass.notLineFeed) 0 (some 1)
  else literal c

/-- The regular expressions of the characters of a pattern, behind another one. -/
def wildcardItems (first : Regex) (pattern : List Char) : Regex :=
  pattern.foldl (fun r c => .seq r (wildcardItem c)) first

/-- Whether a character has a meaning of its own in a regular expression outside of classes. -/
def isOperator (c : Char) : Bool :=
  c ∈ ['\\', '.', '+', '*', '?', '(', ')', '[', ']', '\x7b', '\x7d', '|', '^', '$']

/-- The characters that are not escaped have no meaning of their own. -/
theorem isOperator_of_isMeta {c : Char} (h : isMeta c = false) : isOperator c = false := by
  simp only [isMeta, isOperator, decide_eq_false_iff_not] at h ⊢
  exact fun hc => h (List.subset_def.1 (by decide) hc)

theorem dot?_default : ({} : RegexFlags).dot? = some CharClass.notLineFeed := by
  rw [← dotClass_default]
  rfl

/-- An escaped character stands for itself. -/
theorem readEscape?_of_isMeta {c : Char} (h : isMeta c = true) (rest : List Char) :
    readEscape? {} (c :: rest) = some (.literal c false, rest) := by
  simp only [isMeta, List.mem_cons, List.not_mem_nil, or_false, decide_eq_true_eq] at h
  rcases h with rfl | rfl | rfl | rfl | rfl | rfl | rfl | rfl | rfl | rfl | rfl | rfl | rfl | rfl |
    rfl | rfl | rfl | rfl <;> rfl

section Read

variable (branch : RegexBranch) (outer : List RegexLevel) (names : List (List Char)) (fuel : Nat)
  (rest : List Char)

theorem readRegex?_escaped {c : Char} (h : isMeta c = true) :
    readRegex? (fuel + 1) ⟨none, branch, {}⟩ outer names ('\\' :: c :: rest) =
      readRegex? fuel ⟨none, branch.push (literal c), {}⟩ outer names rest := by
  rw [readRegex?.eq_2]
  simp only [RegexFlags.skip, Bool.false_eq_true, if_false, readEscape?_of_isMeta h]
  rfl

theorem readRegex?_plain {c : Char} (h : isOperator c = false) :
    readRegex? (fuel + 1) ⟨none, branch, {}⟩ outer names (c :: rest) =
      readRegex? fuel ⟨none, branch.push (literal c), {}⟩ outer names rest := by
  simp only [isOperator, List.mem_cons, List.not_mem_nil, or_false, decide_eq_false_iff_not,
    not_or] at h
  rw [readRegex?.eq_2]
  simp only [RegexFlags.skip, Bool.false_eq_true, if_false]
  -- The branches for characters with a meaning of their own are closed by the hypothesis.
  split <;> simp_all
  rfl

/-- The mark of a reluctant repetition is dropped, if there is one. -/
theorem skipReluctant_of_head?_ne (hrest : rest.head? ≠ some '?') :
    skipReluctant rest = rest := by
  cases rest with
  | nil => rfl
  | cons c rest =>
    have hc : c ≠ '?' := by simpa using hrest
    unfold skipReluctant
    split
    next h => exact absurd (List.cons.inj h).1 hc
    next => rfl

theorem readRegex?_run (hrest : rest.head? ≠ some '?') :
    readRegex? (fuel + 2) ⟨none, branch, {}⟩ outer names ('.' :: '*' :: rest) =
      readRegex? fuel ⟨none, branch.push (wildcardItem '*'), {}⟩ outer names rest := by
  -- First the dot is read as an item, and then the star behind it repeats this item.
  change (({} : RegexFlags).dot?.bind fun p => readRegex? (fuel + 1)
    (RegexLevel.push ⟨none, branch, {}⟩ (.char p)) outer names ('*' :: rest)) = _
  rw [dot?_default]
  change readRegex? fuel ⟨none, branch.push (wildcardItem '*'), {}⟩ outer names
    (skipReluctant rest) = _
  rw [skipReluctant_of_head?_ne rest hrest]

theorem readRegex?_optional (hrest : rest.head? ≠ some '?') :
    readRegex? (fuel + 2) ⟨none, branch, {}⟩ outer names ('.' :: '?' :: rest) =
      readRegex? fuel ⟨none, branch.push (wildcardItem '?'), {}⟩ outer names rest := by
  change (({} : RegexFlags).dot?.bind fun p => readRegex? (fuel + 1)
    (RegexLevel.push ⟨none, branch, {}⟩ (.char p)) outer names ('?' :: rest)) = _
  rw [dot?_default]
  change readRegex? fuel ⟨none, branch.push (wildcardItem '?'), {}⟩ outer names
    (skipReluctant rest) = _
  rw [skipReluctant_of_head?_ne rest hrest]

/-- What a character of a pattern became is read as its item. -/
theorem readRegex?_wildcardPart (c : Char) (hrest : rest.head? ≠ some '?')
    (hfuel : (wildcardPart c ++ rest).length < fuel) :
    ∃ fuel' > rest.length,
      readRegex? fuel ⟨none, branch, {}⟩ outer names (wildcardPart c ++ rest) =
        readRegex? fuel' ⟨none, branch.push (wildcardItem c), {}⟩ outer names rest := by
  by_cases hstar : c = '*'
  · subst hstar
    have hlength : (wildcardPart '*' ++ rest).length = rest.length + 2 := rfl
    obtain ⟨more, rfl⟩ := Nat.exists_eq_add_of_le' (show 2 ≤ fuel by omega)
    exact ⟨more, by omega, readRegex?_run branch outer names more rest hrest⟩
  by_cases hquestion : c = '?'
  · subst hquestion
    have hlength : (wildcardPart '?' ++ rest).length = rest.length + 2 := rfl
    obtain ⟨more, rfl⟩ := Nat.exists_eq_add_of_le' (show 2 ≤ fuel by omega)
    exact ⟨more, by omega, readRegex?_optional branch outer names more rest hrest⟩
  have hitem : wildcardItem c = literal c := by rw [wildcardItem, if_neg hstar, if_neg hquestion]
  obtain ⟨more, rfl⟩ := Nat.exists_eq_add_of_le' (show 1 ≤ fuel by omega)
  rw [hitem]
  cases hmeta : isMeta c with
  | true =>
    have hpart : wildcardPart c = ['\\', c] := by simp [wildcardPart, hstar, hquestion, hmeta]
    rw [hpart] at hfuel ⊢
    exact ⟨more, by simp at hfuel; omega, readRegex?_escaped branch outer names more rest hmeta⟩
  | false =>
    have hpart : wildcardPart c = [c] := by simp [wildcardPart, hstar, hquestion, hmeta]
    rw [hpart] at hfuel ⊢
    exact ⟨more, by simp at hfuel; omega,
      readRegex?_plain branch outer names more rest (isOperator_of_isMeta hmeta)⟩

end Read

/-- No part begins with a question mark, so none is taken for the mark of a reluctant
repetition. -/
theorem head?_flatMap_wildcardPart_ne (pattern : List Char) :
    (pattern.flatMap wildcardPart ++ ['$']).head? ≠ some '?' := by
  cases pattern with
  | nil => simp
  | cons c pattern =>
    rw [List.flatMap_cons, List.append_assoc]
    unfold wildcardPart
    split_ifs with hstar hquestion hmeta
    · simp
    · simp
    · simp
    · simpa using hquestion

/-- The parts of a pattern are read as its items. -/
theorem readRegex?_wildcardParts (pattern : List Char) (branch : RegexBranch)
    (names : List (List Char)) {fuel : Nat}
    (hfuel : (pattern.flatMap wildcardPart ++ ['$']).length < fuel) :
    readRegex? fuel ⟨none, branch, {}⟩ [] names (pattern.flatMap wildcardPart ++ ['$']) =
      some (.seq (wildcardItems branch.close pattern) (.look ({} : RegexFlags).lineEnd)) := by
  -- The induction is on the pattern; what was read before is in the branch.
  induction pattern generalizing branch fuel with
  | nil =>
    obtain ⟨more, rfl⟩ := Nat.exists_eq_add_of_le' (show 2 ≤ fuel from hfuel)
    rfl
  | cons c pattern ih =>
    rw [List.flatMap_cons, List.append_assoc] at hfuel ⊢
    obtain ⟨fuel', hfuel', hread⟩ := readRegex?_wildcardPart branch [] names fuel _ c
      (head?_flatMap_wildcardPart_ne pattern) hfuel
    rw [hread, ih _ hfuel']
    rfl

/-- The regular expression of a pattern. -/
theorem read?_wildcardSource (pattern : List Char) :
    Regex.read? (wildcardSource pattern) =
      some (.seq (wildcardItems (.seq .empty (.look ({} : RegexFlags).lineStart)) pattern)
        (.look ({} : RegexFlags).lineEnd)) := by
  rw [wildcardSource_eq, Regex.read?]
  exact readRegex?_wildcardParts pattern _ [] (Nat.lt_succ_self _)

/-! ### Texts that fit a pattern -/

/-- A character of a pattern takes a part of a text: a star takes any characters but line feeds,
a question mark takes at most one of them, and any other character takes itself. -/
def Takes (c : Char) (part : List Char) : Prop :=
  if c = '*' then '\n' ∉ part
  else if c = '?' then part.length ≤ 1 ∧ '\n' ∉ part
  else part = [c]

/-- The text can be cut into parts, one for each character of the pattern. -/
inductive Fits : (pattern text : List Char) → Prop
  | nil : Fits [] []
  | cons {c : Char} {pattern part text : List Char} :
    Takes c part → Fits pattern text → Fits (c :: pattern) (part ++ text)

/-- Every pattern fits itself. -/
theorem fits_self : (pattern : List Char) → Fits pattern pattern
  | [] => .nil
  | c :: pattern => by
    have htakes : Takes c [c] := by
      unfold Takes
      split_ifs with hstar hquestion
      · simp [hstar]
      · simp [hquestion]
      · rfl
    exact Fits.cons htakes (fits_self pattern)

/-- A star alone fits the texts without line feeds. -/
theorem fits_star_iff {text : List Char} : Fits ['*'] text ↔ '\n' ∉ text := by
  constructor
  · rintro (_ | ⟨htakes, _ | _⟩)
    simpa [Takes] using htakes
  · intro htext
    have htakes : Takes '*' text := htext
    simpa using Fits.cons htakes .nil

section Match

variable {text : List Char} {i j : Nat}

theorem spans_wildcardItem_iff {c : Char} :
    Spans text (wildcardItem c) i j ↔ ∃ part, Takes c part ∧ PartAt text i part j := by
  unfold wildcardItem Takes
  split_ifs with hstar hquestion
  · simp [spans_run_iff, forall_notLineFeed_iff]
  · simp [spans_run_iff, forall_notLineFeed_iff, and_assoc]
  · simp [spans_literal_iff]

/-- Behind another expression, items that match what the characters of a pattern take match the
parts that fit the pattern. -/
theorem spans_foldl_iff {item : Char → Regex} {first : Regex} {pattern : List Char}
    (hitem : ∀ c ∈ pattern, ∀ i j,
      Spans text (item c) i j ↔ ∃ part, Takes c part ∧ PartAt text i part j) :
    Spans text (pattern.foldl (fun r c => .seq r (item c)) first) i j ↔
      ∃ k, Spans text first i k ∧ ∃ part, Fits pattern part ∧ PartAt text k part j := by
  induction pattern generalizing first with
  | nil =>
    constructor
    · exact fun hij => ⟨j, hij, [], .nil, partAt_nil.2 rfl⟩
    · rintro ⟨k, hik, part, ⟨⟩, hkj⟩
      rwa [← partAt_nil.1 hkj]
  | cons c pattern ih =>
    obtain ⟨hc, hpattern⟩ := List.forall_mem_cons.1 hitem
    -- The first item belongs to the expression in front of the others.
    refine (ih hpattern).trans ?_
    simp only [spans_seq_iff, hc]
    constructor
    · rintro ⟨l, ⟨k, hik, part, htakes, hkl⟩, rest, hfits, hlj⟩
      exact ⟨k, hik, part ++ rest, .cons htakes hfits, partAt_append.2 ⟨l, hkl, hlj⟩⟩
    · rintro ⟨k, hik, _, _ | ⟨htakes, hfits⟩, hkj⟩
      obtain ⟨l, hkl, hlj⟩ := partAt_append.1 hkj
      exact ⟨l, ⟨k, hik, _, htakes, hkl⟩, _, hfits, hlj⟩

/-- Behind another expression, the items of a pattern match the parts that fit it. -/
theorem spans_wildcardItems_iff {first : Regex} {pattern : List Char} :
    Spans text (wildcardItems first pattern) i j ↔
      ∃ k, Spans text first i k ∧ ∃ part, Fits pattern part ∧ PartAt text k part j :=
  spans_foldl_iff fun _ _ _ _ => spans_wildcardItem_iff

/-- A wildcard pattern matches exactly the texts that fit it. -/
theorem matchesText_wildcard_iff {pattern text : String} :
    matchesText (wildcard? pattern) text = true ↔ Fits pattern.toList text.toList := by
  rw [wildcard?, read?_wildcardSource, matchesText]
  refine isMatch_anchored_iff fun i j => ?_
  simp only [spans_wildcardItems_iff, spans_seq_iff, spans_lineStart_iff]
  constructor
  · rintro ⟨k, ⟨l, hil, rfl, rfl⟩, part, hfits, hat⟩
    exact ⟨hil, part, hfits, hat⟩
  · rintro ⟨rfl, part, hfits, hat⟩
    exact ⟨0, ⟨0, rfl, rfl, rfl⟩, part, hfits, hat⟩

end Match

end AccessPolicy.Pattern
