import AccessPolicy.Expression.Scan
import AccessPolicy.Proofs.Pattern.Wildcard
import AccessPolicy.Proofs.Text.Pieces
import Mathlib.Data.List.Infix

/-!
# Cutting a text loses nothing

The literal texts and the segments of a text make up the text again, and there is no other way to
cut it under the conditions that they meet (`Piece.scan_correct`). Both hold because of what the
leftmost segment is: none is opened in front of it, and no brace closes it earlier. It is the
leftmost match of the regular expression `\$\{([^}]*)\}`, so both passes follow the matches of this
expression.
-/

namespace AccessPolicy.Piece

open Pattern

/-- The text of a piece. -/
def source : Piece → List Char
  | .text cs => cs
  | .segment cs => ['$', '\x7b'] ++ cs ++ ['\x7d']

/-- A text is cut into literal texts with segments between them. -/
structure Cuts (cs : List Char) (literals segments : List (List Char)) : Prop where
  /-- There is one literal text more than there are segments. -/
  length_eq : literals.length = segments.length + 1
  /-- In turn they make up the text. -/
  source_eq : (weave literals segments).flatMap source = cs
  /-- No closing brace stands in a segment. -/
  closed : ∀ inside ∈ segments, '\x7d' ∉ inside
  /-- No segment is opened in a literal text that another one follows. -/
  unopened : ∀ literal ∈ literals.dropLast, ¬['$', '\x7b'] <:+: literal
  /-- What is opened in the last literal text is never closed. -/
  unclosed : ∀ front back, literals.getLast? = some (front ++ ['$', '\x7b'] ++ back) →
    '\x7d' ∉ back

variable {cs before inside after : List Char} {texts insides : List (List Char)}

/-! ### The leftmost segment -/

theorem firstSegment?_eq_some_iff_source :
    firstSegment? cs = some (before, inside, after) ↔
      cs = before ++ source (.segment inside) ++ after ∧ ¬['$', '\x7b'] <:+: before ∧
        '\x7d' ∉ inside := by
  rw [firstSegment?_eq_some_iff]
  constructor
  · rintro ⟨rest, hopened, hclosed⟩
    obtain ⟨hrest, hinside⟩ := Text.cutAt?_singleton_eq_some_iff.1 hclosed
    refine ⟨?_, Text.not_infix_of_cutAt? (by simp) hopened, hinside⟩
    rw [← Text.append_of_cutAt? hopened, hrest]
    simp [source]
  · rintro ⟨rfl, hunopened, hinside⟩
    refine ⟨inside ++ '\x7d' :: after, ?_, Text.cutAt?_singleton_append hinside after⟩
    -- What follows begins with a dollar, so no segment is opened across the border.
    have hborder : ¬(before.getLast? = some '$' ∧
        ('$' :: '\x7b' :: (inside ++ '\x7d' :: after)).head? = some '\x7b') := by simp
    have hcut := Text.cutAt?_append_of_none (Text.cutAt?_eq_none_iff.2 hunopened) hborder
    simpa [source, Text.cutAt?, Text.dropFront?] using hcut

theorem firstSegment?_eq_none_iff :
    firstSegment? cs = none ↔
      ∀ front back, cs = front ++ ['$', '\x7b'] ++ back → '\x7d' ∉ back := by
  constructor
  · rintro hnone front back rfl hback
    -- The first segment that is opened is opened here or further in front.
    obtain ⟨before, rest, hopened, hlength⟩ := Text.exists_cutAt?_append ['$', '\x7b'] front back
    have hcs := Text.append_of_cutAt? hopened
    have hsuffix : back <:+ rest := by
      refine List.suffix_of_suffix_length_le ⟨_, hcs.symm⟩ ⟨_, rfl⟩ ?_
      have := congrArg List.length hcs
      simp only [List.length_append] at this
      omega
    have hclosed : Text.cutAt? ['\x7d'] rest ≠ none := by
      rw [Ne, Text.cutAt?_eq_none_iff, List.singleton_infix_iff, not_not]
      exact hsuffix.subset hback
    obtain ⟨cut, hcut⟩ := Option.ne_none_iff_exists'.1 hclosed
    rw [firstSegment?_eq_some_iff.2 ⟨rest, hopened, hcut⟩] at hnone
    cases hnone
  · intro h
    cases hopened : Text.cutAt? ['$', '\x7b'] cs with
    | none => simp [firstSegment?, hopened]
    | some cut =>
      have hback := h cut.1 cut.2 (Text.append_of_cutAt? hopened).symm
      rw [← List.singleton_infix_iff, ← Text.cutAt?_eq_none_iff] at hback
      simp [firstSegment?, hopened, hback]

/-! ### The cut of a text -/

/-- A text without segments is cut into itself. -/
theorem cuts_of_none (h : firstSegment? cs = none) : Cuts cs [cs] [] where
  length_eq := rfl
  source_eq := by simp [weave, source]
  closed := by simp
  unopened := by simp
  unclosed front back hlast :=
    firstSegment?_eq_none_iff.1 h front back (Option.some.inj hlast)

/-- The cut of a text begins with its leftmost segment. -/
theorem Cuts.of_found (h : firstSegment? cs = some (before, inside, after))
    (hafter : Cuts after texts insides) : Cuts cs (before :: texts) (inside :: insides) := by
  obtain ⟨rfl, hunopened, hinside⟩ := firstSegment?_eq_some_iff_source.1 h
  -- There is a literal text behind, so the one in front is not the last.
  obtain ⟨text, texts, rfl⟩ := List.exists_cons_of_length_eq_add_one hafter.length_eq
  exact {
    length_eq := by simpa using hafter.length_eq
    source_eq := by simp [weave, hafter.source_eq, source]
    closed := List.forall_mem_cons.2 ⟨hinside, hafter.closed⟩
    unopened := List.forall_mem_cons.2 ⟨hunopened, hafter.unopened⟩
    unclosed := hafter.unclosed }

/-- The passes cut every text. -/
theorem cuts_scanned (cs : List Char) : Cuts cs (literals cs) (segments cs) := by
  fun_induction literals cs with
  | case1 cs before inside after found ih =>
    rw [segments_of_found found]
    exact ih.of_found found
  | case2 cs found =>
    rw [segments_of_none found]
    exact cuts_of_none found

/-- Behind the first segment of a cut comes a cut of the rest of the text. -/
theorem Cuts.exists_of_cons (h : Cuts cs texts (inside :: insides)) :
    ∃ before after rest, texts = before :: rest ∧
      firstSegment? cs = some (before, inside, after) ∧ Cuts after rest insides := by
  obtain ⟨before, rest, rfl⟩ := List.exists_cons_of_length_eq_add_one h.length_eq
  have hlength : rest.length = insides.length + 1 := Nat.succ.inj h.length_eq
  obtain ⟨text, texts, rfl⟩ := List.exists_cons_of_length_eq_add_one hlength
  obtain ⟨hinside, hclosed⟩ := List.forall_mem_cons.1 h.closed
  obtain ⟨hunopened, hrest⟩ := List.forall_mem_cons.1 h.unopened
  refine ⟨before, (weave (text :: texts) insides).flatMap source, text :: texts, rfl, ?_, ?_⟩
  · refine firstSegment?_eq_some_iff_source.2 ⟨?_, hunopened, hinside⟩
    rw [← h.source_eq]
    simp [weave, source]
  · exact ⟨hlength, rfl, hclosed, hrest, h.unclosed⟩

/-- There is only one way to cut a text. -/
theorem Cuts.eq_scanned (h : Cuts cs texts insides) :
    texts = literals cs ∧ insides = segments cs := by
  induction insides generalizing cs texts with
  | nil =>
    obtain ⟨text, rfl⟩ := List.length_eq_one_iff.1 h.length_eq
    obtain rfl : text = cs := by simpa [weave, source] using h.source_eq
    have hnone : firstSegment? text = none :=
      firstSegment?_eq_none_iff.2 fun front back htext => h.unclosed front back (by rw [← htext]; rfl)
    rw [literals_of_none hnone, segments_of_none hnone]
    exact ⟨rfl, rfl⟩
  | cons inside insides ih =>
    -- The first segment of the cut is the leftmost one, which the passes find too.
    obtain ⟨before, after, rest, rfl, hfound, hrest⟩ := h.exists_of_cons
    obtain ⟨rfl, rfl⟩ := ih hrest
    rw [literals_of_found hfound, segments_of_found hfound]
    exact ⟨rfl, rfl⟩

/-! ### The regular expression of segments -/

/-- The characters that a segment may hold. -/
def insideClass : CharClass :=
  CharClass.compl (CharClass.union CharClass.none (CharClass.single '\x7d'))

/-- What the text `\$\{([^}]*)\}` denotes. -/
def segmentRegex : Regex :=
  .seq (.seq (.seq (.seq .empty (.literal '$')) (.literal '\x7b'))
    (.seq .empty (.times (.char insideClass) 0 none))) (.literal '\x7d')

/-- A run of these characters is read as a group. -/
theorem readRegex?_insideGroup (branch : RegexBranch) (names : List (List Char)) (fuel : Nat)
    (rest : List Char) :
    readRegex? (fuel + 4) ⟨none, branch, {}⟩ [] names
        ('(' :: '[' :: '^' :: '\x7d' :: ']' :: '*' :: ')' :: rest) =
      readRegex? fuel ⟨none, branch.push (.seq .empty (.times (.char insideClass) 0 none)), {}⟩ []
        names rest := by
  rfl

theorem read?_segmentRegex :
    Regex.read? "\\$\\\x7b([^\x7d]*)\\\x7d".toList = some segmentRegex := by
  change readRegex? 14 {} [] [] ['\\', '$', '\\', '\x7b', '(', '[', '^', '\x7d', ']', '*', ')', '\\',
    '\x7d'] = _
  rw [readRegex?_escaped _ _ _ _ _ (by decide), readRegex?_escaped _ _ _ _ _ (by decide),
    readRegex?_insideGroup, readRegex?_escaped _ _ _ _ _ (by decide)]
  rfl

theorem forall_insideClass_iff : (∀ c ∈ inside, insideClass c = true) ↔ '\x7d' ∉ inside := by
  simp only [insideClass, CharClass.compl, CharClass.union, CharClass.none, CharClass.single,
    Bool.false_or, Bool.not_eq_true', decide_eq_false_iff_not]
  exact ⟨fun h hmem => h _ hmem rfl, fun h c hc heq => h (heq ▸ hc)⟩

section Matches

open Regex

variable {i j : Nat}

/-- The expression matches where a segment is opened, up to the next brace that closes it. -/
theorem spans_segmentRegex_iff :
    Spans cs segmentRegex i j ↔
      ∃ front inside back, front.length = i ∧ (front ++ source (.segment inside)).length = j ∧
        cs = front ++ source (.segment inside) ++ back ∧ '\x7d' ∉ inside := by
  have hempty {k l : Nat} : Spans cs .empty k l ↔ k = l := Iff.rfl
  have hopening : ['$', '\x7b'] = ['$'] ++ ['\x7b'] := rfl
  have hpart : Spans cs segmentRegex i j ↔
      ∃ inside, '\x7d' ∉ inside ∧ PartAt cs i (source (.segment inside)) j := by
    simp only [segmentRegex, spans_seq_iff, hempty, spans_literal_iff, spans_run_iff,
      forall_insideClass_iff, exists_eq_left', source, hopening, partAt_append]
    constructor
    · rintro ⟨k, ⟨l, hil, inside, -, hinside, hlk⟩, hkj⟩
      exact ⟨inside, hinside, k, ⟨l, hil, hlk⟩, hkj⟩
    · rintro ⟨inside, hinside, k, ⟨l, hil, hlk⟩, hkj⟩
      exact ⟨k, ⟨l, hil, inside, by simp, hinside, hlk⟩, hkj⟩
  rw [hpart]
  constructor
  · rintro ⟨inside, hinside, hij⟩
    obtain ⟨front, back, hi, hj, hcs⟩ := (partAt_iff_append (by simp [source])).1 hij
    exact ⟨front, inside, back, hi, hj, hcs, hinside⟩
  · rintro ⟨front, inside, back, hi, hj, hcs, hinside⟩
    exact ⟨inside, hinside, (partAt_iff_append (by simp [source])).2 ⟨front, back, hi, hj, hcs⟩⟩

/-- The texts between the leftmost matches of an expression, each of which is a segment, and what
stands between the braces of these. -/
inductive Follows (r : Regex) : List Char → List (List Char) → List (List Char) → Prop where
  | done {cs : List Char} (hnone : ∀ i j, ¬Spans cs r i j) : Follows r cs [cs] []
  | found {cs before inside after : List Char} {texts insides : List (List Char)}
      (hcs : cs = before ++ source (.segment inside) ++ after)
      (hmatch : LeftmostMatch r cs before.length (before ++ source (.segment inside)).length)
      (hafter : Follows r after texts insides) : Follows r cs (before :: texts) (inside :: insides)

/-- The leftmost segment is the leftmost match. -/
theorem leftmostMatch_of_found (h : firstSegment? cs = some (before, inside, after)) :
    LeftmostMatch segmentRegex cs before.length (before ++ source (.segment inside)).length := by
  obtain ⟨hcs, hunopened, hinside⟩ := firstSegment?_eq_some_iff_source.1 h
  obtain ⟨rest, hopened, -⟩ := firstSegment?_eq_some_iff.1 h
  refine ⟨spans_segmentRegex_iff.2 ⟨before, inside, after, rfl, rfl, hcs, hinside⟩, fun hspans => ?_,
    fun hspans => ?_⟩
  · -- A match opens a segment, so the first one is opened there or further in front.
    obtain ⟨front, inner, back, rfl, rfl, hfront, -⟩ := spans_segmentRegex_iff.1 hspans
    obtain ⟨first, last, hcut, hlength⟩ :=
      Text.exists_cutAt?_append ['$', '\x7b'] front (inner ++ ['\x7d'] ++ back)
    have heq : front ++ ['$', '\x7b'] ++ (inner ++ ['\x7d'] ++ back) = cs := by
      simp [hfront, source]
    rw [heq, hopened] at hcut
    obtain ⟨rfl, rfl⟩ := Prod.mk.inj (Option.some.inj hcut)
    exact hlength
  · obtain ⟨front, inner, back, hi, rfl, hfront, hinner⟩ := spans_segmentRegex_iff.1 hspans
    have heq : front ++ (source (.segment inner) ++ back) =
        before ++ (source (.segment inside) ++ after) := by
      rw [← List.append_assoc, ← List.append_assoc, ← hfront, ← hcs]
    obtain rfl := List.append_inj_left heq hi
    -- Both are the first segment of the text, which there is only one of.
    have hfound := firstSegment?_eq_some_iff_source.2 ⟨hfront, hunopened, hinner⟩
    obtain ⟨rfl, -⟩ : inside = inner ∧ after = back := by simpa using h.symm.trans hfound
    rfl

/-- Where there is no segment, there is no match. -/
theorem not_spans_of_none (h : firstSegment? cs = none) : ¬Spans cs segmentRegex i j := by
  intro hspans
  obtain ⟨front, inner, back, -, -, hfront, -⟩ := spans_segmentRegex_iff.1 hspans
  refine firstSegment?_eq_none_iff.1 h front (inner ++ ['\x7d'] ++ back) ?_ (by simp)
  simp [hfront, source]

/-- Both passes follow the matches of the expression. -/
theorem follows_scanned (cs : List Char) : Follows segmentRegex cs (literals cs) (segments cs) := by
  fun_induction literals cs with
  | case1 cs before inside after found ih =>
    rw [segments_of_found found]
    exact .found (firstSegment?_eq_some_iff_source.1 found).1 (leftmostMatch_of_found found) ih
  | case2 cs found =>
    rw [segments_of_none found]
    exact .done fun i j => not_spans_of_none found

end Matches

/-- A text is cut into literal texts and segments that make it up again, and in no other way. There
is always one literal text more than segments, so the pieces can be told. The two passes come to
this by going through the leftmost matches of a regular expression. -/
theorem scan_correct (cs : List Char) :
    Cuts cs (literals cs) (segments cs) ∧
      (∀ texts insides, Cuts cs texts insides → texts = literals cs ∧ insides = segments cs) ∧
      alternate (literals cs) (segments cs) = .ok (weave (literals cs) (segments cs)) ∧
      ∃ r, Regex.read? "\\$\\\x7b([^\x7d]*)\\\x7d".toList = some r ∧
        Follows r cs (literals cs) (segments cs) :=
  ⟨cuts_scanned cs, fun _ _ h => h.eq_scanned, alternate_scanned cs, segmentRegex,
    read?_segmentRegex, follows_scanned cs⟩

/-- A dollar in front of a segment, a segment that holds what would open another, a line feed, and
a brace that is never closed. -/
theorem scan_correct_stray :
    let cs := "$$\x7ba$\x7bb\nc\x7d\x7d$\x7bd".toList
    Cuts cs ["$".toList, "\x7d$\x7bd".toList] ["a$\x7bb\nc".toList] ∧
      literals cs = ["$".toList, "\x7d$\x7bd".toList] ∧ segments cs = ["a$\x7bb\nc".toList] := by
  intro cs
  have hcuts : Cuts cs ["$".toList, "\x7d$\x7bd".toList] ["a$\x7bb\nc".toList] := {
    length_eq := rfl
    source_eq := by decide
    closed := by decide
    unopened := by decide
    unclosed := fun front back hlast =>
      firstSegment?_eq_none_iff.1 (by decide) front back (Option.some.inj hlast) }
  obtain ⟨hliterals, hsegments⟩ := (scan_correct cs).2.1 _ _ hcuts
  exact ⟨hcuts, hliterals.symm, hsegments.symm⟩

end AccessPolicy.Piece
