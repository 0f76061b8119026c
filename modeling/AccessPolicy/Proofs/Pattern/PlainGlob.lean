import AccessPolicy.Proofs.Pattern.Glob
import AccessPolicy.Proofs.Pattern.Resource

/-!
# Plain action globs

A glob is plain if it consists of stars and of characters without a meaning of their own in regular
expressions. The expression of a plain glob is read character by character
(`glob?_plain`), so the glob matches what it matches as a wildcard pattern
(`matchesText_plain_iff`): the actions that come out of it when every star is replaced by
characters other than line feeds (`PatternCache.matchAction_plain_iff`).
-/

namespace AccessPolicy

namespace Pattern

open Regex

/-- Only stars have a meaning of their own in the glob. -/
def IsPlain (glob : List Char) : Prop :=
  ∀ c ∈ glob, isOperator c = true → c = '*'

instance : DecidablePred IsPlain :=
  List.decidableBAll fun c => isOperator c = true → c = '*'

/-! ### Reading the expression of a plain glob -/

/-- The regular expression that a character of a plain glob stands for. -/
def globItem (c : Char) : Regex :=
  if c = '*' then .seq .empty (wildcardItem '*') else literal c

/-- The regular expressions of the characters of a plain glob, behind another one. -/
def globItems (first : Regex) (glob : List Char) : Regex :=
  glob.foldl (fun r c => .seq r (globItem c)) first

section Read

variable (branch : RegexBranch) (outer : List RegexLevel) (names : List (List Char)) (fuel : Nat)
  (rest : List Char)

theorem readRegex?_star :
    readRegex? (fuel + 4) ⟨none, branch, {}⟩ outer names (['(', '.', '*', ')'] ++ rest) =
      readRegex? fuel ⟨none, branch.push (globItem '*'), {}⟩ outer names rest := by
  -- The parenthesis opens a level of its own, and the one behind the run closes it.
  change readRegex? (fuel + 3) ⟨none, {}, {}⟩ (⟨none, branch, {}⟩ :: outer) names
    ('.' :: '*' :: ')' :: rest) = _
  rw [readRegex?_run _ _ _ _ _ (by simp)]
  rfl

/-- What a character of a plain glob became is read as its item. -/
theorem readRegex?_globPart {c : Char} (hplain : isOperator c = true → c = '*')
    (hfuel : (globPart c ++ rest).length < fuel) :
    ∃ fuel' > rest.length,
      readRegex? fuel ⟨none, branch, {}⟩ outer names (globPart c ++ rest) =
        readRegex? fuel' ⟨none, branch.push (globItem c), {}⟩ outer names rest := by
  by_cases hstar : c = '*'
  · subst hstar
    have hlength : rest.length + 4 < fuel := hfuel
    obtain ⟨more, rfl⟩ := Nat.exists_eq_add_of_le' (show 4 ≤ fuel by omega)
    exact ⟨more, by omega, readRegex?_star branch outer names more rest⟩
  · have hordinary : isOperator c = false := Bool.eq_false_iff.2 fun h => hstar (hplain h)
    have hpart : globPart c = [c] := if_neg hstar
    have hitem : globItem c = literal c := if_neg hstar
    rw [hpart, List.singleton_append] at hfuel ⊢
    have hlength : rest.length + 1 < fuel := hfuel
    obtain ⟨more, rfl⟩ := Nat.exists_eq_add_of_le' (show 1 ≤ fuel by omega)
    rw [hitem]
    exact ⟨more, by omega, readRegex?_plain branch outer names more rest hordinary⟩

end Read

/-- The branch after the items of a plain glob. -/
def pushGlob (branch : RegexBranch) (glob : List Char) : RegexBranch :=
  glob.foldl (fun b c => b.push (globItem c)) branch

/-- The parts of a plain glob are read as its items, whatever follows them. -/
theorem readRegex?_globParts {glob : List Char} (hplain : IsPlain glob) (branch : RegexBranch)
    (outer : List RegexLevel) (names : List (List Char)) (rest : List Char) {fuel : Nat}
    (hfuel : (glob.flatMap globPart ++ rest).length < fuel) :
    ∃ fuel' > rest.length,
      readRegex? fuel ⟨none, branch, {}⟩ outer names (glob.flatMap globPart ++ rest) =
        readRegex? fuel' ⟨none, pushGlob branch glob, {}⟩ outer names rest := by
  -- The induction is on the glob; what was read before is in the branch.
  induction glob generalizing branch fuel with
  | nil => exact ⟨fuel, hfuel, rfl⟩
  | cons c glob ih =>
    obtain ⟨hc, hglob⟩ := List.forall_mem_cons.1 hplain
    rw [List.flatMap_cons, List.append_assoc] at hfuel ⊢
    obtain ⟨fuel₁, hfuel₁, hfirst⟩ := readRegex?_globPart branch outer names fuel _ hc hfuel
    obtain ⟨fuel₂, hfuel₂, hrest⟩ := ih hglob (branch.push (globItem c)) hfuel₁
    exact ⟨fuel₂, hfuel₂, hfirst.trans hrest⟩

/-- The items of a branch as one expression. -/
theorem close_pushGlob (branch : RegexBranch) (glob : List Char) :
    (pushGlob branch glob).close = globItems branch.close glob := by
  induction glob generalizing branch with
  | nil => rfl
  | cons c glob ih => exact ih (branch.push (globItem c))

/-- The regular expression of a plain glob: its items in a group between the anchors. -/
theorem glob?_plain {glob : String} (hplain : IsPlain glob.toList) :
    glob? glob = some (.seq (.seq (.seq .empty (.look ({} : RegexFlags).lineStart))
      (globItems .empty glob.toList)) (.look ({} : RegexFlags).lineEnd)) := by
  rw [glob?, globSource_eq, Regex.read?]
  set parts := glob.toList.flatMap globPart
  -- The anchor comes first, and then the start of the group around the parts.
  change readRegex? (parts ++ [')', '$']).length.succ.succ.succ {} _ [] (parts ++ [')', '$']) = _
  obtain ⟨fuel, hfuel, hread⟩ := readRegex?_globParts hplain {}
    [⟨none, ({} : RegexBranch).push (.look ({} : RegexFlags).lineStart), {}⟩] [] [')', '$']
    (Nat.lt_add_of_pos_right (by decide : 0 < 3))
  obtain ⟨more, rfl⟩ := Nat.exists_eq_add_of_le' (show 3 ≤ fuel from hfuel)
  have hitems : globItems .empty glob.toList = (pushGlob {} glob.toList).close :=
    (close_pushGlob {} glob.toList).symm
  refine hread.trans ?_
  rw [hitems]
  rfl

/-! ### What a plain glob matches -/

section Match

variable {text : List Char} {i j : Nat}

/-- The items match what the characters of a pattern take. -/
theorem spans_globItem_iff {c : Char} (hplain : isOperator c = true → c = '*') :
    Spans text (globItem c) i j ↔ ∃ part, Takes c part ∧ PartAt text i part j := by
  rw [← spans_wildcardItem_iff]
  by_cases hstar : c = '*'
  · subst hstar
    exact spans_group_iff
  · have hquestion : c ≠ '?' := by
      rintro rfl
      exact hstar (hplain rfl)
    rw [globItem, if_neg hstar, wildcardItem, if_neg hstar, if_neg hquestion]

/-- As a glob, a plain text matches what it matches as a wildcard pattern. -/
theorem matchesText_plain_iff {glob action : String} (hplain : IsPlain glob.toList) :
    matchesText (glob? glob) action = true ↔ Fits glob.toList action.toList := by
  rw [glob?_plain hplain, matchesText]
  refine isMatch_anchored_iff fun i j => ?_
  have hitems (i j : Nat) : Spans action.toList (globItems .empty glob.toList) i j ↔
      ∃ part, Fits glob.toList part ∧ PartAt action.toList i part j := by
    refine (spans_foldl_iff fun c hc i j => spans_globItem_iff (hplain c hc)).trans ?_
    constructor
    · rintro ⟨k, rfl, hpart⟩
      exact hpart
    · exact fun hpart => ⟨i, rfl, hpart⟩
  simp only [spans_seq_iff, spans_lineStart_iff, hitems]
  constructor
  · rintro ⟨k, ⟨l, hil, rfl, rfl⟩, hpart⟩
    exact ⟨hil, hpart⟩
  · rintro ⟨rfl, hpart⟩
    exact ⟨0, ⟨0, rfl, rfl, rfl⟩, hpart⟩

end Match

/-! ### Patterns without wildcards -/

/-- Characters before the first wildcard take themselves, so a text that fits begins with them. -/
theorem Fits.prefix {front rest text : List Char} (h : Fits (front ++ rest) text)
    (hfront : ∀ c ∈ front, c ≠ '*' ∧ c ≠ '?') : front <+: text := by
  induction front generalizing text with
  | nil => exact List.nil_prefix
  | cons c front ih =>
    obtain ⟨⟨hstar, hquestion⟩, hfront⟩ := List.forall_mem_cons.1 hfront
    cases h with
    | cons htakes hfits =>
      rw [Takes, if_neg hstar, if_neg hquestion] at htakes
      rw [htakes]
      exact (List.prefix_append_right_inj [c]).2 (ih hfits hfront)

/-- A pattern without wildcards fits itself alone. -/
theorem fits_literal_iff {pattern text : List Char} (hpattern : ∀ c ∈ pattern, c ≠ '*' ∧ c ≠ '?') :
    Fits pattern text ↔ text = pattern := by
  constructor
  · intro h
    induction h with
    | nil => rfl
    | cons htakes _ ih =>
      obtain ⟨⟨hstar, hquestion⟩, hpattern⟩ := List.forall_mem_cons.1 hpattern
      rw [Takes, if_neg hstar, if_neg hquestion] at htakes
      rw [htakes, ih hpattern]
      rfl
  · rintro rfl
    exact fits_self text

/-- Where no question mark occurs, a character takes a run if it is a star and else itself. -/
theorem forall₂_takes_iff {pattern : List Char} {parts : List (List Char)}
    (hpattern : ∀ c ∈ pattern, c ≠ '?') :
    List.Forall₂ Takes pattern parts ↔
      List.Forall₂ (fun c part => if c = '*' then '\n' ∉ part else part = [c]) pattern parts := by
  have htakes (c : Char) (part : List Char) : c ≠ '?' ∧ Takes c part ↔
      c ≠ '?' ∧ (if c = '*' then '\n' ∉ part else part = [c]) := by
    refine and_congr_right fun hc => ?_
    rw [Takes, if_neg hc]
  rw [← and_iff_right (b := List.Forall₂ Takes pattern parts) hpattern, ← List.forall₂_and_left]
  simp only [htakes]
  rw [List.forall₂_and_left, and_iff_right hpattern]

end Pattern

open Pattern

/-- A plain glob can be read. Whatever was matched before, an action matches it exactly if the
action comes out of the glob by putting characters other than line feeds in the place of each star.
So a glob without stars matches itself alone, and what matches a namespace followed by a star
begins with the namespace. -/
theorem PatternCache.matchAction_plain_iff (glob : String) (hplain : IsPlain glob.toList) :
    (∃ regex, glob? glob = some regex) ∧
      ∀ {cache : PatternCache}, cache.Faithful → ∀ action : String,
        ((cache.matchAction glob action).1 = true ↔
            ∃ parts : List (List Char),
              List.Forall₂ (fun c part => if c = '*' then '\n' ∉ part else part = [c])
                glob.toList parts ∧ parts.flatten = action.toList) ∧
          ('*' ∉ glob.toList → ((cache.matchAction glob action).1 = true ↔ action = glob)) ∧
          ∀ space : String, glob = space ++ ":*" → '*' ∉ space.toList →
            (cache.matchAction glob action).1 = true → (space ++ ":").toList <+: action.toList := by
  refine ⟨⟨_, glob?_plain hplain⟩, fun {cache} hcache action => ?_⟩
  have hordinary : ∀ c ∈ glob.toList, c ≠ '?' := by
    rintro c hc rfl
    exact absurd (hplain '?' hc rfl) (by decide)
  rw [matchAction_fst hcache, matchesText_plain_iff hplain]
  refine ⟨?_, fun hstar => ?_, ?_⟩
  · simp only [fits_iff_exists_parts, forall₂_takes_iff hordinary]
  · have hliteral : ∀ c ∈ glob.toList, c ≠ '*' ∧ c ≠ '?' := fun c hc =>
      ⟨fun heq => hstar (heq ▸ hc), hordinary c hc⟩
    rw [fits_literal_iff hliteral, String.toList_inj]
  · rintro space rfl hstar hfits
    -- The colon belongs to what comes before the star.
    have hsplit : (space ++ ":*").toList = (space ++ ":").toList ++ ['*'] := by simp
    rw [hsplit] at hfits hordinary
    refine hfits.prefix fun c hc => ⟨?_, hordinary c (List.mem_append_left _ hc)⟩
    rintro rfl
    simp [hstar] at hc

/-- Two stars in a row and characters that wildcard patterns escape, after a glob that cannot be
read: a run of characters between dashes matches, a longer name and another namespace do not. -/
theorem PatternCache.matchAction_plain_iff_namespace :
    let cache := (({ capacity := 1 } : PatternCache).matchAction "a(b" "a(b").2.2
    IsPlain "é#:**-*".toList ∧ IsPlain "é#:a".toList ∧ IsPlain "é#:*".toList ∧ cache.Faithful ∧
      (cache.matchAction "é#:**-*" "é#:a-").1 = true ∧
      ¬(cache.matchAction "é#:a" "é#:ab").1 = true ∧
      ¬(cache.matchAction "é#:*" "e:é#:a").1 = true := by
  intro cache
  have hcache : cache.Faithful := faithful_matchAction (faithful_new 1) "a(b" "a(b"
  have hstars : IsPlain "é#:**-*".toList := by decide
  have hname : IsPlain "é#:a".toList := by decide
  have hspace : IsPlain "é#:*".toList := by decide
  refine ⟨hstars, hname, hspace, hcache, ?_, ?_, ?_⟩
  · refine ((matchAction_plain_iff _ hstars).2 hcache _).1.2
      ⟨[['é'], ['#'], [':'], ['a'], [], ['-'], []], ?_, rfl⟩
    simp
  · rw [((matchAction_plain_iff _ hname).2 hcache _).2.1 (by decide)]
    decide
  · exact fun hmatch => absurd
      (((matchAction_plain_iff _ hspace).2 hcache _).2.2 "é#" rfl (by decide) hmatch) (by decide)

end AccessPolicy
