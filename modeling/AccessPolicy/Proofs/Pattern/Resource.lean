import AccessPolicy.Proofs.Pattern.Cache
import AccessPolicy.Proofs.Pattern.Wildcard
import Mathlib.Data.List.Forall2

/-!
# Matching resources

A resource matches a wildcard pattern exactly if it can be cut into parts, one for each character
of the pattern (`PatternCache.matchResource_iff_parts`). The patterns that were used before make
no difference to that, and comparisons of texts give the same answer, whether they keep patterns
of their own (`PatternTable.like_fst`) or not.
-/

namespace AccessPolicy

open Pattern

/-- A text fits a pattern if it can be cut into parts, one for each character of the pattern. -/
theorem Pattern.fits_iff_exists_parts {pattern text : List Char} :
    Fits pattern text ↔ ∃ parts, List.Forall₂ Takes pattern parts ∧ parts.flatten = text := by
  constructor
  · intro h
    induction h with
    | nil => exact ⟨[], .nil, rfl⟩
    | @cons c pattern part text htakes _ ih =>
      obtain ⟨parts, hparts, rfl⟩ := ih
      exact ⟨part :: parts, .cons htakes hparts, rfl⟩
  · rintro ⟨parts, hparts, rfl⟩
    induction hparts with
    | nil => exact .nil
    | cons htakes _ ih => exact .cons htakes ih

namespace PatternTable

variable {table : PatternTable}

/-- The patterns that were compared before make no difference to a comparison. -/
theorem like_fst (h : Faithful wildcard? table) (text pattern : Option String) :
    (like table text pattern).1 = Pattern.like text pattern := by
  unfold like
  split
  next text pattern => exact matchText_fst h likeCapacity pattern text
  next => rfl

/-- Comparisons keep a table faithful. -/
theorem faithful_like (h : Faithful wildcard? table) (text pattern : Option String) :
    Faithful wildcard? (like table text pattern).2 := by
  unfold like
  split
  next text pattern => exact faithful_matchText h likeCapacity pattern text
  next => exact h

end PatternTable

namespace PatternCache

/-- Every text is a wildcard pattern. Whatever was matched and compared before, a value matches it
exactly if it can be cut into parts, one for each character of the pattern, such that each
character takes its part: a star any characters but line feeds, a question mark at most one of
them, and any other character itself. Comparisons of texts say the same, with or without a table
of patterns. -/
theorem matchResource_iff_parts (pattern value : String) :
    (∃ regex, wildcard? pattern = some regex) ∧
      ∀ {cache : PatternCache} {table : PatternTable}, cache.Faithful →
        PatternTable.Faithful wildcard? table →
        ((cache.matchResource pattern value).1 = true ↔
            ∃ parts, List.Forall₂ Takes pattern.toList parts ∧ parts.flatten = value.toList) ∧
          (table.like (some value) (some pattern)).1 = (cache.matchResource pattern value).1 ∧
          Pattern.like (some value) (some pattern) = (cache.matchResource pattern value).1 ∧
          (cache.matchResource pattern value).2.2.Faithful ∧
          PatternTable.Faithful wildcard? (table.like (some value) (some pattern)).2 := by
  refine ⟨⟨_, read?_wildcardSource pattern.toList⟩, fun {cache table} hcache htable => ?_⟩
  have hcached : (cache.matchResource pattern value).1 = matchesText (wildcard? pattern) value :=
    matchResource_fst hcache pattern value
  refine ⟨?_, ?_, hcached.symm, faithful_matchResource hcache pattern value,
    PatternTable.faithful_like htable _ _⟩
  · rw [hcached]
    exact matchesText_wildcard_iff.trans fits_iff_exists_parts
  · rw [hcached]
    exact PatternTable.like_fst htable _ _

/-- A backslash in front of wildcards, a question mark that takes nothing and characters with a
meaning in regular expressions, after other patterns were used. -/
theorem matchResource_iff_parts_meta :
    let cache := (({ capacity := 1 } : PatternCache).matchResource "a.b" "axb").2.2
    let table := (PatternTable.like [] (some "axb") (some "a?b")).2
    cache.Faithful ∧ PatternTable.Faithful wildcard? table ∧
      (cache.matchResource "\\*?.[é*" "\\ab.[é").1 = true ∧
      (table.like (some "\\ab.[é") (some "\\*?.[é*")).1 = true := by
  intro cache table
  have hcache : cache.Faithful := faithful_matchResource (faithful_new 1) "a.b" "axb"
  have htable : PatternTable.Faithful wildcard? table :=
    PatternTable.faithful_like PatternTable.faithful_nil _ _
  obtain ⟨hmatch, hlike, -⟩ := (matchResource_iff_parts "\\*?.[é*" "\\ab.[é").2 hcache htable
  have hmatched : (cache.matchResource "\\*?.[é*" "\\ab.[é").1 = true := by
    refine hmatch.2 ⟨[['\\'], ['a', 'b'], [], ['.'], ['['], ['é'], []], ?_, rfl⟩
    simp [Takes]
  exact ⟨hcache, htable, hmatched, hlike.trans hmatched⟩

end PatternCache

end AccessPolicy
