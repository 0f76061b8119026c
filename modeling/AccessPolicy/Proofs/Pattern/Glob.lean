import AccessPolicy.Pattern.Wildcard
import AccessPolicy.Proofs.Pattern.Parts
import AccessPolicy.Proofs.Text.Pieces

/-!
# What action globs match

In the regular expression of an action glob every star is a group with a run of characters
(`globSource_eq`). The dot in it does not match line feeds, so a star alone matches the actions
without them (`matchesText_star_iff`); under a flag it matches every action
(`matchesText_flaggedStar`).
-/

namespace AccessPolicy.Pattern

open Regex

/-- What a character of a glob becomes. -/
def globPart (c : Char) : List Char :=
  if c = '*' then ['(', '.', '*', ')'] else [c]

/-- Stars become groups, and what surrounds them stays as it is. -/
theorem globSource_eq (glob : List Char) :
    globSource glob = ['^', '(', '?', ':'] ++ glob.flatMap globPart ++ [')', '$'] := by
  rw [globSource, Text.replaceAll_singleton]
  rfl

section Run

variable {text : List Char} (cls : CharClass)

/-- A group around an expression matches what the expression matches. -/
theorem spans_group_iff {r : Regex} {i j : Nat} :
    Spans text (.seq .empty r) i j ↔ Spans text r i j := by
  constructor
  · rintro ⟨k, rfl, hkj⟩
    exact hkj
  · exact fun hij => ⟨i, rfl, hij⟩

/-- A run of characters between the anchors matches the texts that consist of such characters. -/
theorem isMatch_run_iff {r : Regex}
    (hr : ∀ i j, Spans text r i j ↔ Spans text (.times (.char cls) 0 none) i j) :
    (Regex.seq (.seq (.seq .empty (.look ({} : RegexFlags).lineStart)) r)
      (.look ({} : RegexFlags).lineEnd)).isMatch text = true ↔ ∀ c ∈ text, cls c = true := by
  refine isMatch_anchored_iff (p := fun part => ∀ c ∈ part, cls c = true) fun i j => ?_
  constructor
  -- The anchor in front is met at the first position only.
  · rintro ⟨k, hik, hkj⟩
    obtain ⟨rfl, rfl⟩ := spans_lineStart_iff.1 (spans_group_iff.1 hik)
    obtain ⟨part, -, hpart, hat⟩ := spans_run_iff.1 ((hr _ _).1 hkj)
    exact ⟨rfl, part, hpart, hat⟩
  · rintro ⟨rfl, part, hpart, hat⟩
    exact ⟨0, spans_group_iff.2 (spans_lineStart_iff.2 ⟨rfl, rfl⟩),
      (hr _ _).2 (spans_run_iff.2 ⟨part, by simp, hpart, hat⟩)⟩

end Run

/-- A star alone matches the actions without line feeds. -/
theorem matchesText_star_iff {action : String} :
    matchesText (glob? "*") action = true ↔ '\n' ∉ action.toList := by
  have hread : glob? "*" = some (.seq (.seq (.seq .empty (.look ({} : RegexFlags).lineStart))
      (.seq .empty (.seq .empty (.times (.char (dotClass {})) 0 none))))
        (.look ({} : RegexFlags).lineEnd)) := by
    rw [glob?, globSource_eq]
    rfl
  rw [hread, matchesText, dotClass_default]
  refine (isMatch_run_iff CharClass.notLineFeed fun i j => ?_).trans forall_notLineFeed_iff
  rw [spans_group_iff, spans_group_iff]

/-- With the flag by which the dot matches line feeds too, a star matches every action. -/
theorem matchesText_flaggedStar (action : String) :
    matchesText (glob? "(?s:*)") action = true := by
  let cls := dotClass { dotAll := true }
  have hread : glob? "(?s:*)" = some (.seq (.seq (.seq .empty (.look ({} : RegexFlags).lineStart))
      (.seq .empty (.seq .empty (.seq .empty (.times (.char cls) 0 none)))))
        (.look ({} : RegexFlags).lineEnd)) := by
    rw [glob?, globSource_eq]
    rfl
  rw [hread, matchesText]
  refine (isMatch_run_iff cls fun i j => ?_).2 fun c _ => rfl
  rw [spans_group_iff, spans_group_iff, spans_group_iff]

end AccessPolicy.Pattern
