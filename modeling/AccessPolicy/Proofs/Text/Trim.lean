import AccessPolicy.Text.Blank
import Mathlib.Data.List.DropRight

/-!
# Texts without white space at their ends

Trimming leaves a text as it is exactly if neither its first nor its last character is white space
(`Text.trim_eq_self_iff`).

White space at the ends of a text makes no difference to what trimming leaves
(`Text.trim_of_blank_ends`), nor to the trimmed pieces between separators that are not white space
(`Text.map_trim_splitOn_trim`).
-/

namespace AccessPolicy.Text

variable {cs : List Char}

theorem trimEnd_eq_rdropWhile (cs : List Char) : trimEnd cs = cs.rdropWhile isBlank := by
  induction cs with
  | nil => rfl
  | cons c cs ih =>
    rw [trimEnd, ih, List.rdropWhile, List.rdropWhile, List.reverse_cons, List.dropWhile_append]
    cases hkept : (cs.reverse.dropWhile isBlank).reverse with
    | nil =>
      -- All that follows is white space, so the first character decides what is left.
      rw [List.reverse_eq_nil_iff] at hkept
      by_cases hc : isBlank c <;> simp [hkept, hc]
    | cons d kept =>
      have hsome : ¬(cs.reverse.dropWhile isBlank).isEmpty := by
        rw [List.isEmpty_iff, ← List.reverse_eq_nil_iff, hkept]
        exact List.cons_ne_nil d kept
      rw [if_neg hsome, List.reverse_append, hkept]
      rfl

theorem not_isBlank_of_isDigit {c : Char} (h : c.isDigit = true) : ¬isBlank c := by
  simp only [Char.isDigit, Bool.and_eq_true, decide_eq_true_eq, ge_iff_le,
    UInt32.le_iff_toNat_le] at h
  have hlow : 48 ≤ c.toNat := h.1
  have hhigh : c.toNat ≤ 57 := h.2
  simp only [isBlank, inRanges, blankRanges, List.any_cons, List.any_nil, Bool.not_eq_true,
    Bool.or_false, Bool.or_eq_false_iff, Bool.and_eq_false_iff, decide_eq_false_iff_not]
  omega

theorem trimStart_eq_self_iff :
    trimStart cs = cs ↔ ∀ c, cs.head? = some c → ¬isBlank c := by
  cases cs with
  | nil => simp [trimStart]
  | cons c cs => simp [trimStart, List.dropWhile_eq_self_iff]

/-- Trimming leaves a text as it is if there is no white space at its ends. -/
theorem trim_eq_self_iff : trim cs = cs ↔
    (∀ c, cs.head? = some c → ¬isBlank c) ∧ ∀ c, cs.getLast? = some c → ¬isBlank c := by
  have hend : trimEnd cs = cs ↔ ∀ c, cs.getLast? = some c → ¬isBlank c := by
    rw [trimEnd_eq_rdropWhile, List.rdropWhile_eq_self_iff]
    rcases cs.eq_nil_or_concat with rfl | ⟨init, last, hcs⟩
    · simp
    · simp [hcs]
  rw [← trimStart_eq_self_iff, ← hend, trim]
  constructor
  · intro h
    -- What is cut off at the end leaves nothing to cut off at the start, or the text gets shorter.
    have hprefix : trimEnd (trimStart cs) <+: trimStart cs := by
      rw [trimEnd_eq_rdropWhile]
      exact List.rdropWhile_prefix isBlank _
    have hsuffix : trimStart cs <:+ cs := List.dropWhile_suffix isBlank
    have hlength : cs.length ≤ (trimStart cs).length := by
      simpa [h] using hprefix.length_le
    have hsame : trimStart cs = cs := hsuffix.eq_of_length_le hlength
    exact ⟨hsame, by rwa [hsame] at h⟩
  · rintro ⟨hstart', hend'⟩
    rw [hstart', hend']

/-! ### White space at the ends -/

/-- What is not white space stops trimming at the start. -/
theorem trimStart_append_cons {c : Char} (hc : ¬isBlank c) (front back : List Char) :
    trimStart (front ++ c :: back) = trimStart front ++ c :: back := by
  rw [trimStart, trimStart, List.dropWhile_append]
  split
  next hempty => rw [List.dropWhile_cons_of_neg hc, List.isEmpty_iff.1 hempty, List.nil_append]
  next => rfl

/-- What is not white space stops trimming at the end. -/
theorem trimEnd_append_cons {c : Char} (hc : ¬isBlank c) (front back : List Char) :
    trimEnd (front ++ c :: back) = front ++ c :: trimEnd back := by
  induction front with
  | nil =>
    rw [List.nil_append, List.nil_append, trimEnd]
    split
    next hback => rw [if_neg hc, hback]
    next => rfl
  | cons d front ih =>
    rw [List.cons_append, List.cons_append, trimEnd, ih]
    split
    next h => exact absurd h (List.append_ne_nil_of_right_ne_nil _ (List.cons_ne_nil _ _))
    next => rfl

theorem trimEnd_of_blank (h : ∀ c ∈ cs, isBlank c = true) : trimEnd cs = [] := by
  rw [trimEnd_eq_rdropWhile, List.rdropWhile_eq_nil_iff]
  exact h

/-- The ends of a text are trimmed in any order. -/
theorem trimStart_trimEnd (cs : List Char) : trimStart (trimEnd cs) = trimEnd (trimStart cs) := by
  by_cases hblank : ∀ c ∈ cs, isBlank c = true
  · have hstart : trimStart cs = [] := List.dropWhile_eq_nil_iff.2 hblank
    rw [trimEnd_of_blank hblank, hstart]
    rfl
  · -- Something else stands in the text, and both ends are trimmed up to there at most.
    push Not at hblank
    obtain ⟨c, hmem, hc⟩ := hblank
    obtain ⟨front, back, rfl⟩ := List.append_of_mem hmem
    rw [trimEnd_append_cons hc, trimStart_append_cons hc, trimStart_append_cons hc,
      trimEnd_append_cons hc]

theorem trim_trimStart (cs : List Char) : trim (trimStart cs) = trim cs :=
  congrArg trimEnd (List.dropWhile_idempotent isBlank cs)

theorem trim_trimEnd (cs : List Char) : trim (trimEnd cs) = trim cs := by
  rw [trim, trimStart_trimEnd, trimEnd_eq_rdropWhile, trimEnd_eq_rdropWhile,
    List.rdropWhile_idempotent, ← trimEnd_eq_rdropWhile, trim]

/-- A trimmed text is trimmed. -/
theorem trim_trim (cs : List Char) : trim (trim cs) = trim cs :=
  (trim_trimEnd (trimStart cs)).trans (trim_trimStart cs)

theorem trim_sublist (cs : List Char) : List.Sublist (trim cs) cs := by
  rw [trim, trimEnd_eq_rdropWhile]
  exact (List.rdropWhile_prefix isBlank _).sublist.trans (List.dropWhile_sublist isBlank)

/-- Trimming takes away all white space around a text. -/
theorem trim_of_blank_ends {before after : List Char} (hbefore : ∀ c ∈ before, isBlank c = true)
    (hafter : ∀ c ∈ after, isBlank c = true) (cs : List Char) :
    trim (before ++ cs ++ after) = trim cs := by
  have hstart (more : List Char) : trimStart (before ++ more) = trimStart more :=
    List.dropWhile_append_of_pos hbefore
  have hend : trimEnd (cs ++ after) = trimEnd cs := by
    rw [trimEnd_eq_rdropWhile, trimEnd_eq_rdropWhile, List.rdropWhile, List.rdropWhile,
      List.reverse_append, List.dropWhile_append_of_pos (by simpa using hafter)]
  rw [trim, List.append_assoc, hstart, ← trimStart_trimEnd, hend, trimStart_trimEnd, trim]

section Separator

variable {separator : Char} (h : ¬isBlank separator)

include h

/-- White space at the start belongs to the first piece. -/
theorem map_trim_splitOn_trimStart (cs : List Char) :
    ((trimStart cs).splitOn separator).map trim = (cs.splitOn separator).map trim := by
  have hkept {piece : List Char} (hpiece : separator ∉ piece) : separator ∉ trimStart piece :=
    fun hmem => hpiece ((List.dropWhile_sublist isBlank).mem hmem)
  by_cases hmem : separator ∈ cs
  · obtain ⟨first, rest, rfl, hfirst⟩ := List.eq_append_cons_of_mem hmem
    rw [trimStart_append_cons h, List.splitOn_append_cons_self_of_not_mem hfirst,
      List.splitOn_append_cons_self_of_not_mem (hkept hfirst), List.map_cons, List.map_cons,
      trim_trimStart]
  · rw [List.splitOn_eq_singleton hmem, List.splitOn_eq_singleton (hkept hmem), List.map_singleton,
      List.map_singleton, trim_trimStart]

/-- White space at the end belongs to the last piece. -/
theorem map_trim_splitOn_trimEnd (cs : List Char) :
    ((trimEnd cs).splitOn separator).map trim = (cs.splitOn separator).map trim := by
  -- The pieces are taken off one by one, until the last one is left.
  induction hlength : cs.length using Nat.strong_induction_on generalizing cs with
  | _ n ih =>
    by_cases hmem : separator ∈ cs
    · obtain ⟨first, rest, rfl, hfirst⟩ := List.eq_append_cons_of_mem hmem
      have hrest : rest.length < n := by
        rw [← hlength, List.length_append, List.length_cons]
        omega
      rw [trimEnd_append_cons h, List.splitOn_append_cons_self_of_not_mem hfirst,
        List.splitOn_append_cons_self_of_not_mem hfirst, List.map_cons, List.map_cons,
        ih _ hrest rest rfl]
    · have hkept : separator ∉ trimEnd cs := by
        rw [trimEnd_eq_rdropWhile]
        exact fun h => hmem ((List.rdropWhile_prefix isBlank _).mem h)
      rw [List.splitOn_eq_singleton hmem, List.splitOn_eq_singleton hkept, List.map_singleton,
        List.map_singleton, trim_trimEnd]

/-- Where pieces are trimmed, it makes no difference whether the text was trimmed before. -/
theorem map_trim_splitOn_trim (cs : List Char) :
    ((trim cs).splitOn separator).map trim = (cs.splitOn separator).map trim :=
  (map_trim_splitOn_trimEnd h _).trans (map_trim_splitOn_trimStart h cs)

end Separator

/-! ### Words -/

/-- None of some characters is in a text. -/
def IsFree (marks : List Char) (text : String) : Prop :=
  ∀ c ∈ marks, c ∉ text.toList

instance (marks : List Char) (text : String) : Decidable (IsFree marks text) :=
  List.decidableBAll (fun c => c ∉ text.toList) marks

/-- A text that is not empty, has no white space at its ends and has none of some characters. -/
structure IsWord (marks : List Char) (text : String) : Prop where
  /-- There is some text. -/
  ne_empty : text ≠ ""
  /-- Trimming leaves the text as it is. -/
  trimmed : Text.trimmed text = text
  /-- None of the characters is in the text. -/
  free : IsFree marks text

instance (marks : List Char) (text : String) : Decidable (IsWord marks text) :=
  decidable_of_iff (text ≠ "" ∧ trimmed text = text ∧ IsFree marks text)
    ⟨fun h => ⟨h.1, h.2.1, h.2.2⟩, fun h => ⟨h.ne_empty, h.trimmed, h.free⟩⟩

theorem IsWord.trim_toList {marks : List Char} {text : String} (h : IsWord marks text) :
    trim text.toList = text.toList := by
  have htext := congrArg String.toList h.trimmed
  rwa [Text.trimmed, String.toList_ofList] at htext

/-- A word without some characters is a word without part of them. -/
theorem IsWord.mono {marks fewer : List Char} {text : String} (h : IsWord marks text)
    (hsubset : fewer ⊆ marks) : IsWord fewer text where
  ne_empty := h.ne_empty
  trimmed := h.trimmed
  free c hc := h.free c (hsubset hc)

end AccessPolicy.Text
