import AccessPolicy.Proofs.Text.Pieces
import AccessPolicy.Standard.Library

/-!
# Splitting and joining

The pipes `split` and `join` with the same separator undo each other (`Standard.split_join`). A
text is always what its pieces make up. A list of texts is found again if the separator is not
empty and has no character in common with the texts: then the separators that were put between
them are the only ones that there are (`Text.split_intercalate`).
-/

namespace AccessPolicy.Standard

/-- A list of texts is joined to these texts with the separator between them. -/
theorem joinItems_texts (separator : String) (texts : List String) :
    joinItems separator (.array (texts.map .string)) = .string (separator.intercalate texts) := by
  have htexts : (texts.map Value.string).filterMap Value.toText? = texts := by
    rw [List.filterMap_map]
    exact List.filterMap_some
  rw [joinItems, htexts]

/-- The pieces of a text are texts. -/
theorem splitValue_string (separator text : String) :
    splitValue separator (.string text) =
      .array (((Text.split separator.toList text.toList).map String.ofList).map .string) := by
  rw [List.map_map]
  rfl

/-- The pieces of a text make up the text. -/
theorem joinItems_splitValue (separator text : String) :
    joinItems separator (splitValue separator (.string text)) = .string text := by
  rw [splitValue_string, joinItems_texts]
  congr 1
  rw [← String.toList_inj, String.toList_intercalate, List.map_map]
  have hpieces (pieces : List (List Char)) :
      pieces.map (String.toList ∘ String.ofList) = pieces := by
    simp [Function.comp_def]
  rw [hpieces, Text.intercalate_split]

/-- Texts without a character of the separator are the pieces that they make up. -/
theorem splitValue_joinItems {separator : String} (hseparator : separator ≠ "")
    {texts : List String} (hsome : texts ≠ [])
    (h : ∀ text ∈ texts, ∀ c ∈ text.toList, c ∉ separator.toList) :
    splitValue separator (joinItems separator (.array (texts.map .string))) =
      .array (texts.map .string) := by
  -- The pipes work on texts, the pieces are lists of characters.
  have hpieces : Text.split separator.toList
      (separator.toList.intercalate (texts.map String.toList)) = texts.map String.toList := by
    refine Text.split_intercalate (mt String.toList_eq_nil_iff.1 hseparator)
      (mt List.map_eq_nil_iff.1 hsome) fun piece hpiece => ?_
    obtain ⟨text, htext, rfl⟩ := List.mem_map.1 hpiece
    exact h text htext
  rw [joinItems_texts, splitValue_string, String.toList_intercalate, hpieces, List.map_map]
  simp [Function.comp_def]

/-- The pipes `split` and `join` with the same separator undo each other: splitting and joining
gives every text back, and joining and splitting gives a list of texts back that have no character
in common with a separator that is not empty. -/
theorem split_join (separator : String) (more others : List String) :
    pipes.find? "split" = some splitPipe ∧ pipes.find? "join" = some joinPipe ∧
      ∃ split join, splitPipe (separator :: more) = .ok split ∧
        joinPipe (separator :: others) = .ok join ∧
        (∀ scope text, Transform.runAll scope [split, join] (.string text) =
          (.string text, [])) ∧
        (separator ≠ "" → ∀ texts, texts ≠ [] →
          (∀ text ∈ texts, ∀ c ∈ text.toList, c ∉ separator.toList) →
            ∀ scope, Transform.runAll scope [join, split] (.array (texts.map .string)) =
              (.array (texts.map .string), [])) := by
  refine ⟨rfl, rfl, .pure (splitValue separator), .pure (joinItems separator), rfl, rfl,
    fun scope text => ?_, fun hseparator texts hsome h scope => ?_⟩
  · exact Prod.ext (joinItems_splitValue separator text) rfl
  · exact Prod.ext (splitValue_joinItems hseparator hsome h) rfl

/-- A separator that overlaps itself, three of its letters at the beginning of a text, and empty
texts in a list. -/
theorem split_join_overlapping :
    let texts := ["", "b c", "", ""]
    (∀ text ∈ texts, ∀ c ∈ text.toList, c ∉ "aa".toList) ∧
      ∃ split join, splitPipe ["aa", "b"] = .ok split ∧ joinPipe ["aa"] = .ok join ∧ ∀ scope,
        Transform.runAll scope [split, join] (.string "aaaba") = (.string "aaaba", []) ∧
        Transform.runAll scope [join, split] (.array (texts.map .string)) =
          (.array (texts.map .string), []) := by
  intro texts
  have happart : ∀ text ∈ texts, ∀ c ∈ text.toList, c ∉ "aa".toList := by simp [texts]
  obtain ⟨-, -, split, join, hsplit, hjoin, htext, hlist⟩ := split_join "aa" ["b"] []
  exact ⟨happart, split, join, hsplit, hjoin, fun scope =>
    ⟨htext scope "aaaba", hlist (by decide) texts (by decide) happart scope⟩⟩

end AccessPolicy.Standard
