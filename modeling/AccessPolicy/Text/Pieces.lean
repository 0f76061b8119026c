/-!
# Cutting texts into pieces

Splitting at every occurrence of a separator text, cutting at the first one, and replacing
every occurrence of a text. Occurrences are found from the left and never overlap. Putting the
separator between the pieces gives the text back (`intercalate_split`).
-/

namespace AccessPolicy.Text

/-- What follows `front` in `cs`, if `cs` begins with it. -/
def dropFront? : (front cs : List Char) → Option (List Char)
  | [], cs => some cs
  | _ :: _, [] => none
  | f :: front, c :: cs => if f = c then dropFront? front cs else none

/-- What follows `front` is shorter than the whole by the length of `front`. -/
theorem length_of_dropFront? {front cs rest : List Char} (h : dropFront? front cs = some rest) :
    rest.length + front.length = cs.length := by
  induction front generalizing cs with
  | nil => simp_all [dropFront?]
  | cons f front ih =>
    cases cs with
    | nil => simp [dropFront?] at h
    | cons c cs =>
      simp only [dropFront?] at h
      split at h
      · have := ih h
        simp only [List.length_cons]
        omega
      · simp at h

/-- The pieces between the occurrences of the non-empty separator `s :: sep`. -/
def splitOnText (s : Char) (sep : List Char) (cs : List Char) : List (List Char) :=
  match cs with
  | [] => [[]]
  | c :: rest =>
    match _found : dropFront? (s :: sep) (c :: rest) with
    | some after => [] :: splitOnText s sep after
    | none => (splitOnText s sep rest).modifyHead (c :: ·)
termination_by cs.length
decreasing_by
  · have := length_of_dropFront? _found
    simp only [List.length_cons] at this ⊢
    omega
  · simp

/-- The pieces between the occurrences of a separator. The empty separator stands before every
character and at both ends, so the first and the last piece are then empty. -/
def split (sep : List Char) (cs : List Char) : List (List Char) :=
  match sep with
  | [] => [] :: (cs.map fun c => [c]) ++ [[]]
  | s :: sep => splitOnText s sep cs

/-- There is always a piece. -/
theorem splitOnText_ne_nil (s : Char) (sep cs : List Char) : splitOnText s sep cs ≠ [] := by
  fun_induction splitOnText s sep cs with
  | case1 => simp
  | case2 => simp
  | case3 c rest _ ih => simpa using ih

/-- What follows `front` gives the whole with `front` before it. -/
theorem append_of_dropFront? {front cs rest : List Char} (h : dropFront? front cs = some rest) :
    front ++ rest = cs := by
  fun_induction dropFront? front cs with
  | case1 cs => simpa using h.symm
  | case2 => simp at h
  | case3 f front cs ih => simp [ih h]
  | case4 => simp at h

/-- The pieces between a non-empty separator give the text back. -/
theorem intercalate_splitOnText (s : Char) (sep cs : List Char) :
    (s :: sep).intercalate (splitOnText s sep cs) = cs := by
  fun_induction splitOnText s sep cs with
  | case1 => simp
  | case2 c rest after found ih =>
    rw [List.intercalate_cons_of_ne_nil (splitOnText_ne_nil s sep after), ih]
    simpa using append_of_dropFront? found
  | case3 c rest _ ih =>
    cases pieces : splitOnText s sep rest with
    | nil => exact absurd pieces (splitOnText_ne_nil s sep rest)
    | cons piece more => simpa [pieces, List.intercalate_cons_cons_left] using ih

/-- The empty text between pieces adds nothing. -/
theorem intercalate_empty : (pieces : List (List Char)) → [].intercalate pieces = pieces.flatten
  | [] => rfl
  | [piece] => by simp
  | piece :: next :: pieces => by
    simp [List.intercalate_cons_cons, intercalate_empty (next :: pieces)]

/-- The pieces of a text with the separator between them are the text. -/
theorem intercalate_split (sep cs : List Char) : sep.intercalate (split sep cs) = cs := by
  cases sep with
  | cons s sep => exact intercalate_splitOnText s sep cs
  | nil =>
    have letters : (cs.map fun c => [c]).flatten = cs := by
      induction cs with
      | nil => rfl
      | cons c cs ih => simpa using ih
    simp [split, intercalate_empty, letters]

/-- The text with `new` in place of every occurrence of the non-empty text `old`. -/
def replaceAll (old new : List Char) (cs : List Char) : List Char :=
  new.intercalate (split old cs)

/-- What stands before and after the first occurrence of `sep`. -/
def cutAt? (sep : List Char) : List Char → Option (List Char × List Char)
  | [] => if sep.isEmpty then some ([], []) else none
  | c :: cs =>
    match dropFront? sep (c :: cs) with
    | some rest => some ([], rest)
    | none => (cutAt? sep cs).map fun cut => (c :: cut.1, cut.2)

/-- The separator and what stands before and after it make up the whole. -/
theorem length_of_cutAt? {sep cs before after : List Char}
    (h : cutAt? sep cs = some (before, after)) :
    before.length + sep.length + after.length = cs.length := by
  induction cs generalizing before with
  | nil =>
    simp only [cutAt?] at h
    split at h
    · simp_all
    · simp at h
  | cons c cs ih =>
    simp only [cutAt?] at h
    split at h
    · rename_i rest found
      have := length_of_dropFront? found
      simp only [Option.some.injEq, Prod.mk.injEq] at h
      obtain ⟨rfl, rfl⟩ := h
      simp only [List.length_nil, List.length_cons] at this ⊢
      omega
    · obtain ⟨⟨before', after'⟩, found, heq⟩ := Option.map_eq_some_iff.1 h
      simp only [Prod.mk.injEq] at heq
      obtain ⟨rfl, rfl⟩ := heq
      have := ih found
      simp only [List.length_cons]
      omega

end AccessPolicy.Text
