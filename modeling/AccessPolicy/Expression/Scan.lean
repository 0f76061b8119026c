import AccessPolicy.Text.Pieces

/-!
# Cutting the text of a template

The text of a template is gone through twice, once for the literal texts around its segments `${…}`
and once for what stands between their braces. Both passes go from each leftmost segment to the next,
so there is always one literal text more than there are segments (`Piece.length_literals`). Where
that failed, the pieces of the text could not be told.
-/

namespace AccessPolicy

/-- A piece of the text of a template. -/
inductive Piece where
  /-- Literal text. -/
  | text (cs : List Char)
  /-- What stands between the braces of a segment. -/
  | segment (cs : List Char)
deriving DecidableEq

namespace Piece

/-- The leftmost segment of a text: what stands in front of it, between its braces and behind it.
It reaches from `${` to the next closing brace. -/
def firstSegment? (cs : List Char) : Option (List Char × List Char × List Char) := do
  let (before, rest) ← Text.cutAt? ['$', '\x7b'] cs
  let (inside, after) ← Text.cutAt? ['\x7d'] rest
  return (before, inside, after)

theorem firstSegment?_eq_some_iff {cs before inside after : List Char} :
    firstSegment? cs = some (before, inside, after) ↔
      ∃ rest, Text.cutAt? ['$', '\x7b'] cs = some (before, rest) ∧
        Text.cutAt? ['\x7d'] rest = some (inside, after) := by
  constructor
  · intro h
    obtain ⟨⟨front, rest⟩, hopened, h⟩ := Option.bind_eq_some_iff.1 h
    obtain ⟨⟨inner, behind⟩, hclosed, h⟩ := Option.bind_eq_some_iff.1 h
    obtain ⟨rfl, rfl, rfl⟩ := by simpa using h
    exact ⟨rest, hopened, hclosed⟩
  · rintro ⟨rest, hopened, hclosed⟩
    simp [firstSegment?, hopened, hclosed]

/-- What is left behind a segment is shorter. -/
theorem length_of_firstSegment? {cs before inside after : List Char}
    (h : firstSegment? cs = some (before, inside, after)) : after.length < cs.length := by
  obtain ⟨rest, hopened, hclosed⟩ := firstSegment?_eq_some_iff.1 h
  have := Text.length_of_cutAt? hopened
  have := Text.length_of_cutAt? hclosed
  simp only [List.length_cons, List.length_nil] at *
  omega

/-- The literal texts in front of the segments, and the one behind the last of them. -/
def literals (cs : List Char) : List (List Char) :=
  match _found : firstSegment? cs with
  | some (before, _, after) => before :: literals after
  | none => [cs]
termination_by cs.length
decreasing_by exact length_of_firstSegment? _found

/-- What stands between the braces of the segments. -/
def segments (cs : List Char) : List (List Char) :=
  match _found : firstSegment? cs with
  | some (_, inside, after) => inside :: segments after
  | none => []
termination_by cs.length
decreasing_by exact length_of_firstSegment? _found

section Passes

variable {cs before inside after : List Char}

theorem literals_of_found (h : firstSegment? cs = some (before, inside, after)) :
    literals cs = before :: literals after := by
  rw [literals]
  split
  next found =>
    rw [h] at found
    obtain ⟨rfl, rfl, rfl⟩ := by simpa using found
    rfl
  next found => rw [h] at found; cases found

theorem literals_of_none (h : firstSegment? cs = none) : literals cs = [cs] := by
  rw [literals]
  split
  next found => rw [h] at found; cases found
  next => rfl

theorem segments_of_found (h : firstSegment? cs = some (before, inside, after)) :
    segments cs = inside :: segments after := by
  rw [segments]
  split
  next found =>
    rw [h] at found
    obtain ⟨rfl, rfl, rfl⟩ := by simpa using found
    rfl
  next found => rw [h] at found; cases found

theorem segments_of_none (h : firstSegment? cs = none) : segments cs = [] := by
  rw [segments]
  split
  next found => rw [h] at found; cases found
  next => rfl

/-- Both passes find the same segments. -/
theorem length_literals (cs : List Char) : (literals cs).length = (segments cs).length + 1 := by
  fun_induction literals cs with
  | case1 cs before inside after found ih =>
    rw [segments_of_found found, List.length_cons, List.length_cons, ih]
  | case2 cs found => rw [segments_of_none found, List.length_singleton, List.length_nil]

end Passes

/-- Literal texts and segments in turn, as long as there are literal texts. -/
def weave : List (List Char) → List (List Char) → List Piece
  | [], _ => []
  | literal :: literals, [] => .text literal :: weave literals []
  | literal :: literals, inside :: segments =>
    .text literal :: .segment inside :: weave literals segments

/-- The pieces of a text with the given literal texts and segments, of which there is to be one
less. -/
def alternate (literals segments : List (List Char)) : Except String (List Piece) :=
  if literals.length = segments.length + 1 then .ok (weave literals segments)
  else .error ("expected " ++ toString (segments.length + 1) ++ " literal segments around " ++
    toString segments.length ++ " pipes, found " ++ toString literals.length)

/-- The pieces of every text can be told. -/
theorem alternate_scanned (cs : List Char) :
    alternate (literals cs) (segments cs) = .ok (weave (literals cs) (segments cs)) :=
  if_pos (length_literals cs)

end Piece

end AccessPolicy
