import AccessPolicy.Expression.Library
import AccessPolicy.Proofs.Text.Pieces

/-!
# Templates and their pieces

A text is read piece by piece (`Vocabulary.readPieces`), and the text of a template is that of its
parts one after the other (`Template.inlineText_run`).
-/

namespace AccessPolicy

/-! ### Pieces -/

/-- The pieces of a text. A segment reaches from `${` to the next closing brace; without one the
rest is literal. -/
def Piece.ofText (cs : List Char) : List Piece :=
  match _opened : Text.cutAt? ['$', '\x7b'] cs with
  | none => [.text cs]
  | some (before, rest) =>
    match _closed : Text.cutAt? ['\x7d'] rest with
    | none => [.text cs]
    | some (inside, after) => .text before :: .segment inside :: Piece.ofText after
termination_by cs.length
decreasing_by
  have := Text.length_of_cutAt? _opened
  have := Text.length_of_cutAt? _closed
  simp only [List.length_cons, List.length_nil] at *
  omega

namespace Piece

variable {cs before rest inside after : List Char}

theorem ofText_of_unopened (h : Text.cutAt? ['$', '\x7b'] cs = none) :
    ofText cs = [.text cs] := by
  rw [ofText]
  split
  next => rfl
  next hopened => rw [h] at hopened; cases hopened

theorem ofText_of_unclosed (hopened : Text.cutAt? ['$', '\x7b'] cs = some (before, rest))
    (hclosed : Text.cutAt? ['\x7d'] rest = none) : ofText cs = [.text cs] := by
  rw [ofText]
  split
  next => rfl
  next h =>
    rw [hopened] at h
    obtain ⟨rfl, rfl⟩ := Prod.mk.inj (Option.some.inj h)
    split
    next => rfl
    next h => rw [hclosed] at h; cases h

/-- The first segment of a text reaches to the next closing brace. -/
theorem ofText_of_segment (hopened : Text.cutAt? ['$', '\x7b'] cs = some (before, rest))
    (hclosed : Text.cutAt? ['\x7d'] rest = some (inside, after)) :
    ofText cs = .text before :: .segment inside :: ofText after := by
  rw [ofText]
  split
  next h => rw [hopened] at h; cases h
  next h =>
    rw [hopened] at h
    obtain ⟨rfl, rfl⟩ := Prod.mk.inj (Option.some.inj h)
    split
    next h => rw [hclosed] at h; cases h
    next h =>
      rw [hclosed] at h
      obtain ⟨rfl, rfl⟩ := Prod.mk.inj (Option.some.inj h)
      rfl

/-- A text that is one segment has it between two empty texts. -/
theorem ofText_enclosed (h : '\x7d' ∉ inside) :
    ofText ('$' :: '\x7b' :: (inside ++ ['\x7d'])) = [.text [], .segment inside, .text []] := by
  rw [ofText_of_segment rfl (Text.cutAt?_singleton_append h []), ofText_of_unopened rfl]

/-- The two passes through a text give its pieces. -/
theorem weave_eq_ofText (cs : List Char) : weave (literals cs) (segments cs) = ofText cs := by
  fun_induction ofText cs with
  | case1 cs hopened =>
    have hnone : firstSegment? cs = none := by simp [firstSegment?, hopened]
    rw [literals_of_none hnone, segments_of_none hnone]
    rfl
  | case2 cs before rest hopened hclosed =>
    have hnone : firstSegment? cs = none := by simp [firstSegment?, hopened, hclosed]
    rw [literals_of_none hnone, segments_of_none hnone]
    rfl
  | case3 cs before rest hopened inside after hclosed ih =>
    have hfound := firstSegment?_eq_some_iff.2 ⟨rest, hopened, hclosed⟩
    rw [literals_of_found hfound, segments_of_found hfound, weave, ih]

end Piece

/-! ### Parts -/

/-- The text of some parts one after the other, with their events. -/
def Part.render (context : Context) (parts : List Part) : String × List Event :=
  (String.join (parts.map fun part => (part.run context).1.inlineText),
    parts.flatMap fun part => (part.run context).2)

theorem Part.render_append (context : Context) (parts more : List Part) :
    Part.render context (parts ++ more) =
      ((Part.render context parts).1 ++ (Part.render context more).1,
        (Part.render context parts).2 ++ (Part.render context more).2) := by
  simp [Part.render]

namespace Template

/-- The parts of a template, in order. -/
def parts : Template → List Part
  | .single part => [part]
  | .concat parts => parts

@[simp]
theorem parts_ofParts (parts : List Part) : (ofParts parts).parts = parts := by
  unfold ofParts
  split <;> rfl

/-- The text of a template is that of its parts, whether it keeps the value of a single part or
joins the texts of several. -/
theorem inlineText_run (context : Context) (template : Template) :
    (template.run context).1.inlineText = (Part.render context template.parts).1 := by
  cases template with
  | single part => simp [run, Part.render, parts]
  | concat parts =>
    simp only [run, Part.render, Template.parts, List.map_map]
    rfl

/-- The events of a template are those of its parts. -/
theorem events_run (context : Context) (template : Template) :
    (template.run context).2 = (Part.render context template.parts).2 := by
  cases template with
  | single part => simp [run, Part.render, parts]
  | concat parts => simp [run, Part.render, Template.parts, List.flatMap_map]

end Template

/-! ### Reading -/

namespace Vocabulary

variable (vocabulary : Vocabulary)

/-- Where the key of a segment is known, reading goes on with the stages. -/
theorem readSegment_of_key {segment front : List Char} {stages : List (List Char)} {key : Key}
    {handler : KeyHandler} (hsegment : segment.splitOn '|' = front :: stages)
    (hkey : Key.read? (String.ofList front) = some key)
    (hhandler : vocabulary.keys.find? key = some handler) :
    vocabulary.readSegment segment =
      (stages.mapM vocabulary.readStage).map (.lookup key handler) := by
  have hread : Key.read (String.ofList front) = .ok key := Key.read_eq_ok_iff.2 hkey
  rw [readSegment]
  simp only [hsegment, List.headD_cons, hread, hhandler, bind, Except.bind, List.drop_one,
    List.tail_cons]
  cases stages.mapM vocabulary.readStage <;> rfl

/-- The parts of some pieces. -/
def readPieces (pieces : List Piece) : Except ExprError (List Part) := do
  let parts ← pieces.mapM vocabulary.readPiece
  return parts.filterMap id

theorem readTemplate_eq (text : String) :
    vocabulary.readTemplate text =
      (vocabulary.readPieces (Piece.ofText text.toList)).map .ofParts := by
  unfold readTemplate
  split
  next pieces hpieces =>
    rw [Piece.alternate_scanned, Piece.weave_eq_ofText] at hpieces
    obtain rfl := Except.ok.inj hpieces
    rw [readPieces]
    cases (Piece.ofText text.toList).mapM vocabulary.readPiece <;> rfl
  next hpieces => rw [Piece.alternate_scanned] at hpieces; cases hpieces

/-- Pieces are read one after the other. -/
theorem readPieces_append (front back : List Piece) :
    vocabulary.readPieces (front ++ back) = do
      let parts ← vocabulary.readPieces front
      let more ← vocabulary.readPieces back
      return parts ++ more := by
  simp only [readPieces, List.mapM_append, bind_assoc, pure_bind, List.filterMap_append]

/-- The parts of literal text. -/
def literal (cs : List Char) : List Part :=
  if cs.isEmpty then [] else [.const (.string (String.ofList cs))]

/-- Literal text is its own text and causes no events. -/
theorem render_literal (context : Context) (cs : List Char) :
    Part.render context (literal cs) = (String.ofList cs, []) := by
  rw [literal]
  split
  next hcs =>
    rw [List.isEmpty_iff.1 hcs]
    rfl
  next => simp [Part.render, Part.run, Value.inlineText, Value.toText?]

@[simp]
theorem readPieces_text (cs : List Char) :
    vocabulary.readPieces [.text cs] = .ok (literal cs) := by
  rw [readPieces, literal, List.mapM_cons, List.mapM_nil, readPiece]
  split <;> rfl

/-- A text that opens no segment is read as it is. -/
theorem readTemplate_literal {text : String}
    (h : Text.cutAt? ['$', '\x7b'] text.toList = none) :
    vocabulary.readTemplate text = .ok (.ofParts (literal text.toList)) := by
  rw [readTemplate_eq, Piece.ofText_of_unopened h, readPieces_text]
  rfl

theorem readPieces_text_cons (cs : List Char) (pieces : List Piece) :
    vocabulary.readPieces (.text cs :: pieces) =
      (vocabulary.readPieces pieces).map (literal cs ++ ·) := by
  rw [← List.singleton_append, readPieces_append, readPieces_text]
  cases vocabulary.readPieces pieces <;> rfl

theorem readPieces_segment_cons (cs : List Char) (pieces : List Piece) :
    vocabulary.readPieces (.segment cs :: pieces) = do
      let part ← vocabulary.readSegment cs
      let parts ← vocabulary.readPieces pieces
      return part :: parts := by
  rw [readPieces, List.mapM_cons, readPiece, readPieces]
  cases vocabulary.readSegment cs with
  | error e => rfl
  | ok part => cases pieces.mapM vocabulary.readPiece <;> rfl

/-- A text that is one segment is read as the part of this segment. -/
theorem readTemplate_enclosed {text : String} {inside : List Char}
    (htext : text.toList = '$' :: '\x7b' :: (inside ++ ['\x7d'])) (h : '\x7d' ∉ inside) :
    vocabulary.readTemplate text = (vocabulary.readSegment inside).map .single := by
  rw [readTemplate_eq, htext, Piece.ofText_enclosed h, readPieces_text_cons,
    readPieces_segment_cons, readPieces_text]
  cases vocabulary.readSegment inside <;> rfl

end Vocabulary

end AccessPolicy
