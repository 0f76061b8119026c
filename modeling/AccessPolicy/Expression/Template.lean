import AccessPolicy.Expression.Pipe
import AccessPolicy.Expression.Scan
import AccessPolicy.Json.Coercion

/-!
# Templates

A template is text with segments `${key | pipe:argument | …}`. Keys and pipes are resolved when
the template is read, so a template that was read always has a value: a single part has its own
value, and any other number of parts the text of all of them.
-/

namespace AccessPolicy

/-- A part of a template. -/
inductive Part where
  /-- A fixed value. -/
  | const (value : Value)
  /-- The value of a key after some transformations. -/
  | lookup (key : Key) (handler : KeyHandler) (transforms : List Transform)

/-- A text with segments. -/
inductive Template where
  /-- A single part, whose value is kept as it is. -/
  | single (part : Part)
  /-- Parts whose texts follow each other. -/
  | concat (parts : List Part)

namespace Part

/-- The value of a part with its events. A key of the context comes before the handler that was
found when the template was read. -/
def run (context : Context) : Part → Value × List Event
  | .const v => (v, [])
  | .lookup key handler transforms =>
    let handler := (context.localHandler? key).getD handler
    Transform.runAll context.toScope transforms (handler.value key context.toScope)

/-- The fields that a part refers to. -/
def fields : Part → List String
  | .const _ => []
  | .lookup key handler _ => handler.fields key

end Part

namespace Template

/-- The template with a fixed value. -/
def const (value : Value) : Template :=
  .single (.const value)

/-- The template of a list of parts. -/
def ofParts : List Part → Template
  | [part] => .single part
  | parts => .concat parts

/-- The value of a template with its events. -/
def run (context : Context) : Template → Value × List Event
  | .single part => part.run context
  | .concat parts =>
    let results := parts.map (Part.run context)
    (.string (String.join (results.map fun result => result.1.inlineText)),
      results.flatMap (·.2))

/-- The outcome of a template, which is never an error. -/
def eval (context : Context) (template : Template) : Outcome ExprError Value :=
  let (v, events) := template.run context
  ⟨events, .ok v⟩

/-- The fields that the segments of a template refer to, in order. -/
def fields : Template → List String
  | .single part => part.fields
  | .concat parts => parts.flatMap Part.fields

end Template

/-- What keys and pipes a template may use. -/
structure Vocabulary where
  /-- The keys. -/
  keys : KeyResolver
  /-- The pipes. -/
  pipes : Registry Pipe

namespace Vocabulary

/-- What stands in for a colon after a backslash while a stage is cut at its colons. -/
def colonStandIn : List Char :=
  ['\x00', 'C', 'O', 'L', 'O', 'N', '\x00']

/-- The name and the arguments of a stage, between colons. A backslash in front of a colon makes
it part of an argument. -/
def stageTokens (stage : List Char) : List String :=
  ((Text.replaceAll ['\\', ':'] colonStandIn stage).splitOn ':').map fun token =>
    String.ofList (Text.replaceAll colonStandIn [':'] token)

/-- The transformation of a stage. -/
def readStage (vocabulary : Vocabulary) (stage : List Char) : Except ExprError Transform :=
  match stageTokens stage with
  | [] => .error (.invalidPipe (String.ofList stage))
  | token :: args =>
    let name := Text.trimmed token
    if name.isEmpty then .error (.invalidPipe (String.ofList stage))
    else
      match vocabulary.pipes.find? name with
      | some pipe => pipe args
      | none => .error (.pipeNotFound name)

/-- The part of a segment: a key and stages, with bars between them. -/
def readSegment (vocabulary : Vocabulary) (segment : List Char) : Except ExprError Part := do
  let stages := segment.splitOn '|'
  let key ← Key.read (String.ofList (stages.headD []))
  let some handler := vocabulary.keys.find? key | throw (.keyNotFound key.toText)
  -- An unknown key is reported before the stages are read.
  return .lookup key handler (← (stages.drop 1).mapM vocabulary.readStage)

/-- The part of a piece, which is none for empty text. -/
def readPiece (vocabulary : Vocabulary) : Piece → Except ExprError (Option Part)
  | .text cs => .ok (if cs.isEmpty then none else some (.const (.string (String.ofList cs))))
  | .segment cs => (vocabulary.readSegment cs).map some

/-- The template of a text. -/
def readTemplate (vocabulary : Vocabulary) (text : String) : Except ExprError Template :=
  match h : Piece.alternate (Piece.literals text.toList) (Piece.segments text.toList) with
  | .ok pieces => do
    let parts ← pieces.mapM vocabulary.readPiece
    return .ofParts (parts.filterMap id)
  | .error _ => nomatch (Piece.alternate_scanned text.toList).symm.trans h

end Vocabulary

end AccessPolicy
