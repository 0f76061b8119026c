import AccessPolicy.Proofs.Expression.Engine
import AccessPolicy.Proofs.Expression.Key
import AccessPolicy.Proofs.Expression.Template
import AccessPolicy.Proofs.Text.Trim
import Mathlib.Data.List.Forall2

/-!
# Writing segments

A key and the pipes that its value goes through are written as a segment, with bars between them,
colons between a pipe and its arguments, and a backslash in front of each colon of an argument
(`Segment.toText`). Reading undoes this writing for arguments of any content but bars, closing
braces and null characters, as long as no backslash ends an argument in front of another one
(`Vocabulary.stageTokens_toStage`). So the value of the text is that of the key after the pipes
(`Engine.eval_segment`).
-/

namespace AccessPolicy

/-! ### Texts that can be written -/

/-- The parts of a key that can be written. -/
structure Key.Writable (key : Key) : Prop where
  /-- The namespace is a word. -/
  space : Text.IsWord [':', '|', '\x7d'] key.space
  /-- The name is a word. -/
  name : Text.IsWord [':', '|', '\x7d'] key.name

instance (key : Key) : Decidable key.Writable :=
  decidable_of_iff (Text.IsWord [':', '|', '\x7d'] key.space ∧
    Text.IsWord [':', '|', '\x7d'] key.name) ⟨fun h => ⟨h.1, h.2⟩, fun h => ⟨h.space, h.name⟩⟩

/-- A pipe with arguments. -/
structure PipeUse where
  /-- The name of the pipe. -/
  name : String
  /-- The arguments. -/
  args : List String

/-- The arguments of a pipe that can be written. The last one may end in a backslash. -/
structure PipeUse.Writable (use : PipeUse) : Prop where
  /-- The name of the pipe is a word. -/
  name : Text.IsWord [':', '|', '\x7d', '\\', '\x00'] use.name
  /-- The arguments have any other characters. -/
  args : ∀ arg ∈ use.args, Text.IsFree ['|', '\x7d', '\x00'] arg
  /-- No backslash stands in front of the colon between two arguments. -/
  ends : ∀ arg ∈ use.args.dropLast, arg.toList.getLast? ≠ some '\\'

instance (use : PipeUse) : Decidable use.Writable :=
  decidable_of_iff (Text.IsWord [':', '|', '\x7d', '\\', '\x00'] use.name ∧
      (∀ arg ∈ use.args, Text.IsFree ['|', '\x7d', '\x00'] arg) ∧
      ∀ arg ∈ use.args.dropLast, arg.toList.getLast? ≠ some '\\')
    ⟨fun h => ⟨h.1, h.2.1, h.2.2⟩, fun h => ⟨h.name, h.args, h.ends⟩⟩

/-- The pipe of some name is registered and makes a transformation of the arguments. -/
def PipeUse.Makes (pipes : Registry Pipe) (use : PipeUse) (transform : Transform) : Prop :=
  ∃ pipe, pipes.find? use.name = some pipe ∧ pipe use.args = .ok transform

/-! ### Writing -/

namespace PipeUse

/-- A text with a backslash in front of each colon. -/
def escape (cs : List Char) : List Char :=
  cs.flatMap fun c => if c = ':' then ['\\', ':'] else [c]

/-- The stage of a pipe: its name and its arguments, with colons between them. -/
def toStage (use : PipeUse) : List Char :=
  [':'].intercalate (use.name.toList :: use.args.map fun arg => escape arg.toList)

variable {cs : List Char}

/-- Escaping adds nothing but backslashes. -/
theorem not_mem_escape {c : Char} (hc : c ≠ '\\') (h : c ∉ cs) : c ∉ escape cs := by
  intro hmem
  obtain ⟨d, hd, hcd⟩ := List.mem_flatMap.1 hmem
  by_cases hcolon : d = ':'
  · rw [if_pos hcolon, ← hcolon] at hcd
    simp only [List.mem_cons, List.not_mem_nil, or_false] at hcd
    rcases hcd with rfl | rfl
    · exact hc rfl
    · exact h hd
  · rw [if_neg hcolon, List.mem_singleton] at hcd
    exact h (hcd ▸ hd)

/-- A text without colons is written as it is. -/
theorem escape_eq_self (h : ':' ∉ cs) : escape cs = cs := by
  induction cs with
  | nil => rfl
  | cons c cs ih =>
    obtain ⟨hc, hcs⟩ := not_or.1 (mt List.mem_cons.2 h)
    rw [escape, List.flatMap_cons, if_neg (Ne.symm hc)]
    exact congrArg (c :: ·) (ih hcs)

/-- A backslash that is written for a colon is never last. -/
theorem getLast?_escape_ne (h : cs.getLast? ≠ some '\\') :
    (escape cs).getLast? ≠ some '\\' := by
  rcases cs.eq_nil_or_concat with rfl | ⟨init, last, hcs⟩
  · exact h
  · rw [hcs, List.concat_eq_append, List.getLast?_concat] at h
    rw [hcs, List.concat_eq_append, escape, List.flatMap_append, List.getLast?_append]
    by_cases hlast : last = ':'
    · simp [hlast]
    · simpa [hlast] using h

end PipeUse

namespace Segment

/-- What stands between the braces of a segment: a key and stages, with bars between them. -/
def inside (key : Key) (uses : List PipeUse) : List Char :=
  ['|'].intercalate (key.toText.toList :: uses.map PipeUse.toStage)

/-- The text of a segment. -/
def toText (key : Key) (uses : List PipeUse) : String :=
  String.ofList ('$' :: '\x7b' :: (inside key uses ++ ['\x7d']))

end Segment

/-! ### Stages -/

namespace Vocabulary

open PipeUse

/-- A text with the stand-in in place of each colon. -/
def standIn (cs : List Char) : List Char :=
  cs.flatMap fun c => if c = ':' then colonStandIn else [c]

/-- No colon is left where the stand-in took its place. -/
theorem colon_not_mem_standIn (cs : List Char) : ':' ∉ standIn cs := by
  intro hmem
  obtain ⟨c, -, hc⟩ := List.mem_flatMap.1 hmem
  split at hc
  next => exact absurd hc (by decide)
  next hcolon => exact hcolon (List.mem_singleton.1 hc).symm

/-- Putting colons back for the stand-in gives any text without null characters back. -/
theorem replaceAll_standIn {cs : List Char} (h : '\x00' ∉ cs) :
    Text.replaceAll colonStandIn [':'] (standIn cs) = cs := by
  induction cs with
  | nil => exact Text.replaceAll_nil
  | cons c cs ih =>
    obtain ⟨hc, hcs⟩ := not_or.1 (mt List.mem_cons.2 h)
    by_cases hcolon : c = ':'
    · have hfound : Text.dropFront? colonStandIn (standIn (c :: cs)) = some (standIn cs) := by
        rw [standIn, List.flatMap_cons, if_pos hcolon]
        rfl
      refine (Text.replaceAll_of_found hfound).trans ?_
      rw [hcolon]
      exact congrArg (':' :: ·) (ih hcs)
    · -- The stand-in begins with a null character, so it does not begin here.
      have hnot : Text.dropFront? colonStandIn (c :: standIn cs) = none := by
        rw [colonStandIn, Text.dropFront?, if_neg hc]
      have hwrite : standIn (c :: cs) = c :: standIn cs := by
        rw [standIn, List.flatMap_cons, if_neg hcolon]
        rfl
      rw [hwrite]
      exact (Text.replaceAll_of_not_found hnot).trans (congrArg (c :: ·) (ih hcs))

/-- The stand-in takes the place of what was written for a colon, also in front of a colon between
tokens. -/
theorem replaceAll_escape_append {cs rest : List Char}
    (hrest : rest.head? = some ':' → cs.getLast? ≠ some '\\') :
    Text.replaceAll ['\\', ':'] colonStandIn (escape cs ++ rest) =
      standIn cs ++ Text.replaceAll ['\\', ':'] colonStandIn rest := by
  have hother (c : Char) (hc : c ≠ ':') : ':' ∉ if c = ':' then ['\\', ':'] else [c] := by
    simpa [hc] using Ne.symm hc
  -- What is written for a colon is not looked at again once the stand-in took its place.
  have hwrite : (fun c : Char => if c = ':' then colonStandIn
      else if c = ':' then ['\\', ':'] else [c]) =
        fun c => if c = ':' then colonStandIn else [c] := by
    funext c
    split_ifs <;> rfl
  rw [standIn, ← hwrite]
  exact Text.replaceAll_flatMap_append rfl hother (by decide) cs
    fun hhead => getLast?_escape_ne (hrest hhead)

/-- Only escaped colons are replaced, and colons between tokens are not. -/
theorem replaceAll_intercalate {tokens : List (List Char)}
    (hends : ∀ cs ∈ tokens.dropLast, cs.getLast? ≠ some '\\') :
    Text.replaceAll ['\\', ':'] colonStandIn ([':'].intercalate (tokens.map escape)) =
      [':'].intercalate (tokens.map standIn) := by
  induction tokens with
  | nil => exact Text.replaceAll_nil
  | cons cs tokens ih =>
    cases tokens with
    | nil =>
      -- Nothing follows the last token, so it may end in a backslash.
      have hlast : Text.replaceAll ['\\', ':'] colonStandIn (escape cs ++ []) =
          standIn cs ++ Text.replaceAll ['\\', ':'] colonStandIn [] :=
        replaceAll_escape_append (by simp)
      simpa using hlast
    | cons next tokens =>
      obtain ⟨hcs, hrest⟩ := List.forall_mem_cons.1 hends
      have hcolon (rest : List Char) : Text.replaceAll ['\\', ':'] colonStandIn (':' :: rest) =
          ':' :: Text.replaceAll ['\\', ':'] colonStandIn rest :=
        Text.replaceAll_of_not_found (by simp [Text.dropFront?])
      simp only [List.map_cons] at ih ⊢
      rw [List.intercalate_cons_cons, List.intercalate_cons_cons, List.append_assoc,
        replaceAll_escape_append fun _ => hcs, List.singleton_append, hcolon, ih hrest,
        List.append_assoc]
      rfl

/-- Reading a stage gives the name and the arguments that it was written from. -/
theorem stageTokens_toStage {use : PipeUse} (h : use.Writable) :
    stageTokens use.toStage = use.name :: use.args := by
  let tokens : List (List Char) := use.name.toList :: use.args.map String.toList
  have hstage : use.toStage = [':'].intercalate (tokens.map escape) := by
    rw [toStage, List.map_cons, List.map_map, escape_eq_self (h.name.free ':' (by simp))]
    rfl
  have hends : ∀ cs ∈ tokens.dropLast, cs.getLast? ≠ some '\\' := by
    intro cs hcs hlast
    rcases hargs : use.args with - | ⟨arg, args⟩
    · simp [tokens, hargs] at hcs
    · -- The name has no backslash at all, and an argument in front of another one ends in none.
      simp only [tokens, hargs, List.map_cons, List.dropLast_cons_cons] at hcs
      rcases List.mem_cons.1 hcs with rfl | hcs
      · exact h.name.free '\\' (by simp) (List.mem_of_getLast? hlast)
      · rw [← List.map_cons, ← List.map_dropLast, ← hargs] at hcs
        obtain ⟨arg, harg, rfl⟩ := List.mem_map.1 hcs
        exact h.ends arg harg hlast
  have hnull : ∀ cs ∈ tokens, '\x00' ∉ cs := by
    intro cs hcs
    rcases List.mem_cons.1 hcs with rfl | hcs
    · exact h.name.free '\x00' (by simp)
    · obtain ⟨arg, harg, rfl⟩ := List.mem_map.1 hcs
      exact h.args arg harg '\x00' (by simp)
  have hsplit : ([':'].intercalate (tokens.map standIn)).splitOn ':' = tokens.map standIn := by
    refine List.splitOn_intercalate ':' ?_ (by simp [tokens])
    intro cs hcs
    obtain ⟨token, -, rfl⟩ := List.mem_map.1 hcs
    exact colon_not_mem_standIn token
  -- The stand-in is put in, the colons that are left are split at, and colons are put back.
  calc stageTokens use.toStage
    _ = (tokens.map standIn).map fun cs =>
          String.ofList (Text.replaceAll colonStandIn [':'] cs) := by
      rw [stageTokens, hstage, replaceAll_intercalate hends, hsplit]
    _ = tokens.map String.ofList := by
      rw [List.map_map]
      refine List.map_congr_left fun cs hcs => ?_
      rw [Function.comp_apply, replaceAll_standIn (hnull cs hcs)]
    _ = use.name :: use.args := by simp [tokens, Function.comp_def]

/-- A backslash at the end of an argument is taken to belong to the colon behind it. -/
example : stageTokens (PipeUse.toStage ⟨"pad", ["a\\", "b"]⟩) = ["pad", "a:b"] := by
  decide +kernel

/-- A stage that was written reads as the transformation that its pipe makes. -/
theorem readStage_toStage {vocabulary : Vocabulary} {use : PipeUse} {transform : Transform}
    (h : use.Writable) (hmakes : use.Makes vocabulary.pipes transform) :
    vocabulary.readStage use.toStage = .ok transform := by
  obtain ⟨pipe, hpipe, hargs⟩ := hmakes
  have hname : use.name.isEmpty = false := by simpa using h.name.ne_empty
  rw [readStage, stageTokens_toStage h]
  simp only [h.name.trimmed, hname, hpipe, hargs]
  rfl

/-- Stages that were written read as the transformations that their pipes make. -/
theorem mapM_readStage_toStage {vocabulary : Vocabulary} {uses : List PipeUse}
    {transforms : List Transform} (hwritable : ∀ use ∈ uses, use.Writable)
    (hmakes : List.Forall₂ (PipeUse.Makes vocabulary.pipes) uses transforms) :
    (uses.map toStage).mapM vocabulary.readStage = .ok transforms := by
  -- By induction on the list, stage by stage, as the reader goes through it.
  induction hmakes with
  | nil => rfl
  | cons hmake _ ih =>
    obtain ⟨huse, huses⟩ := List.forall_mem_cons.1 hwritable
    rw [List.map_cons, List.mapM_cons, readStage_toStage huse hmake, ih huses]
    rfl

end Vocabulary

/-! ### Segments -/

/-- The text of a key that can be written reads back to the key. -/
theorem Key.read?_toText {key : Key} (h : key.Writable) : Key.read? key.toText = some key := by
  have hmarks : [':'] ⊆ [':', '|', '\x7d'] := by simp
  exact Key.read?_toText_of_isWord (h.space.mono hmarks) (h.name.mono hmarks)

namespace Segment

open PipeUse

variable {key : Key} {uses : List PipeUse}

/-- A bar or a closing brace is in no text of a key. -/
theorem not_mem_toText (h : key.Writable) {c : Char} (hc : c = '|' ∨ c = '\x7d') :
    c ∉ key.toText.toList := by
  have hmarks : c ∈ [':', '|', '\x7d'] := by rcases hc with rfl | rfl <;> simp
  have hcolon : c ≠ ':' := by rcases hc with rfl | rfl <;> decide
  simp [Key.toText, h.space.free c hmarks, h.name.free c hmarks, hcolon]

/-- A bar or a closing brace is in no stage. -/
theorem not_mem_toStage {use : PipeUse} (h : use.Writable) {c : Char}
    (hc : c = '|' ∨ c = '\x7d') : c ∉ use.toStage := by
  have hcolon : c ∉ [':'] := by rcases hc with rfl | rfl <;> decide
  refine Text.not_mem_intercalate hcolon (List.forall_mem_cons.2 ⟨?_, ?_⟩)
  · exact h.name.free c (by rcases hc with rfl | rfl <;> simp)
  · intro piece hpiece
    obtain ⟨arg, harg, rfl⟩ := List.mem_map.1 hpiece
    refine not_mem_escape (by rcases hc with rfl | rfl <;> decide) ?_
    exact h.args arg harg c (by rcases hc with rfl | rfl <;> simp)

variable (hkey : key.Writable) (huses : ∀ use ∈ uses, use.Writable)

include hkey huses

/-- The stages of a segment are those that it was written from. -/
theorem splitOn_inside :
    (inside key uses).splitOn '|' = key.toText.toList :: uses.map toStage := by
  refine List.splitOn_intercalate '|' (List.forall_mem_cons.2 ⟨?_, ?_⟩) (List.cons_ne_nil _ _)
  · exact not_mem_toText hkey (.inl rfl)
  · intro stage hstage
    obtain ⟨use, huse, rfl⟩ := List.mem_map.1 hstage
    exact not_mem_toStage (huses use huse) (.inl rfl)

/-- A closing brace is not inside a segment. -/
theorem not_mem_inside : '\x7d' ∉ inside key uses := by
  refine Text.not_mem_intercalate (by decide) (List.forall_mem_cons.2 ⟨?_, ?_⟩)
  · exact not_mem_toText hkey (.inr rfl)
  · intro stage hstage
    obtain ⟨use, huse, rfl⟩ := List.mem_map.1 hstage
    exact not_mem_toStage (huses use huse) (.inr rfl)

/-- The text of a segment is read as the key and the transformations that it was written from. -/
theorem readTemplate_toText {library : Library} {handler : KeyHandler}
    {transforms : List Transform} (hhandler : library.keys.find? key = some handler)
    (hmakes : List.Forall₂ (PipeUse.Makes library.pipes) uses transforms) :
    library.readTemplate (toText key uses) = .ok (.single (.lookup key handler transforms)) := by
  have hread : Key.read? (String.ofList key.toText.toList) = some key := by
    rw [String.ofList_toList, Key.read?_toText hkey]
  rw [toText, library.readTemplate_enclosed String.toList_ofList (not_mem_inside hkey huses),
    library.readSegment_of_key (splitOn_inside hkey huses) hread hhandler,
    Vocabulary.mapM_readStage_toStage huses hmakes]
  rfl

end Segment

/-! ### Evaluation -/

/-- Transformations turn a value into what each of them makes of the result of the one before. -/
theorem Transform.runAll_fst (scope : Scope) (transforms : List Transform) (v : Value) :
    (Transform.runAll scope transforms v).1 = transforms.foldl (fun v t => t.value scope v) v := by
  induction transforms generalizing v with
  | nil => rfl
  | cons t transforms ih => exact ih (t.value scope v)

namespace Engine

/-- However an engine was used before, a segment that is written for a key of its library and for
pipes that accept their arguments is read. In every context its value is the value that the engine
has for the key after just these pipes with just these arguments, in order; arguments may be empty
and have colons, dollars, opening braces and white space. -/
theorem eval_segment (library : Library) (capacity : Nat) (calls : List Call) {key : Key}
    {handler : KeyHandler} {uses : List PipeUse} {transforms : List Transform}
    (hkey : key.Writable) (hhandler : library.keys.find? key = some handler)
    (huses : ∀ use ∈ uses, use.Writable)
    (hmakes : List.Forall₂ (PipeUse.Makes library.pipes) uses transforms) :
    let engine := ({ toLibrary := library, capacity } : Engine).after calls
    (∃ template, (engine.compile (Segment.toText key uses)).1 = .ok template) ∧
      ∀ context, ∃ v, engine.keyValue context key.toText = .ok v ∧
        (engine.eval context (Segment.toText key uses)).1.result =
          .ok (transforms.foldl (fun v t => t.value context.toScope v) v) := by
  intro engine
  have hread := Segment.readTemplate_toText hkey huses hhandler hmakes
  refine ⟨⟨_, (compile_after_fst ..).trans hread⟩, fun context => ?_⟩
  -- A key of the context comes before the library in both cases.
  refine ⟨((context.localHandler? key).getD handler).value key context.toScope, ?_, ?_⟩
  · rw [toLibrary_after, Library.keyValue, Key.read, Key.read?_toText hkey]
    simp only [bind, Except.bind, hhandler]
    cases context.localHandler? key <;> rfl
  · -- A single segment keeps its value instead of turning it into text.
    rw [eval_after_fst, Library.evalText_of_ok hread, ← Transform.runAll_fst]
    rfl

/-- A pipe that packs a value with its arguments, used three times: with an empty argument, colons
and a segment that is opened in the arguments and a backslash in front of colons, with a last
argument that ends in a backslash, and without arguments. -/
theorem eval_segment_pack :
    let pack : Pipe := fun args => .ok (.pure fun v => .array (v :: args.map .string))
    let library : Library := ⟨⟨.ofHandlers [(⟨"user", "name"⟩, .const (.string "Ann"))],
      .ofEntries [("pack", pack)]⟩, .chain [], .chain []⟩
    let uses : List PipeUse :=
      [⟨"pack", ["", "a:b", "$\x7b c", "\\::"]⟩, ⟨"pack", ["x\\"]⟩, ⟨"pack", []⟩]
    let text := "$\x7buser:name|pack::a\\:b:$\x7b c:\\\\:\\:|pack:x\\|pack\x7d"
    let engine := ({ toLibrary := library } : Engine).after [.compile text]
    (Key.mk "user" "name").Writable ∧ (∀ use ∈ uses, use.Writable) ∧
      Segment.toText ⟨"user", "name"⟩ uses = text ∧
      (∃ template, (engine.compile text).1 = .ok template) ∧
      ∀ moment : Moment, (engine.eval { moment with } text).1.result =
        .ok (.array [.array [.array [.string "Ann", .string "", .string "a:b", .string "$\x7b c",
          .string "\\::"], .string "x\\"]]) := by
  intro pack library uses text engine
  have hkey : (Key.mk "user" "name").Writable := by decide +kernel
  have huses : ∀ use ∈ uses, use.Writable := by decide +kernel
  have htext : Segment.toText ⟨"user", "name"⟩ uses = text := by decide +kernel
  have hname : ∀ use ∈ uses, use.name = "pack" := by decide +kernel
  have hmakes : List.Forall₂ (PipeUse.Makes library.pipes) uses
      (uses.map fun use => .pure fun v => .array (v :: use.args.map .string)) := by
    rw [List.forall₂_map_right_iff, List.forall₂_same]
    intro use huse
    refine ⟨pack, ?_, rfl⟩
    rw [hname use huse]
    rfl
  obtain ⟨hcompile, heval⟩ := eval_segment library 1000 [.compile text] hkey rfl huses hmakes
  rw [htext] at hcompile heval
  refine ⟨hkey, huses, htext, hcompile, fun moment => ?_⟩
  obtain ⟨v, hv, hresult⟩ := heval { moment with }
  -- The theorem names the value of the key only as what the engine has for it.
  have hvalue : engine.keyValue { moment with } (Key.mk "user" "name").toText =
      .ok (.string "Ann") := by
    rw [toLibrary_after, Library.keyValue, Key.read, Key.read?_toText hkey]
    rfl
  obtain rfl := Except.ok.inj (hvalue.symm.trans hv)
  exact hresult

end Engine

end AccessPolicy
