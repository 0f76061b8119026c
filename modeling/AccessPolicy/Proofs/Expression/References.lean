import AccessPolicy.Expression.Engine
import AccessPolicy.Proofs.Decision.Distinct
import AccessPolicy.Proofs.Entries
import AccessPolicy.Proofs.Expression.Template
import AccessPolicy.Proofs.Trace
import AccessPolicy.Standard.Library

/-!
# The fields that documents refer to

An expression that was read from a document refers to the fields that the segments in the texts of
the document refer to, each where it appears first (`Engine.fields_of_readTree`). The names that
are found on the way through an expression are those that all of its parts refer to
(`Expr.fields_eq`), and reading takes the parts of an expression from the segments of the document
in the same order (`Library.refer_of_readTree`).
-/

namespace AccessPolicy

/-! ### Names on the way through an expression -/

namespace Expr

mutual

/-- The fields that the segments of an expression refer to, with repetitions. -/
def references : Expr → List String
  | .text template => template.fields
  | .array items => itemReferences items
  | .object fields => fieldReferences fields
  | .exec _ _ config params => fieldReferences config ++ fieldReferences params
  | .condition _ => []

/-- The fields that a list of expressions refers to. -/
def itemReferences : List Expr → List String
  | [] => []
  | item :: rest => item.references ++ itemReferences rest

/-- The fields that named expressions refer to. -/
def fieldReferences : List (String × Expr) → List String
  | [] => []
  | (_, expr) :: rest => expr.references ++ fieldReferences rest

end

/-- Names that are noted one after the other are kept where they appear first. -/
theorem foldl_note_nil (names : List String) : names.foldl note [] = names.eraseDups := by
  -- Names are noted from the left, so the list is taken apart at its end.
  induction names using List.reverseRecOn with
  | nil => rfl
  | append_singleton names name ih =>
    rw [List.foldl_append, ih, List.foldl_cons, List.foldl_nil, note,
      Entries.eraseDups_append_singleton]

mutual

/-- What is found on the way through an expression is noted in the order of its parts. -/
theorem collect_eq : (expr : Expr) → (found : List String) →
    expr.collect found = expr.references.foldl note found
  | .text template, found => by rw [collect, references]
  | .array items, found => by rw [collect, references, collectItems_eq]
  | .object fields, found => by rw [collect, references, collectFields_eq]
  | .exec _ _ config params, found => by
    rw [collect, references, collectFields_eq, collectFields_eq, List.foldl_append]
  | .condition _, found => by rw [collect, references, List.foldl_nil]

theorem collectItems_eq : (items : List Expr) → (found : List String) →
    collectItems found items = (itemReferences items).foldl note found
  | [], found => by rw [collectItems, itemReferences, List.foldl_nil]
  | item :: rest, found => by
    rw [collectItems, itemReferences, collect_eq, collectItems_eq, List.foldl_append]

theorem collectFields_eq : (fields : List (String × Expr)) → (found : List String) →
    collectFields found fields = (fieldReferences fields).foldl note found
  | [], found => by rw [collectFields, fieldReferences, List.foldl_nil]
  | (_, expr) :: rest, found => by
    rw [collectFields, fieldReferences, collect_eq, collectFields_eq, List.foldl_append]

end

/-- The fields of an expression are those that its parts refer to, each where it appears first. -/
theorem fields_eq (expr : Expr) : expr.fields = expr.references.eraseDups := by
  rw [fields, collect_eq, foldl_note_nil]

end Expr

/-! ### Segments of documents -/

namespace Value

/-- The text that names an operator, where it is asked for. -/
def operatorTexts (named : Bool) : Value → List String
  | .string operator => if named then [operator] else []
  | _ => []

mutual

/-- The texts of a document, in order. The configuration of an exec operator comes before its
parameters. The name of an operator is no template, so it counts only where it is asked for. -/
def texts (named : Bool) : Value → List String
  | .string text => [text]
  | .array items => itemTexts named items
  | .object fields =>
    match Entries.get? execField fields with
    | none => fieldTexts named (fun _ => true) fields
    -- The configuration may stand anywhere among the fields.
    | some operator =>
      operatorTexts named operator ++ configTexts named fields ++
        fieldTexts named (fun name => name ≠ execField ∧ name ≠ configField) fields
  | _ => []

/-- The texts of a list of documents. -/
def itemTexts (named : Bool) : List Value → List String
  | [] => []
  | v :: rest => v.texts named ++ itemTexts named rest

/-- The texts of the fields whose names are wanted. -/
def fieldTexts (named : Bool) (wanted : String → Bool) : Fields → List String
  | [] => []
  | (name, v) :: rest =>
    if wanted name then v.texts named ++ fieldTexts named wanted rest
    else fieldTexts named wanted rest

/-- The texts of the configuration among the fields of an object. -/
def configTexts (named : Bool) : Fields → List String
  | [] => []
  | (name, v) :: rest =>
    if name = configField then
      match v with
      | .object config => fieldTexts named (fun _ => true) config
      | _ => []
    else configTexts named rest

end

end Value

/-- The segments of some texts, in order. -/
def segmentsOf (texts : List String) : List (List Char) :=
  texts.flatMap fun text => Piece.segments text.toList

@[simp]
theorem segmentsOf_singleton (text : String) : segmentsOf [text] = Piece.segments text.toList := by
  simp [segmentsOf]

@[simp]
theorem segmentsOf_append (texts more : List String) :
    segmentsOf (texts ++ more) = segmentsOf texts ++ segmentsOf more :=
  List.flatMap_append

namespace Vocabulary

/-- A segment refers to the fields that the handler of its key names for the key. The key stands in
front of the stages of the segment. -/
def Refers (vocabulary : Vocabulary) (segment : List Char) (names : List String) : Prop :=
  ∃ key handler, Key.read? (String.ofList (segment.takeWhile (· ≠ '|'))) = some key ∧
    vocabulary.keys.find? key = some handler ∧ names = handler.fields key

/-- Segments refer to fields one after the other. -/
def Refer (vocabulary : Vocabulary) (segments : List (List Char)) (references : List String) :
    Prop :=
  ∃ names, List.Forall₂ vocabulary.Refers segments names ∧ references = names.flatten

variable {vocabulary : Vocabulary} {segments more : List (List Char)}
  {references others : List String}

theorem refer_nil : vocabulary.Refer [] [] :=
  ⟨[], .nil, rfl⟩

theorem Refers.refer {segment : List Char} (h : vocabulary.Refers segment references) :
    vocabulary.Refer [segment] references :=
  ⟨[references], .cons h .nil, by simp⟩

theorem Refer.append (h : vocabulary.Refer segments references)
    (hmore : vocabulary.Refer more others) :
    vocabulary.Refer (segments ++ more) (references ++ others) := by
  obtain ⟨names, hnames, rfl⟩ := h
  obtain ⟨rest, hrest, rfl⟩ := hmore
  exact ⟨names ++ rest, List.rel_append hnames hrest, List.flatten_append.symm⟩

/-- The stages of a segment begin behind its first bar. -/
theorem headD_splitOn (cs : List Char) (c : Char) :
    (cs.splitOn c).headD [] = cs.takeWhile (· ≠ c) := by
  rw [List.splitOn_eq_splitOnP]
  induction cs with
  | nil => rfl
  | cons a cs ih =>
    rw [List.splitOnP_cons_eq_if_modifyHead, List.takeWhile_cons]
    by_cases ha : a = c
    · simp [ha]
    · cases hpieces : List.splitOnP (· == c) cs with
      | nil => exact absurd hpieces (List.splitOnP_ne_nil _ cs)
      | cons piece pieces =>
        rw [hpieces] at ih
        simpa [ha] using ih

theorem refers_of_readSegment {segment : List Char} {part : Part}
    (h : vocabulary.readSegment segment = .ok part) : vocabulary.Refers segment part.fields := by
  rw [readSegment] at h
  obtain ⟨key, hkey, h⟩ := Decision.bind_eq_ok_iff.1 h
  cases hhandler : vocabulary.keys.find? key with
  | none =>
    rw [hhandler] at h
    cases h
  | some handler =>
    rw [hhandler] at h
    -- The stages are read too, but they refer to nothing.
    obtain ⟨transforms, -, h⟩ := Decision.bind_eq_ok_iff.1 h
    obtain rfl := Except.ok.inj h
    refine ⟨key, handler, ?_, hhandler, rfl⟩
    rw [← headD_splitOn]
    exact Key.read_eq_ok_iff.1 hkey

theorem fields_literal (cs : List Char) : (literal cs).flatMap Part.fields = [] := by
  rw [literal]
  split
  next => rfl
  next => rfl

theorem fields_ofParts (parts : List Part) :
    (Template.ofParts parts).fields = parts.flatMap Part.fields := by
  unfold Template.ofParts
  split
  next part => simp [Template.fields]
  next => rfl

/-- The parts of a text come from its segments, and its literal texts refer to nothing. -/
theorem refer_of_readPieces {cs : List Char} {parts : List Part}
    (h : vocabulary.readPieces (Piece.ofText cs) = .ok parts) :
    vocabulary.Refer (Piece.segments cs) (parts.flatMap Part.fields) := by
  fun_induction Piece.ofText cs generalizing parts with
  | case1 cs hopened =>
    have hnone : Piece.firstSegment? cs = none := by simp [Piece.firstSegment?, hopened]
    rw [readPieces_text] at h
    rw [Piece.segments_of_none hnone, ← Except.ok.inj h, fields_literal]
    exact refer_nil
  | case2 cs before rest hopened hclosed =>
    have hnone : Piece.firstSegment? cs = none := by simp [Piece.firstSegment?, hopened, hclosed]
    rw [readPieces_text] at h
    rw [Piece.segments_of_none hnone, ← Except.ok.inj h, fields_literal]
    exact refer_nil
  | case3 cs before rest hopened inside after hclosed ih =>
    have hfound := Piece.firstSegment?_eq_some_iff.2 ⟨rest, hopened, hclosed⟩
    rw [readPieces_text_cons, readPieces_segment_cons] at h
    -- Literal text, a segment, and what follows it.
    obtain ⟨behind, hbehind, rfl⟩ := exists_of_map_eq_ok h
    obtain ⟨part, hpart, hbehind⟩ := Decision.bind_eq_ok_iff.1 hbehind
    obtain ⟨rest, hrest, hbehind⟩ := Decision.bind_eq_ok_iff.1 hbehind
    obtain rfl := Except.ok.inj hbehind
    rw [Piece.segments_of_found hfound, List.flatMap_append, fields_literal, List.nil_append,
      List.flatMap_cons]
    exact (refers_of_readSegment hpart).refer.append (ih hrest)

/-- The template of a text refers to the fields of the segments of the text. -/
theorem refer_of_readTemplate {text : String} {template : Template}
    (h : vocabulary.readTemplate text = .ok template) :
    vocabulary.Refer (Piece.segments text.toList) template.fields := by
  rw [readTemplate_eq] at h
  obtain ⟨parts, hparts, rfl⟩ := exists_of_map_eq_ok h
  rw [fields_ofParts]
  exact refer_of_readPieces hparts

end Vocabulary

/-! ### Expressions of documents -/

namespace Library

open Vocabulary

variable {library : Library} {named : Bool}

/-- The names of the operators open no segments. -/
def OperatorsPlain (library : Library) : Prop :=
  ∀ operator handler, library.execs.find? operator = some handler →
    Piece.segments operator.toList = []

/-- The operators of the standard library have names without segments. -/
theorem operatorsPlain_build (keys : List KeyResolver) (pipes : List (Registry Pipe))
    (conditions : List (Registry ConditionTest)) :
    (build keys pipes conditions [] true).OperatorsPlain := by
  intro operator handler hfound
  have hnamed : operator = "log" ∨ operator = "object:pair" := by
    have hmem : operator ∈ Entries.keys
        (Entries.ofList [("log", Standard.logExec), ("object:pair", Standard.pairExec)]) :=
      Entries.mem_keys_iff.2 ⟨handler, by simpa [build, Standard.execs, Registry.chain,
        Registry.find?, Registry.findAmong?, Registry.ofEntries, Entries.get?] using hfound⟩
    rw [Entries.keys_ofList, List.mem_eraseDups] at hmem
    simpa [Entries.keys] using hmem
  rcases hnamed with rfl | rfl
  · exact Piece.segments_of_none rfl
  · exact Piece.segments_of_none rfl

/-- The operator that a value names adds no segments. -/
theorem segmentsOf_operatorTexts (hplain : named = true → library.OperatorsPlain)
    {v : Value} {operator : String × ExecHandler} (h : library.findExec v = .ok operator) :
    segmentsOf (v.operatorTexts named) = [] := by
  unfold findExec at h
  split at h
  next name =>
    split at h
    next handler hfound =>
      cases named with
      | false => rfl
      | true =>
        rw [Value.operatorTexts, if_pos rfl, segmentsOf_singleton]
        exact hplain rfl name handler hfound
    next => cases h
  next => cases h

mutual

/-- Reading takes the parts of an expression from the segments of the document, in order. -/
theorem refer_of_readTree (hplain : named = true → library.OperatorsPlain) :
    {document : Value} → {expr : Expr} → library.readTree document = .ok expr →
      library.Refer (segmentsOf (document.texts named)) expr.references
  | .string text, expr, h => by
    rw [readTree] at h
    obtain ⟨template, htemplate, rfl⟩ := exists_of_map_eq_ok h
    rw [Value.texts, Expr.references, segmentsOf_singleton]
    exact refer_of_readTemplate htemplate
  | .array items, expr, h => by
    rw [readTree] at h
    obtain ⟨exprs, hexprs, rfl⟩ := exists_of_map_eq_ok h
    rw [Value.texts, Expr.references]
    exact refer_of_readItems hplain hexprs
  | .object fields, expr, h => by
    rw [readTree] at h
    rw [Value.texts]
    cases hexec : Entries.get? execField fields with
    | none =>
      rw [hexec] at h
      obtain ⟨exprs, hexprs, rfl⟩ := exists_of_map_eq_ok h
      rw [Expr.references]
      exact refer_of_readFields hplain hexprs
    | some v =>
      rw [hexec] at h
      obtain ⟨⟨operator, handler⟩, hfound, h⟩ := Decision.bind_eq_ok_iff.1 h
      obtain ⟨config, hconfig, h⟩ := Decision.bind_eq_ok_iff.1 h
      obtain ⟨params, hparams, h⟩ := Decision.bind_eq_ok_iff.1 h
      obtain rfl := Except.ok.inj h
      -- The operator itself adds nothing, and its configuration is read before its parameters.
      rw [Expr.references]
      simp only [segmentsOf_append, segmentsOf_operatorTexts hplain hfound, List.nil_append]
      exact (refer_of_readConfig hplain hconfig).append (refer_of_readParams hplain hparams)
  | .null, expr, h => by
    obtain rfl := Except.ok.inj h
    exact refer_nil
  | .bool b, expr, h => by
    obtain rfl := Except.ok.inj h
    exact refer_nil
  | .number n, expr, h => by
    obtain rfl := Except.ok.inj h
    exact refer_nil

theorem refer_of_readItems (hplain : named = true → library.OperatorsPlain) :
    {items : List Value} → {exprs : List Expr} → library.readItems items = .ok exprs →
      library.Refer (segmentsOf (Value.itemTexts named items)) (Expr.itemReferences exprs)
  | [], exprs, h => by
    obtain rfl := Except.ok.inj h
    exact refer_nil
  | v :: rest, exprs, h => by
    obtain ⟨expr, hexpr, h⟩ := Decision.bind_eq_ok_iff.1 h
    obtain ⟨others, hothers, h⟩ := Decision.bind_eq_ok_iff.1 h
    obtain rfl := Except.ok.inj h
    rw [Value.itemTexts, Expr.itemReferences, segmentsOf_append]
    exact (refer_of_readTree hplain hexpr).append (refer_of_readItems hplain hothers)

theorem refer_of_readFields (hplain : named = true → library.OperatorsPlain) :
    {fields : Fields} → {exprs : List (String × Expr)} → library.readFields fields = .ok exprs →
      library.Refer (segmentsOf (Value.fieldTexts named (fun _ => true) fields))
        (Expr.fieldReferences exprs)
  | [], exprs, h => by
    obtain rfl := Except.ok.inj h
    exact refer_nil
  | (name, v) :: rest, exprs, h => by
    obtain ⟨expr, hexpr, h⟩ := Decision.bind_eq_ok_iff.1 h
    obtain ⟨others, hothers, h⟩ := Decision.bind_eq_ok_iff.1 h
    obtain rfl := Except.ok.inj h
    rw [Value.fieldTexts, if_pos rfl, Expr.fieldReferences, segmentsOf_append]
    exact (refer_of_readTree hplain hexpr).append (refer_of_readFields hplain hothers)

theorem refer_of_readConfig (hplain : named = true → library.OperatorsPlain) {operator : String} :
    {fields : Fields} → {exprs : List (String × Expr)} →
      library.readConfig operator fields = .ok exprs →
        library.Refer (segmentsOf (Value.configTexts named fields)) (Expr.fieldReferences exprs)
  | [], exprs, h => by
    obtain rfl := Except.ok.inj h
    exact refer_nil
  | (name, v) :: rest, exprs, h => by
    unfold readConfig at h
    unfold Value.configTexts
    split at h
    next hname =>
      rw [if_pos hname]
      -- Only an object is a configuration with texts; without one there are no entries.
      split at h
      next =>
        obtain rfl := Except.ok.inj h
        exact refer_nil
      next config => exact refer_of_readFields hplain h
      next => cases h
    next hname =>
      rw [if_neg hname]
      exact refer_of_readConfig hplain h

theorem refer_of_readParams (hplain : named = true → library.OperatorsPlain) :
    {fields : Fields} → {exprs : List (String × Expr)} → library.readParams fields = .ok exprs →
      library.Refer
        (segmentsOf (Value.fieldTexts named (fun name => name ≠ execField ∧ name ≠ configField)
          fields))
        (Expr.fieldReferences exprs)
  | [], exprs, h => by
    obtain rfl := Except.ok.inj h
    exact refer_nil
  | (name, v) :: rest, exprs, h => by
    rw [readParams] at h
    rw [Value.fieldTexts]
    split at h
    next hname =>
      -- The operator and its configuration are no parameters.
      rw [if_neg (by simpa [← not_or] using hname)]
      exact refer_of_readParams hplain h
    next hname =>
      rw [if_pos (by simpa [← not_or] using hname)]
      obtain ⟨expr, hexpr, h⟩ := Decision.bind_eq_ok_iff.1 h
      obtain ⟨others, hothers, h⟩ := Decision.bind_eq_ok_iff.1 h
      obtain rfl := Except.ok.inj h
      rw [Expr.fieldReferences, segmentsOf_append]
      exact (refer_of_readTree hplain hexpr).append (refer_of_readParams hplain hothers)

end

end Library

namespace Engine

/-- An expression that was read from a document refers to the fields that the handlers of the
segments in the texts of the document name, each where it appears first. The name of an operator
may count among the texts if operators have names without segments. -/
theorem fields_of_readTree (engine : Engine) {named : Bool}
    (hplain : named = true → engine.OperatorsPlain) {document : Value} {expr : Expr}
    (h : engine.readTree document = .ok expr) :
    expr.fields.Nodup ∧
      ∃ names, List.Forall₂ engine.Refers (segmentsOf (document.texts named)) names ∧
        expr.fields = names.flatten.eraseDups := by
  -- What is collected is what the parts refer to, and these come from the segments.
  obtain ⟨names, hnames, hreferences⟩ := Library.refer_of_readTree hplain h
  rw [Expr.fields_eq]
  exact ⟨nodup_eraseDups _, names, hnames, by rw [hreferences]⟩

/-- A name in two segments of a text and in another text, in an object that a guard may remove, in
a branch that comes to nothing, and in a configuration that stands behind a parameter. -/
theorem fields_of_readTree_written_late :
    let engine : Engine := { toLibrary := .build [] [] [] [] true }
    let document : Value := .object [
      ("out", .array [.string "$\x7bpath:b\x7d", .object [("@if", .string "$\x7bpath:a\x7d"),
        ("k", .string "$\x7bpath:b\x7d/$\x7bpath:c | trim\x7d")]]),
      ("pick", .object [("@when", .array [.object [("@if", .bool false),
        ("v", .string "$\x7bpath:d\x7d")]])]),
      ("note", .object [("@exec", .string "log"), ("value", .string "$\x7bpath:f\x7d"),
        ("@config", .object [("level", .string "$\x7bpath:e\x7d")])])]
    engine.OperatorsPlain ∧ ∃ expr, engine.readTree document = .ok expr ∧
      expr.fields = ["b", "a", "c", "d", "e", "f"] ∧ expr.fields.Nodup ∧
      ∃ names, List.Forall₂ engine.Refers (segmentsOf (document.texts true)) names ∧
        expr.fields = names.flatten.eraseDups := by
  intro engine document
  have hplain : engine.OperatorsPlain := Library.operatorsPlain_build [] [] []
  have hread : (engine.readTree document).map Expr.fields =
      .ok ["b", "a", "c", "d", "e", "f"] := by decide +kernel
  obtain ⟨expr, hexpr, hfields⟩ := exists_of_map_eq_ok hread
  exact ⟨hplain, expr, hexpr, hfields, engine.fields_of_readTree (fun _ => hplain) hexpr⟩

end Engine

end AccessPolicy
