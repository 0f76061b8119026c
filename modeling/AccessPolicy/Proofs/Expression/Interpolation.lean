import AccessPolicy.Proofs.Expression.Engine
import AccessPolicy.Proofs.Expression.Template

/-!
# Interpolation and concatenation

A text can be cut anywhere but within a segment or between a dollar and its opening brace: both
parts together are read exactly if each of them is, and they have the text of the one followed by
the text of the other (`Engine.eval_append`). The reason is that the pieces of the parts are the
pieces of the whole, but for the literal text at the cut (`Piece.ofText_append`).
-/

namespace AccessPolicy

/-! ### Pieces -/

namespace Piece

/-- Every segment that is opened in a text is closed by a later brace. -/
def Closed (cs : List Char) : Prop :=
  ∀ before rest, cs = before ++ '$' :: '\x7b' :: rest → '\x7d' ∈ rest

/-- No segment is opened by a dollar in one text and a brace in the next. -/
def Apart (cs more : List Char) : Prop :=
  ¬(cs.getLast? = some '$' ∧ more.head? = some '\x7b')

/-- A text that ends in a closing brace is closed. -/
theorem closed_of_getLast? {cs : List Char} (h : cs.getLast? = some '\x7d') : Closed cs := by
  intro before rest hcs
  rw [hcs] at h
  rcases rest.eq_nil_or_concat with rfl | ⟨init, last, hrest⟩
  · simp at h
  · rw [List.concat_eq_append] at hrest
    subst hrest
    -- The last character comes after the brace that opens the segment.
    rw [← List.cons_append, ← List.cons_append, ← List.append_assoc, List.getLast?_concat] at h
    obtain rfl := Option.some.inj h
    exact List.mem_append_right init List.mem_cons_self

/-- What follows some part of a closed text is closed. -/
theorem Closed.of_append {front back : List Char} (h : Closed (front ++ back)) : Closed back := by
  intro before rest hback
  exact h (front ++ before) rest (by rw [hback, List.append_assoc])

/-- The end of a text is apart from what the text is apart from. -/
theorem Apart.of_append {front back more : List Char} (h : Apart (front ++ back) more) :
    Apart back more := by
  rintro ⟨hlast, hhead⟩
  refine h ⟨?_, hhead⟩
  rw [List.getLast?_append, hlast]
  rfl

/-- The pieces of two texts that are put together are the pieces of the first and those of the
second, with the literal text at the end of the first and at the start of the second in one. -/
theorem ofText_append {cs more : List Char} (hclosed : Closed cs) (hapart : Apart cs more) :
    ∃ front last first back, ofText cs = front ++ [.text last] ∧
      ofText more = .text first :: back ∧
      ofText (cs ++ more) = front ++ .text (last ++ first) :: back := by
  fun_induction ofText cs with
  | case1 cs hopened =>
    -- No segment is in the first text, so all of it is in front of the second one.
    have hcut := Text.cutAt?_append_of_none hopened hapart
    cases hmore : Text.cutAt? ['$', '\x7b'] more with
    | none =>
      rw [hmore] at hcut
      exact ⟨[], cs, more, [], rfl, ofText_of_unopened hmore, ofText_of_unopened hcut⟩
    | some cut =>
      obtain ⟨before, rest⟩ := cut
      rw [hmore] at hcut
      -- What follows the opening brace is the same in the second text and in both together.
      cases hrest : Text.cutAt? ['\x7d'] rest with
      | none =>
        exact ⟨[], cs, more, [], rfl, ofText_of_unclosed hmore hrest,
          ofText_of_unclosed hcut hrest⟩
      | some cut =>
        obtain ⟨inside, after⟩ := cut
        exact ⟨[], cs, before, .segment inside :: ofText after, rfl,
          ofText_of_segment hmore hrest, ofText_of_segment hcut hrest⟩
  | case2 cs before rest hopened hunclosed =>
    have hbrace := hclosed before rest (by simpa using (Text.append_of_cutAt? hopened).symm)
    exact absurd hbrace (Text.not_mem_of_cutAt?_singleton hunclosed)
  | case3 cs before rest hopened inside after hsegment ih =>
    -- The first segment of the first text is the first one of both; the rest goes by induction.
    have hcs : (before ++ ['$', '\x7b'] ++ inside ++ ['\x7d']) ++ after = cs := by
      rw [← Text.append_of_cutAt? hopened, ← Text.append_of_cutAt? hsegment]
      simp
    rw [← hcs] at hclosed hapart
    obtain ⟨front, last, first, back, hcs', hmore, hwhole⟩ := ih hclosed.of_append hapart.of_append
    have hpieces : ofText (cs ++ more) = .text before :: .segment inside :: ofText (after ++ more) :=
      ofText_of_segment (Text.cutAt?_append hopened) (Text.cutAt?_append hsegment)
    exact ⟨.text before :: .segment inside :: front, last, first, back, by rw [hcs']; rfl, hmore,
      by rw [hpieces, hwhole]; rfl⟩

end Piece

/-! ### Templates -/

namespace Vocabulary

variable {s t : String}

/-- The parts of two texts and of both together are the same, but for the literal text at the
cut. -/
theorem readTemplate_append (vocabulary : Vocabulary) (hclosed : Piece.Closed s.toList)
    (hapart : Piece.Apart s.toList t.toList) :
    ∃ (front back : Except ExprError (List Part)) (last first : List Char),
      vocabulary.readTemplate s = front.map (fun parts => .ofParts (parts ++ literal last)) ∧
      vocabulary.readTemplate t = back.map (fun parts => .ofParts (literal first ++ parts)) ∧
      vocabulary.readTemplate (s ++ t) = (do
        let parts ← front
        let more ← back
        return .ofParts (parts ++ literal (last ++ first) ++ more)) := by
  obtain ⟨front, last, first, back, hs, ht, hst⟩ := Piece.ofText_append hclosed hapart
  refine ⟨vocabulary.readPieces front, vocabulary.readPieces back, last, first, ?_, ?_, ?_⟩
  · rw [readTemplate_eq, hs, readPieces_append, readPieces_text]
    cases vocabulary.readPieces front <;> rfl
  · rw [readTemplate_eq, ht, readPieces_text_cons]
    cases vocabulary.readPieces back <;> rfl
  · rw [readTemplate_eq, String.toList_append, hst, readPieces_append, readPieces_text_cons]
    cases vocabulary.readPieces front <;> cases vocabulary.readPieces back <;>
      simp [Except.map, bind, Except.bind, pure, Except.pure]

/-- Both texts together are read if each of them is, and have the texts of both. -/
theorem render_readTemplate_append (vocabulary : Vocabulary) (hclosed : Piece.Closed s.toList)
    (hapart : Piece.Apart s.toList t.toList) :
    ((∃ whole, vocabulary.readTemplate (s ++ t) = .ok whole) ↔
      (∃ left, vocabulary.readTemplate s = .ok left) ∧
        ∃ right, vocabulary.readTemplate t = .ok right) ∧
    ∀ {whole left right}, vocabulary.readTemplate (s ++ t) = .ok whole →
      vocabulary.readTemplate s = .ok left → vocabulary.readTemplate t = .ok right →
      ∀ context, Part.render context whole.parts =
        ((Part.render context left.parts).1 ++ (Part.render context right.parts).1,
          (Part.render context left.parts).2 ++ (Part.render context right.parts).2) := by
  obtain ⟨front, back, last, first, hs, ht, hst⟩ := vocabulary.readTemplate_append hclosed hapart
  rw [hs, ht, hst]
  cases front with
  | error e => simp [Except.map, bind, Except.bind]
  | ok parts =>
    cases back with
    | error e => simp [Except.map, bind, Except.bind]
    | ok more =>
      -- Literal text that is empty has no part, so texts are compared and not parts.
      refine ⟨⟨fun _ => ⟨⟨_, rfl⟩, _, rfl⟩, fun _ => ⟨_, rfl⟩⟩, ?_⟩
      rintro whole left right ⟨⟩ ⟨⟩ ⟨⟩ context
      simp only [Template.parts_ofParts, Part.render_append, render_literal, String.ofList_append,
        String.append_assoc, List.append_assoc]
      rfl

end Vocabulary

namespace Engine

/-- However an engine was used before, a text that is cut anywhere but within a segment or between
a dollar and its opening brace is read exactly if both of its parts are. Evaluating the whole then
gives the text of the first part followed by the text of the second, where null counts as the
empty text, and causes the events of both. The parts may be empty, a single segment with a value
of any type, or literal text only. -/
theorem eval_append (library : Library) (capacity : Nat) (calls : List Call) {s t : String}
    (hclosed : Piece.Closed s.toList) (hapart : Piece.Apart s.toList t.toList) :
    let engine := ({ toLibrary := library, capacity } : Engine).after calls
    ((∃ whole, (engine.compile (s ++ t)).1 = .ok whole) ↔
      (∃ left, (engine.compile s).1 = .ok left) ∧ ∃ right, (engine.compile t).1 = .ok right) ∧
    ((∃ whole, (engine.compile (s ++ t)).1 = .ok whole) → ∀ context, ∃ a b v events more,
      (engine.eval context s).1 = ⟨events, .ok a⟩ ∧
      (engine.eval context t).1 = ⟨more, .ok b⟩ ∧
      (engine.eval context (s ++ t)).1 = ⟨events ++ more, .ok v⟩ ∧
      v.inlineText = a.inlineText ++ b.inlineText) := by
  intro engine
  have hcompile := compile_after_fst library capacity calls
  have heval {text : String} {template : Template} (h : library.readTemplate text = .ok template)
      (context : Context) : (engine.eval context text).1 =
        ⟨(Part.render context template.parts).2, .ok (template.run context).1⟩ := by
    rw [eval_after_fst, Library.evalText_of_ok h, Template.events_run]
  obtain ⟨hiff, hrender⟩ := library.render_readTemplate_append hclosed hapart
  simp only [engine, hcompile]
  refine ⟨hiff, ?_⟩
  rintro ⟨whole, hwhole⟩ context
  obtain ⟨⟨left, hleft⟩, right, hright⟩ := hiff.1 ⟨whole, hwhole⟩
  have hboth := hrender hwhole hleft hright context
  refine ⟨_, _, (whole.run context).1, _, _, heval hleft context, heval hright context, ?_, ?_⟩
  · rw [heval hwhole context, hboth]
  · simp only [Template.inlineText_run, hboth]

/-- A segment whose value is a list, in front of text with a segment whose value is null, braces
and a segment that is never closed. -/
theorem eval_append_list :
    let library : Library := ⟨⟨.ofHandlers [(⟨"user", "roles"⟩, .const (.array [.string "staff"])),
      (⟨"user", "nick"⟩, .const .null)], .chain []⟩, .chain [], .chain []⟩
    let s := "${user:roles}"
    let t := "\x7b\x7d${user:nick} $\x7b"
    let engine := ({ toLibrary := library } : Engine).after [.compile t]
    Piece.Closed s.toList ∧ Piece.Apart s.toList t.toList ∧
      (∃ whole, (engine.compile (s ++ t)).1 = .ok whole) ∧
      ∀ moment : Moment, let context : Context := { moment with }
        (engine.eval context s).1 = .ok (.array [.string "staff"]) ∧
        (engine.eval context t).1 = .ok (.string "\x7b\x7d $\x7b") ∧
        ∃ v, (engine.eval context (s ++ t)).1 = .ok v ∧
          v.inlineText = "[\"staff\"]\x7b\x7d $\x7b" := by
  intro library s t engine
  have hclosed : Piece.Closed s.toList := Piece.closed_of_getLast? (by decide +kernel)
  have hapart : Piece.Apart s.toList t.toList := by
    unfold Piece.Apart
    decide +kernel
  have hs : library.readTemplate s = .ok (.single (.lookup ⟨"user", "roles"⟩
      (.const (.array [.string "staff"])) [])) := by
    have hpieces : Piece.ofText s.toList = [.text [], .segment "user:roles".toList, .text []] := by
      decide +kernel
    have hsegment : "user:roles".toList.splitOn '|' = ["user:roles".toList] := by decide +kernel
    have hkey : Key.read? "user:roles" = some ⟨"user", "roles"⟩ := by decide +kernel
    rw [Vocabulary.readTemplate_eq, hpieces, Vocabulary.readPieces_text_cons,
      Vocabulary.readPieces_segment_cons, Vocabulary.readPieces_text,
      library.readSegment_of_key hsegment hkey rfl]
    rfl
  have ht : library.readTemplate t = .ok (.concat [.const (.string "\x7b\x7d"),
      .lookup ⟨"user", "nick"⟩ (.const .null) [], .const (.string " $\x7b")]) := by
    have hpieces : Piece.ofText t.toList = [.text "\x7b\x7d".toList,
        .segment "user:nick".toList, .text " $\x7b".toList] := by
      decide +kernel
    have hsegment : "user:nick".toList.splitOn '|' = ["user:nick".toList] := by decide +kernel
    have hkey : Key.read? "user:nick" = some ⟨"user", "nick"⟩ := by decide +kernel
    rw [Vocabulary.readTemplate_eq, hpieces, Vocabulary.readPieces_text_cons,
      Vocabulary.readPieces_segment_cons, Vocabulary.readPieces_text,
      library.readSegment_of_key hsegment hkey rfl]
    rfl
  have hcompile := compile_after_fst library 1000 [.compile t]
  obtain ⟨hiff, hjoin⟩ := eval_append library 1000 [.compile t] hclosed hapart
  have hwhole := hiff.2 ⟨⟨_, (hcompile s).trans hs⟩, _, (hcompile t).trans ht⟩
  refine ⟨hclosed, hapart, hwhole, ?_⟩
  intro moment context
  have hevalS : (engine.eval context s).1 = .ok (.array [.string "staff"]) :=
    (eval_after_fst ..).trans (Library.evalText_of_ok hs context)
  have hevalT : (engine.eval context t).1 = .ok (.string "\x7b\x7d $\x7b") :=
    (eval_after_fst ..).trans (Library.evalText_of_ok ht context)
  -- The theorem gives values of both parts, which are the ones found above.
  obtain ⟨a, b, v, events, more, ha, hb, hv, htext⟩ := hjoin hwhole context
  obtain ⟨rfl, hvalueS⟩ := Outcome.mk.inj (hevalS.symm.trans ha)
  obtain ⟨rfl, hvalueT⟩ := Outcome.mk.inj (hevalT.symm.trans hb)
  refine ⟨hevalS, hevalT, v, hv, ?_⟩
  rw [htext, ← Except.ok.inj hvalueS, ← Except.ok.inj hvalueT]
  decide +kernel

end Engine

end AccessPolicy
