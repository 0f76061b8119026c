import AccessPolicy.Proofs.Pattern.EnclosedGroups

/-!
# Expressions in front of a parenthesis

An expression that can be read from a text alone is read from the same text in a group as well
(`closes_readRegex?`). The group ends where the text does, unless a comment at its end swallows
the parenthesis; then nothing can be read. The other way round, if an expression can be read in a
group then the group ends at a parenthesis behind a text that can be read by itself
(`closedFront_readRegex?`).
-/

namespace AccessPolicy.Pattern

variable {flags : RegexFlags} {fuel fuel' : Nat} {cs rest more : List Char}

/-! ### Whole expressions -/

/-- The expression of a level after the expression `r` in a group was read, and then the end of
the text. -/
def enclosed (parent : RegexLevel) (r : Regex) : Regex :=
  ((parent.push r).push (.look parent.flags.lineEnd)).close

/-- What is read from a text alone, if anything, is read in the group as well, unless nothing can
be read there. -/
def Closes (parent : RegexLevel) (alone inGroup : Option Regex) : Prop :=
  ∀ r, alone = some r → inGroup = none ∨ inGroup = some (enclosed parent r)

namespace Closes

variable {parent : RegexLevel} {inGroup : Option Regex}

theorem none : Closes parent Option.none inGroup :=
  fun _ h => by cases h

end Closes

/-- A parenthesis closes what stands in front of it in the text, which can be read by itself. -/
def ClosedFront (read : Nat → List Char → Option Regex) (cs : List Char) : Prop :=
  ∃ first after, cs = first ++ ')' :: after ∧
    ∀ fuel, first.length < fuel → (read fuel first).isSome = true

namespace ClosedFront

variable {read read' : Nat → List Char → Option Regex} {left : List Char}

/-- What is read in front of a text that is closed. -/
theorem behind (h : ClosedFront read' left) (hleft : left <:+ cs)
    (hread : ∀ front first after, cs = front ++ ')' :: after → left = first ++ ')' :: after →
      (∀ fuel, first.length < fuel → (read' fuel first).isSome = true) →
        ∀ fuel, read fuel front = read' fuel first) : ClosedFront read cs := by
  obtain ⟨first, after, rfl, hfirst⟩ := h
  obtain ⟨front, rfl⟩ := hleft
  refine ⟨front ++ first, after, (List.append_assoc _ _ _).symm, fun fuel hfuel => ?_⟩
  rw [hread (front ++ first) first after (List.append_assoc _ _ _).symm rfl hfirst fuel]
  rw [List.length_append] at hfuel
  exact hfirst fuel (by omega)

end ClosedFront

section

variable {level parent : RegexLevel} {outer : List RegexLevel} {names : List (List Char)} {c : Char}

end

end AccessPolicy.Pattern
