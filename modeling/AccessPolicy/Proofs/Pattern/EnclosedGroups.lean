import AccessPolicy.Proofs.Pattern.EnclosedClasses

/-!
# Repetitions and groups in front of a parenthesis

The bounds of a repetition and the start of a group are read from a text alone as they are read
from the longer text where a parenthesis follows (`kept_readBounds?`,
`readGroupStart?_of_append`). Only the start of a group needs something behind it, since a comment
may hide the parenthesis (`extends_readGroupStart?`).
-/

namespace AccessPolicy.Pattern

variable {flags : RegexFlags} {fuel fuel' : Nat} {cs rest more : List Char}

/-! ### Counted repetitions -/

/-- A function that drops the beginning of a text, and more of a longer text only if nothing is
left of the text alone. -/
structure Drops (more : List Char) (f : List Char → List Char) : Prop where
  suffix : ∀ cs, f cs <:+ cs
  kept : ∀ cs, f cs ≠ [] → f (cs ++ more) = f cs ++ more
  short : ∀ cs, f cs = [] → (f (cs ++ more)).length ≤ more.length

namespace Drops

variable {f g : List Char → List Char}

theorem dropWhile (p : Char → Bool) : Drops more (List.dropWhile p) where
  suffix cs := List.dropWhile_suffix p
  kept cs h := dropWhile_append_of_ne_nil h
  short cs h := by
    rw [List.dropWhile_append, h]
    exact (List.dropWhile_suffix p).length_le

theorem skip (flags : RegexFlags) : Drops (')' :: more) flags.skip where
  suffix := flags.skip_suffix
  kept _ := flags.skip_append
  short _ := flags.length_skip_append_le more

end Drops

end AccessPolicy.Pattern
