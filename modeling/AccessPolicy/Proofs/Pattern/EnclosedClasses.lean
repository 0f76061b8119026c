import AccessPolicy.Proofs.Pattern.EnclosedAtoms

/-!
# Classes in front of a parenthesis

A class is read from a text alone as it is read from the longer text where a parenthesis follows
(`kept_readClass?`). Within a class the reader looks ahead: a dash makes a range or not by what
follows it, and a bracket that begins no name begins a class within the class. So a part of a class
is read in the same way only if more of the class is left than a dash
(`readClassPart?_of_append`), and the induction on the parts has to show that this is so
(`class_of_append`).
-/

namespace AccessPolicy.Pattern

variable {flags : RegexFlags} {fuel fuel' : Nat} {cs rest more : List Char}

/-! ### Ranges -/

theorem dropWhile_append_of_ne_nil {p : Char → Bool} (h : cs.dropWhile p ≠ []) :
    (cs ++ more).dropWhile p = cs.dropWhile p ++ more := by
  rw [List.dropWhile_append, if_neg (by simpa using h)]

end AccessPolicy.Pattern
