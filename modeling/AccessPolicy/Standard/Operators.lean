import AccessPolicy.Calendar.Reading
import AccessPolicy.Expression.Condition
import AccessPolicy.Pattern.Wildcard

/-!
# Condition operators

Comparisons of texts, numbers, dates and truth values. The operators on texts come in three
forms: they compare the first text of the key with the first operand, ask for any text of the key
that fits some operand, or ask that all texts of the key do.
-/

namespace AccessPolicy.Standard

/-- A comparison of two texts, where either may be missing. -/
abbrev TextComparison := Option String → Option String → Bool

/-- The texts of a value: those of its items, or its own. -/
def texts : Value → List (Option String)
  | .array items => items.map Value.toText?
  | v => [v.toText?]

/-- The first item of a list; another value is its own first item. -/
def firstItem : Value → Value
  | .array items => items.head?.getD .null
  | v => v

/-- Whether the first text of the key fits the first operand. -/
def single (compare : TextComparison) : ConditionTest := fun keyValue operands =>
  compare (firstItem keyValue).toText? (firstItem operands).toText?

/-- Whether some text of the key fits some operand. -/
def forAny (compare : TextComparison) : ConditionTest := fun keyValue operands =>
  (texts keyValue).any fun text => (texts operands).any (compare text)

/-- Whether every text of the key fits some operand. It holds of null. -/
def forAll (compare : TextComparison) : ConditionTest := fun keyValue operands =>
  keyValue.isNull || (texts keyValue).all fun text => (texts operands).any (compare text)

/-- Whether two texts are the same. -/
def sameText : TextComparison := fun text operand => text == operand

/-- Whether two texts are the same in lower case. -/
def sameTextIgnoringCase : TextComparison := fun text operand =>
  text.map Text.lower == operand.map Text.lower

/-- The forms of an operator on texts, by what stands in front of its name. -/
def textForms (compare : TextComparison) : List (String × ConditionTest) :=
  [("", single compare), ("ForAnyValue:", forAny compare), ("ForAllValues:", forAll compare)]

/-- The forms of an operator on texts, each with its negation. -/
def textOperator (name : String) (compare : TextComparison) : List (String × ConditionTest) :=
  (textForms compare).flatMap fun (form, test) =>
    [(form ++ "String" ++ name, test), (form ++ "StringNot" ++ name, test.negate)]

/-- The comparisons of texts, by the names of their operators. -/
def textComparisons : List (String × TextComparison) :=
  [("Equals", sameText), ("EqualsIgnoreCase", sameTextIgnoringCase), ("Like", Pattern.like)]

/-- The operators on texts. -/
def textOperators : Registry ConditionTest :=
  .ofEntries (textComparisons.flatMap fun (name, compare) => textOperator name compare)

/-- The order of two numbers, where a missing one comes first. Undefined numbers have no order. -/
def compareNumbers : Option Binary64 → Option Binary64 → Option Ordering
  | none, none => some .eq
  | none, some _ => some .lt
  | some _, none => some .gt
  | some x, some y => x.compare? y

/-- Whether the numbers of the key and the operand are in an order that is asked for. -/
def numberOperator (wanted : Ordering → Bool) : ConditionTest := fun keyValue operands =>
  (compareNumbers (firstItem keyValue).toNumber? (firstItem operands).toNumber?).any wanted

/-- The operators on numbers. -/
def numberOperators : Registry ConditionTest :=
  .ofEntries [
    ("NumberEquals", numberOperator Ordering.isEq),
    ("NumberGreaterThan", numberOperator Ordering.isGT),
    ("NumberGreaterThanEquals", numberOperator Ordering.isGE),
    ("NumberLessThan", numberOperator Ordering.isLT),
    ("NumberLessThanEquals", numberOperator Ordering.isLE)]

/-- The order of two instants, where a missing one comes first. -/
def compareInstants : Option Instant → Option Instant → Ordering
  | none, none => .eq
  | none, some _ => .lt
  | some _, none => .gt
  | some i, some j => i.compare j

/-- Whether the dates of the key and the operand are in an order that is asked for. -/
def dateOperator (wanted : Ordering → Bool) : ConditionTest := fun keyValue operands =>
  wanted (compareInstants (firstItem keyValue).toInstant? (firstItem operands).toInstant?)

/-- The operators on dates. -/
def dateOperators : Registry ConditionTest :=
  .ofEntries [
    ("DateEquals", dateOperator Ordering.isEq),
    ("DateNotEquals", dateOperator Ordering.isNe),
    ("DateLessThan", dateOperator Ordering.isLT),
    ("DateLessThanEquals", dateOperator Ordering.isLE),
    ("DateGreaterThan", dateOperator Ordering.isGT),
    ("DateGreaterThanEquals", dateOperator Ordering.isGE)]

/-- Whether the key and the operand have the same truth value, where a missing one is false. -/
def sameTruth : ConditionTest := fun keyValue operands =>
  keyValue.toBool?.getD false == (firstItem operands).toBool?.getD false

/-- The operators on truth values. -/
def truthOperators : Registry ConditionTest :=
  .ofEntries [("Bool", sameTruth)]

/-- The condition operators. Their names may also begin in lower case. -/
def operators : Registry ConditionTest :=
  .lenient (.chain [textOperators, numberOperators, dateOperators, truthOperators])

end AccessPolicy.Standard
