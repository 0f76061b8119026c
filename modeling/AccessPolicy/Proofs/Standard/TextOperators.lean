import AccessPolicy.Standard.Operators
import AccessPolicy.Proofs.Entries
import AccessPolicy.Proofs.Pattern.Wildcard

/-!
# Laws of the operators on texts

Each comparison of texts has three operators, which ask it of the first item of a key, of some item
or of all of them (`Compares`), and a negation of each. What the operators ask bounds how they
change when items or operands are added, and where the three agree (`Compares.setLaws`). The
operators of a name are told apart by what stands in front of it (`find?_operators`), so the laws
hold of what is registered under these names (`find?_operators_setLaws`).
-/

namespace AccessPolicy.Standard

/-- The items of an array; another value is its own only item. -/
def items : Value → List Value
  | .array items => items
  | v => [v]

/-- Three tests ask a comparison of texts of the first item of a key, of some item and of all
items. -/
structure Compares (compare : TextComparison) (one any all : ConditionTest) : Prop where
  /-- The first item fits the first operand, where either may be missing. -/
  one_eq (key : Value) (operands : List Value) :
    one key (.array operands) =
      compare ((items key).head?.bind Value.toText?) (operands.head?.bind Value.toText?)
  /-- Some item fits some operand. -/
  any_iff (key : Value) (operands : List Value) :
    any key (.array operands) = true ↔
      ∃ item ∈ items key, ∃ operand ∈ operands, compare item.toText? operand.toText? = true
  /-- Every item fits some operand, or the key is null. -/
  all_iff (key : Value) (operands : List Value) :
    all key (.array operands) = true ↔
      key = .null ∨
        ∀ item ∈ items key, ∃ operand ∈ operands, compare item.toText? operand.toText? = true

/-- How three tests depend on the items of a key and on the operands. -/
structure SetLaws (one any all : ConditionTest) : Prop where
  /-- More operands can only let some item fit. -/
  any_append_operands (key : Value) (operands more : List Value) :
    any key (.array operands) = true → any key (.array (operands ++ more)) = true
  /-- More operands can only let all items fit. -/
  all_append_operands (key : Value) (operands more : List Value) :
    all key (.array operands) = true → all key (.array (operands ++ more)) = true
  /-- More items can only let some item fit. -/
  any_append_items (items more operands : List Value) :
    any (.array items) (.array operands) = true →
      any (.array (items ++ more)) (.array operands) = true
  /-- More items can only keep all items from fitting. -/
  all_of_append_items (items more operands : List Value) :
    all (.array (items ++ more)) (.array operands) = true →
      all (.array items) (.array operands) = true
  /-- All items of null fit, whatever the operands. -/
  all_null (operands : List Value) : all .null (.array operands) = true
  /-- The first test depends only on the first item and the first operand. -/
  one_congr (key other : Value) (operands others : List Value) :
    (items key).head? = (items other).head? → operands.head? = others.head? →
      one key (.array operands) = one other (.array others)
  /-- The tests agree on a key other than null with one item and one operand. -/
  coincide (key item operand : Value) : key ≠ .null → items key = [item] →
    one key (.array [operand]) = any key (.array [operand]) ∧
      any key (.array [operand]) = all key (.array [operand])

/-! ### The forms of a comparison -/

section Forms

variable (compare : TextComparison)

theorem texts_eq_map_items (v : Value) : texts v = (items v).map Value.toText? := by
  cases v <;> rfl

theorem toText?_firstItem (v : Value) :
    (firstItem v).toText? = (items v).head?.bind Value.toText? := by
  cases v with
  | array items => cases items <;> rfl
  | _ => rfl

theorem isNull_iff {v : Value} : v.isNull = true ↔ v = .null := by
  cases v <;> simp [Value.isNull]

/-- The three forms of a comparison. -/
theorem compares_forms : Compares compare (single compare) (forAny compare) (forAll compare) where
  one_eq key operands := by
    rw [single, toText?_firstItem, toText?_firstItem]
    rfl
  any_iff key operands := by
    simp [forAny, texts_eq_map_items, items]
  all_iff key operands := by
    simp [forAll, texts_eq_map_items, items, isNull_iff]

end Forms

namespace Compares

variable {compare : TextComparison} {one any all : ConditionTest}

theorem setLaws (h : Compares compare one any all) : SetLaws one any all where
  any_append_operands key operands more := by
    rw [h.any_iff, h.any_iff]
    rintro ⟨item, hitem, operand, hoperand, hfits⟩
    exact ⟨item, hitem, operand, List.mem_append_left more hoperand, hfits⟩
  all_append_operands key operands more := by
    rw [h.all_iff, h.all_iff]
    rintro (hnull | hitems)
    · exact .inl hnull
    · refine .inr fun item hitem => ?_
      obtain ⟨operand, hoperand, hfits⟩ := hitems item hitem
      exact ⟨operand, List.mem_append_left more hoperand, hfits⟩
  any_append_items items more operands := by
    rw [h.any_iff, h.any_iff]
    rintro ⟨item, hitem, hfits⟩
    exact ⟨item, List.mem_append_left more hitem, hfits⟩
  all_of_append_items items more operands := by
    rw [h.all_iff, h.all_iff]
    rintro (hnull | hitems)
    · -- An array is not null.
      cases hnull
    · exact .inr fun item hitem => hitems item (List.mem_append_left more hitem)
  all_null operands := (h.all_iff .null operands).2 (.inl rfl)
  one_congr key other operands others hitem hoperand := by
    rw [h.one_eq, h.one_eq, hitem, hoperand]
  coincide key item operand hnull hitems := by
    -- Each test is the comparison of the one item with the one operand.
    have hone : one key (.array [operand]) = compare item.toText? operand.toText? := by
      rw [h.one_eq, hitems]
      rfl
    have hany : any key (.array [operand]) = compare item.toText? operand.toText? := by
      rw [Bool.eq_iff_iff, h.any_iff, hitems]
      simp
    have hall : all key (.array [operand]) = compare item.toText? operand.toText? := by
      rw [Bool.eq_iff_iff, h.all_iff, hitems]
      simp [hnull]
    exact ⟨hone.trans hany.symm, hany.trans hall.symm⟩

end Compares

/-! ### The registered operators -/

/-- No two operators on texts have the same name. -/
theorem nodup_textOperators :
    (Entries.keys
      (textComparisons.flatMap fun (name, compare) => textOperator name compare)).Nodup := by
  decide +kernel

/-- An operator on texts is found under its name. -/
theorem find?_operators {name : String} {compare : TextComparison}
    (hbase : (name, compare) ∈ textComparisons) {operator : String} {test : ConditionTest}
    (hentry : (operator, test) ∈ textOperator name compare) :
    operators.find? operator = some test := by
  have hmem : (operator, test) ∈
      textComparisons.flatMap fun (name, compare) => textOperator name compare :=
    List.mem_flatMap.2 ⟨(name, compare), hbase, hentry⟩
  have hfound : textOperators.find? operator = some test := by
    rw [textOperators, Registry.ofEntries, Entries.ofList_of_nodup nodup_textOperators,
      Registry.find?, (Entries.get?_eq_some_iff_mem nodup_textOperators).2 hmem]
    rfl
  -- The operators on texts are asked first, and under the name as it is.
  rw [operators, Registry.find?, Registry.chain, Registry.find?, Registry.findAmong?, hfound]
  rfl

/-- Each comparison of texts has three operators and their exact negations. The three ask the
comparison of the first item, of some item and of all items of a key. So they depend on added
items and operands in one direction each, all items of null fit, the first depends on the first
item and operand only, and all agree on a key other than null with one item and one operand. -/
theorem find?_operators_setLaws :
    ∀ name compare, (name, compare) ∈ [("Equals", sameText),
        ("EqualsIgnoreCase", sameTextIgnoringCase), ("Like", Pattern.like)] →
      ∃ one any all : ConditionTest,
      (∀ form test, (form, test) ∈ [("", one), ("ForAnyValue:", any), ("ForAllValues:", all)] →
        operators.find? (form ++ "String" ++ name) = some test ∧
        ∃ negation, operators.find? (form ++ "StringNot" ++ name) = some negation ∧
          ∀ key operands, negation key operands = !test key operands) ∧
      Compares compare one any all ∧ SetLaws one any all := by
  intro name compare (hbase : (name, compare) ∈ textComparisons)
  have hforms := compares_forms compare
  refine ⟨_, _, _, fun form test hform => ?_, hforms, hforms.setLaws⟩
  have hpositive : (form ++ "String" ++ name, test) ∈ textOperator name compare :=
    List.mem_flatMap.2 ⟨(form, test), hform, by simp⟩
  have hnegative : (form ++ "StringNot" ++ name, test.negate) ∈ textOperator name compare :=
    List.mem_flatMap.2 ⟨(form, test), hform, by simp⟩
  exact ⟨find?_operators hbase hpositive, _, find?_operators hbase hnegative, fun _ _ => rfl⟩

/-- A null item is like a null operand only. -/
theorem find?_operators_setLaws_like :
    ∃ all negation : ConditionTest,
      operators.find? "ForAllValues:StringLike" = some all ∧
      operators.find? "ForAllValues:StringNotLike" = some negation ∧
      all (.array [.string "ab", .null]) (.array [.string "a*"]) = false ∧
      negation (.array [.string "ab", .null]) (.array [.string "a*"]) = true ∧
      all (.array [.string "ab", .null]) (.array [.string "a*", .null]) = true ∧
      all .null (.array []) = true := by
  obtain ⟨one, any, all, hfound, hcompares, hlaws⟩ :=
    find?_operators_setLaws "Like" Pattern.like (by simp)
  obtain ⟨hall, negation, hnegation, hnot⟩ := hfound "ForAllValues:" all (by simp)
  have hmatches : Pattern.matchesText (Pattern.wildcard? "a*") "ab" = true := by
    have htail : Pattern.Fits ['*'] ['b'] := Pattern.fits_star_iff.2 (by decide)
    exact Pattern.matchesText_wildcard_iff.2 (.cons (show Pattern.Takes 'a' ['a'] from rfl) htail)
  have hfails : all (.array [.string "ab", .null]) (.array [.string "a*"]) = false := by
    rw [Bool.eq_false_iff, ne_eq, hcompares.all_iff]
    simp [items, Value.toText?, Pattern.like]
  refine ⟨all, negation, hall, hnegation, hfails, ?_, ?_, hlaws.all_null []⟩
  · rw [hnot, hfails]
    rfl
  · rw [hcompares.all_iff]
    simp [items, Value.toText?, Pattern.like, hmatches]

end AccessPolicy.Standard
