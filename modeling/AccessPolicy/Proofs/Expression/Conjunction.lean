import AccessPolicy.Expression.Library
import AccessPolicy.Proofs.Expression.Template
import AccessPolicy.Proofs.Trace
import AccessPolicy.Standard.Operators

/-!
# Lists of conditions

A list of conditions holds if all of its members do, and it is a strict conjunction
(`StrictConjunction`): an error of any member is an error of the list, wherever the member stands
and whatever the others give. Conditions are all read before the first one is tested, but this only
decides which of several errors is met (`strictConjunction_mapM_mapM`). A condition document is
read into one condition for each operator with a key in it (`Condition.readDocument_pairs`), so it
is a strict conjunction of the documents with one such pair
(`Library.testConditions_conjunction`).
-/

namespace AccessPolicy

/-! ### Strict conjunctions -/

/-- The result for a list is the conjunction of the results for its members, and an error where
one of them is. -/
structure StrictConjunction {ε α : Type} (alone : α → Except ε Bool) (members : List α)
    (result : Except ε Bool) : Prop where
  /-- There is a result exactly if every member has one. -/
  succeeds_iff : (∃ value, result = .ok value) ↔ ∀ a ∈ members, ∃ value, alone a = .ok value
  /-- The result is true exactly if that of every member is. -/
  holds_iff : ∀ value, result = .ok value → (value = true ↔ ∀ a ∈ members, alone a = .ok true)
  /-- An error is that of a member. -/
  error_of_member : ∀ e, result = .error e → ∃ a ∈ members, alone a = .error e

namespace StrictConjunction

variable {ε α : Type} {alone : α → Except ε Bool} {members others : List α}
  {result other : Except ε Bool} {a : α} {e : ε}

/-- What the members give determines the result. -/
theorem eq_ok_iff (h : StrictConjunction alone members result) (value : Bool) :
    result = .ok value ↔ (∀ a ∈ members, ∃ b, alone a = .ok b) ∧
      (value = true ↔ ∀ a ∈ members, alone a = .ok true) := by
  constructor
  · intro hvalue
    exact ⟨h.succeeds_iff.1 ⟨value, hvalue⟩, h.holds_iff value hvalue⟩
  · rintro ⟨hmembers, hholds⟩
    obtain ⟨found, hfound⟩ := h.succeeds_iff.2 hmembers
    have hsame : found = value := Bool.eq_iff_iff.2 ((h.holds_iff found hfound).trans hholds.symm)
    rw [hfound, hsame]

/-- Neither the order of the members nor their number counts. -/
theorem eq_ok_congr (h : StrictConjunction alone members result)
    (hother : StrictConjunction alone others other) (hsame : ∀ a, a ∈ members ↔ a ∈ others)
    (value : Bool) : result = .ok value ↔ other = .ok value := by
  rw [h.eq_ok_iff, hother.eq_ok_iff]
  simp only [hsame]

/-- The result for all members of two lists is the conjunction of the results for both. -/
theorem append_eq_ok_iff {both : Except ε Bool} (h : StrictConjunction alone members result)
    (hother : StrictConjunction alone others other)
    (hboth : StrictConjunction alone (members ++ others) both) (value : Bool) :
    both = .ok value ↔
      ∃ first second, result = .ok first ∧ other = .ok second ∧ value = (first && second) := by
  constructor
  · intro hvalue
    obtain ⟨hmembers, hothers⟩ := List.forall_mem_append.1 (hboth.succeeds_iff.1 ⟨value, hvalue⟩)
    obtain ⟨first, hfirst⟩ := h.succeeds_iff.2 hmembers
    obtain ⟨second, hsecond⟩ := hother.succeeds_iff.2 hothers
    refine ⟨first, second, hfirst, hsecond, Bool.eq_iff_iff.2 ?_⟩
    rw [hboth.holds_iff value hvalue, Bool.and_eq_true, h.holds_iff first hfirst,
      hother.holds_iff second hsecond, List.forall_mem_append]
  · rintro ⟨first, second, hfirst, hsecond, rfl⟩
    refine (hboth.eq_ok_iff _).2 ⟨List.forall_mem_append.2 ⟨?_, ?_⟩, ?_⟩
    · exact h.succeeds_iff.1 ⟨first, hfirst⟩
    · exact hother.succeeds_iff.1 ⟨second, hsecond⟩
    · rw [Bool.and_eq_true, h.holds_iff first hfirst, hother.holds_iff second hsecond,
        List.forall_mem_append]

/-- The error of any member surfaces, even behind members that are false. -/
theorem exists_error (h : StrictConjunction alone members result) (ha : a ∈ members)
    (he : alone a = .error e) : ∃ e, result = .error e := by
  cases hresult : result with
  | error e => exact ⟨e, rfl⟩
  | ok value =>
    obtain ⟨b, hb⟩ := h.succeeds_iff.1 ⟨value, hresult⟩ a ha
    cases he.symm.trans hb

/-- Members that give the same one by one are in conjunction to the same result. -/
theorem of_map_eq {β : Type} {alone' : β → Except ε Bool} {members' : List β}
    (h : StrictConjunction alone members result)
    (hsame : members'.map alone' = members.map alone) :
    StrictConjunction alone' members' result := by
  have hforall (P : Except ε Bool → Prop) :
      (∀ b ∈ members', P (alone' b)) ↔ ∀ a ∈ members, P (alone a) := by
    rw [← List.forall_mem_map, hsame, List.forall_mem_map]
  refine ⟨?_, fun value hvalue => ?_, fun e he => ?_⟩
  · exact h.succeeds_iff.trans (hforall fun r => ∃ value, r = .ok value).symm
  · exact (h.holds_iff value hvalue).trans (hforall fun r => r = .ok true).symm
  · obtain ⟨a, ha, hae⟩ := h.error_of_member e he
    have hmem : alone a ∈ members'.map alone' := by
      rw [hsame]
      exact List.mem_map_of_mem ha
    obtain ⟨b, hb, hba⟩ := List.mem_map.1 hmem
    exact ⟨b, hb, hba.trans hae⟩

/-- Results that come from their members are all true exactly if those of the members are. -/
theorem all_eq_true_iff {values : List Bool}
    (h : List.Forall₂ (fun a value => alone a = .ok value) members values) :
    values.all id = true ↔ ∀ a ∈ members, alone a = .ok true := by
  induction h with
  | nil => simp
  | cons ha _ ih =>
    rw [List.all_cons, Bool.and_eq_true, ih, List.forall_mem_cons, ha, Except.ok.injEq, id]

end StrictConjunction

/-- Members that are gone through in two passes, the first of which may already fail, are in
strict conjunction. -/
theorem strictConjunction_mapM_mapM {ε α β : Type} (f : α → Except ε β) (g : β → Except ε Bool)
    (members : List α) :
    StrictConjunction (fun a => f a >>= g) members
      ((members.mapM f >>= fun bs => bs.mapM g).map fun values => values.all id) := by
  cases hvalues : members.mapM f >>= fun bs => bs.mapM g with
  | error e =>
    -- Whichever pass failed, it failed at a member that fails alone.
    have hfails := exists_of_mapM_mapM_eq_error hvalues
    refine ⟨⟨?_, ?_⟩, ?_, ?_⟩
    · rintro ⟨value, h⟩
      cases h
    · intro h
      obtain ⟨a, ha, he⟩ := hfails
      obtain ⟨value, hvalue⟩ := h a ha
      cases he.symm.trans hvalue
    · intro value h
      cases h
    · intro e' h
      obtain rfl := Except.error.inj h
      exact hfails
  | ok values =>
    have hmembers := mapM_mapM_eq_ok_iff.1 hvalues
    refine ⟨⟨fun _ => exists_mapM_eq_ok_iff.1 ⟨values, hmembers⟩, fun _ => ⟨_, rfl⟩⟩, ?_, ?_⟩
    · intro value h
      obtain rfl := Except.ok.inj h
      exact StrictConjunction.all_eq_true_iff (mapM_eq_ok_iff.1 hmembers)
    · intro e h
      cases h

/-! ### Lists of conditions -/

namespace Library

variable {library : Library} {context : Context}

/-- A list of conditions is read as a whole before the first condition is tested. -/
theorem result_testConditions (library : Library) (context : Context)
    (conditions : List Condition) :
    (library.testConditions context conditions).result =
      (conditions.mapM library.readCondition >>= fun ready =>
        ready.mapM fun condition => (ReadyCondition.eval context condition).result).map
          fun values => values.all id := by
  rw [testConditions, Outcome.result_bind]
  cases conditions with
  | nil => rfl
  | cons condition rest =>
    rw [readConditions]
    simp only [List.isEmpty_cons, Bool.false_eq_true, if_false, Outcome.ofExcept]
    cases (condition :: rest).mapM library.readCondition with
    | error e => rfl
    | ok ready =>
      -- What was read is one expression, whose tests all run before their results are joined.
      change (ConditionExpr.eval context (.all ready)).result = _
      rw [ConditionExpr.eval, Outcome.result_bind, Outcome.result_mapM]
      change _ = (ready.mapM fun condition => (ReadyCondition.eval context condition).result).map _
      cases ready.mapM fun condition => (ReadyCondition.eval context condition).result with
      | error e => rfl
      | ok values => rfl

/-- A condition alone is read and then tested. -/
theorem result_testConditions_singleton (library : Library) (context : Context)
    (condition : Condition) :
    (library.testConditions context [condition]).result =
      library.readCondition condition >>= fun ready =>
        (ReadyCondition.eval context ready).result := by
  rw [result_testConditions]
  cases hready : library.readCondition condition with
  | error e => simp [List.mapM_cons, hready, bind, Except.bind, Except.map]
  | ok ready =>
    cases hvalue : (ReadyCondition.eval context ready).result <;>
      simp [List.mapM_cons, hready, hvalue, bind, Except.bind, pure, Except.pure, Except.map]

/-- A list of conditions is the strict conjunction of its members. -/
theorem strictConjunction_testConditions (library : Library) (context : Context)
    (conditions : List Condition) :
    StrictConjunction (fun condition => (library.testConditions context [condition]).result)
      conditions (library.testConditions context conditions).result := by
  simp only [result_testConditions_singleton]
  rw [result_testConditions]
  exact strictConjunction_mapM_mapM _ _ conditions

end Library

/-! ### Condition documents -/

/-- An operator with a key and its operands, as condition documents hold them. -/
structure ConditionPair where
  /-- The operator. -/
  operator : String
  /-- The key. -/
  key : String
  /-- One operand, or a list of them. -/
  operands : Value

namespace ConditionPair

/-- The pairs of an operator with the keys of an object. -/
def ofKeys (operator : String) : Value → List ConditionPair
  | .object keys => keys.map fun (key, operands) => ⟨operator, key, operands⟩
  | _ => []

/-- The pairs of an object of operators, in order. -/
def ofFields (fields : Fields) : List ConditionPair :=
  fields.flatMap fun (operator, keys) => ofKeys operator keys

/-- The pairs of one item of a list of objects. -/
def ofItem : Value → List ConditionPair
  | .object fields => ofFields fields
  | _ => []

/-- The pairs of a condition document, in order. -/
def ofDocument : Value → List ConditionPair
  | .object fields => ofFields fields
  | .array items => items.flatMap ofItem
  | _ => []

/-- The condition document with a single pair. -/
def toDocument (pair : ConditionPair) : Value :=
  .object [(pair.operator, .object [(pair.key, pair.operands)])]

/-- The condition has the operator, the key and the operands of the pair. -/
structure Denotes (pair : ConditionPair) (condition : Condition) : Prop where
  /-- They have the same operator. -/
  operator_eq : condition.operator = pair.operator
  /-- They have the same key. -/
  key_eq : condition.key = pair.key
  /-- The operands are the texts of the pair's. -/
  operands_eq : Condition.readOperands pair.operator pair.operands = .ok condition.operands

end ConditionPair

namespace Condition

open ConditionPair

variable {conditions : List Condition}

/-- Lists that are read part by part and joined have the pairs of their parts. -/
theorem forall₂_flatMap_of_mapM {α : Type} {l : List α} {f : α → Except ExprError (List Condition)}
    {pairs : α → List ConditionPair} (h : (l.mapM f).map List.flatten = .ok conditions)
    (hf : ∀ a part, f a = .ok part → List.Forall₂ Denotes (pairs a) part) :
    List.Forall₂ Denotes (l.flatMap pairs) conditions := by
  cases hparts : l.mapM f with
  | error e =>
    rw [hparts] at h
    cases h
  | ok parts =>
    rw [hparts] at h
    obtain rfl := Except.ok.inj h
    rw [List.flatMap_def]
    refine List.rel_flatten (List.forall₂_map_left_iff.2 ?_)
    exact (mapM_eq_ok_iff.1 hparts).imp hf

/-- An operator has a condition for each of its keys. -/
theorem readKeys_pairs {operator : String} {keys : Value}
    (h : readKeys operator keys = .ok conditions) :
    List.Forall₂ Denotes (ofKeys operator keys) conditions := by
  cases keys with
  | object keys =>
    refine List.forall₂_map_left_iff.2 ((mapM_eq_ok_iff.1 h).imp fun entry condition hread => ?_)
    obtain ⟨key, operands⟩ := entry
    change (readOperands operator operands).map _ = _ at hread
    cases hoperands : readOperands operator operands with
    | error e =>
      rw [hoperands] at hread
      cases hread
    | ok texts =>
      rw [hoperands] at hread
      obtain rfl := Except.ok.inj hread
      exact ⟨rfl, rfl, hoperands⟩
  | _ => cases h

theorem readFields_pairs {fields : Fields} (h : readFields fields = .ok conditions) :
    List.Forall₂ Denotes (ofFields fields) conditions :=
  forall₂_flatMap_of_mapM h fun _ _ => readKeys_pairs

theorem readItem_pairs {item : Value} (h : readItem item = .ok conditions) :
    List.Forall₂ Denotes (ofItem item) conditions := by
  cases item with
  | object fields => exact readFields_pairs h
  | _ => cases h

/-- A document has a condition for each of its pairs, in order. -/
theorem readDocument_pairs {document : Value} (h : readDocument document = .ok conditions) :
    List.Forall₂ Denotes (ofDocument document) conditions := by
  cases document with
  | null =>
    obtain rfl := Except.ok.inj h
    exact .nil
  | object fields => exact readFields_pairs h
  | array items => exact forall₂_flatMap_of_mapM h fun _ _ => readItem_pairs
  | _ => cases h

/-- The document of a single pair has a single condition. -/
theorem readItem_toDocument {pair : ConditionPair} {condition : Condition}
    (h : pair.Denotes condition) : readItem pair.toDocument = .ok [condition] := by
  obtain ⟨operator, key, operands⟩ := condition
  obtain ⟨rfl, rfl, hoperands⟩ := h
  simp [toDocument, readItem, readFields, readKeys, hoperands, List.mapM_cons, Except.map, bind,
    Except.bind, pure, Except.pure]

/-- Pairs may stand in objects of their own. -/
theorem readDocument_split {pairs : List ConditionPair}
    (h : List.Forall₂ Denotes pairs conditions) :
    readDocument (.array (pairs.map toDocument)) = .ok conditions := by
  have hitems : (pairs.map toDocument).mapM readItem = .ok (conditions.map ([·])) := by
    rw [mapM_eq_ok_iff, List.forall₂_map_left_iff, List.forall₂_map_right_iff]
    exact h.imp fun _ _ => readItem_toDocument
  rw [readDocument, hitems, Except.map, ← List.flatMap_def, List.flatMap_singleton']

end Condition

namespace Library

variable {library : Library} {context : Context} {document : Value} {conditions : List Condition}

/-- Whether all conditions of a document hold. -/
def testDocument (library : Library) (context : Context) (document : Value) :
    Outcome ExprError Bool := do
  (← Outcome.ofExcept (library.readConditionDocument document)).eval context

theorem testDocument_of_readDocument (library : Library) (context : Context)
    (h : Condition.readDocument document = .ok conditions) :
    library.testDocument context document = library.testConditions context conditions := by
  rw [testDocument, testConditions, readConditionDocument, h]
  rfl

/-- A document is the strict conjunction of the documents with one of its pairs. -/
theorem strictConjunction_testDocument (library : Library) (context : Context)
    (h : Condition.readDocument document = .ok conditions) :
    StrictConjunction (fun pair => (library.testDocument context pair.toDocument).result)
      (ConditionPair.ofDocument document) (library.testDocument context document).result := by
  rw [testDocument_of_readDocument library context h]
  refine (strictConjunction_testConditions library context conditions).of_map_eq ?_
  rw [← List.forall₂_eq_eq_eq, List.forall₂_map_left_iff, List.forall₂_map_right_iff]
  refine (Condition.readDocument_pairs h).imp fun pair condition hpair => ?_
  have hread : Condition.readDocument pair.toDocument = .ok [condition] :=
    Condition.readItem_toDocument hpair
  rw [testDocument_of_readDocument library context hread]

/-- A list of conditions is the strict conjunction of its members. So neither their order nor
their number counts, lists are joined by conjunction, and an error surfaces wherever it stands. The
same holds of the pairs of a condition document, each of which gives a condition, whether they
share an object or stand in objects of their own. -/
theorem testConditions_conjunction (library : Library) (context : Context) :
    let test := fun conditions => (library.testConditions context conditions).result
    let testDocument := fun document => (library.testDocument context document).result
    (∀ conditions, StrictConjunction (fun c => test [c]) conditions (test conditions)) ∧
    test [] = .ok true ∧
    (∀ conditions others, (∀ c, c ∈ conditions ↔ c ∈ others) →
      ∀ value, test conditions = .ok value ↔ test others = .ok value) ∧
    (∀ conditions others value, test (conditions ++ others) = .ok value ↔
      ∃ first second, test conditions = .ok first ∧ test others = .ok second ∧
        value = (first && second)) ∧
    (∀ conditions, ∀ c ∈ conditions, ∀ e, test [c] = .error e → ∃ e, test conditions = .error e) ∧
    ∀ document conditions, Condition.readDocument document = .ok conditions →
      let pairs := ConditionPair.ofDocument document
      List.Forall₂ ConditionPair.Denotes pairs conditions ∧
      testDocument document = test conditions ∧
      StrictConjunction (fun pair => testDocument pair.toDocument) pairs (testDocument document) ∧
      testDocument (.array (pairs.map ConditionPair.toDocument)) = testDocument document ∧
      (∀ pair ∈ pairs, ∀ e, testDocument pair.toDocument = .error e →
        ∃ e, testDocument document = .error e) ∧
      ∀ other others, Condition.readDocument other = .ok others →
        ((∀ pair, pair ∈ pairs ↔ pair ∈ ConditionPair.ofDocument other) →
          ∀ value, testDocument document = .ok value ↔ testDocument other = .ok value) ∧
        ∀ both all, Condition.readDocument both = .ok all →
          ConditionPair.ofDocument both = pairs ++ ConditionPair.ofDocument other →
          ∀ value, testDocument both = .ok value ↔ ∃ first second,
            testDocument document = .ok first ∧ testDocument other = .ok second ∧
              value = (first && second) := by
  intro test testDocument
  have hlist := strictConjunction_testConditions library context
  refine ⟨hlist, rfl, ?_, ?_, ?_, ?_⟩
  · intro conditions others hsame
    exact (hlist conditions).eq_ok_congr (hlist others) hsame
  · intro conditions others
    exact (hlist conditions).append_eq_ok_iff (hlist others) (hlist (conditions ++ others))
  · intro conditions c hc e he
    exact (hlist conditions).exists_error hc he
  · -- A document is the list of its pairs.
    intro document conditions hread pairs
    have hpairs := Condition.readDocument_pairs hread
    have hwhole := testDocument_of_readDocument library context hread
    have hdocument := strictConjunction_testDocument library context hread
    refine ⟨hpairs, ?_, hdocument, ?_, ?_, ?_⟩
    · exact congrArg Outcome.result hwhole
    · have hsplit := testDocument_of_readDocument library context
        (Condition.readDocument_split hpairs)
      exact congrArg Outcome.result (hsplit.trans hwhole.symm)
    · intro pair hpair e he
      exact hdocument.exists_error hpair he
    · intro other others hother
      have hothers := strictConjunction_testDocument library context hother
      refine ⟨hdocument.eq_ok_congr hothers, fun both all hboth hjoined => ?_⟩
      have hall := strictConjunction_testDocument library context hboth
      rw [hjoined] at hall
      exact hdocument.append_eq_ok_iff hothers hall

/-- A key that nobody knows is an error behind a condition that is false already, and conditions on
one key hold or fail together however their document is laid out. -/
theorem testConditions_conjunction_regrouped :
    let library : Library := ⟨⟨.ofHandlers [(⟨"user", "region"⟩, .const (.string "eu"))], .chain []⟩,
      .ofEntries [("StringEquals", Standard.single Standard.sameText),
        ("StringNotEquals", (Standard.single Standard.sameText).negate)], .chain []⟩
    let context : Context := { now := ⟨0, 0, by decide, by decide⟩, sample := .zero false }
    let equal : Condition := ⟨"StringEquals", "user:region", ["eu"]⟩
    let unequal : Condition := ⟨"StringNotEquals", "user:region", ["eu"]⟩
    let unknown : Condition := ⟨"StringEquals", "user:role", []⟩
    let onRegion (operator : String) (operands : Value) : String × Value :=
      (operator, .object [("user:region", operands)])
    let grouped : Value := .object [onRegion "StringEquals" (.string "eu"),
      onRegion "StringNotEquals" (.string "eu")]
    let split : Value := .array [.object [onRegion "StringNotEquals" (.string "eu")], .object [],
      .object [onRegion "StringNotEquals" (.string "eu"), onRegion "StringEquals" (.string "eu")]]
    (library.testConditions context [unequal]).result = .ok false ∧
      (∃ e, (library.testConditions context [unequal, unknown]).result = .error e) ∧
      (library.testConditions context [equal, unequal]).result = .ok false ∧
      Condition.readDocument grouped = .ok [equal, unequal] ∧
      Condition.readDocument split = .ok [unequal, unequal, equal] ∧
      (library.testDocument context grouped).result = .ok false ∧
      (library.testDocument context split).result = .ok false := by
  intro library context equal unequal unknown onRegion grouped split
  have htemplate : library.readTemplate "eu" = .ok (.single (.const (.string "eu"))) := by
    have hpieces : Piece.ofText "eu".toList = [.text "eu".toList] := by decide +kernel
    rw [Vocabulary.readTemplate_eq, hpieces, Vocabulary.readPieces_text]
    rfl
  have hregion : Key.read "user:region" = .ok ⟨"user", "region"⟩ := by
    have hkey : Key.read? "user:region" = some ⟨"user", "region"⟩ := by decide +kernel
    rw [Key.read, hkey]
  have hrole : Key.read "user:role" = .ok ⟨"user", "role"⟩ := by
    have hkey : Key.read? "user:role" = some ⟨"user", "role"⟩ := by decide +kernel
    rw [Key.read, hkey]
  have hequal : (library.testConditions context [equal]).result = .ok true := by
    rw [result_testConditions_singleton, readCondition, hregion, List.mapM_cons, htemplate]
    rfl
  have hunequal : (library.testConditions context [unequal]).result = .ok false := by
    rw [result_testConditions_singleton, readCondition, hregion, List.mapM_cons, htemplate]
    rfl
  have hunknown : (library.testConditions context [unknown]).result =
      .error (.keyNotFound "user:role") := by
    rw [result_testConditions_singleton, readCondition, hrole]
    rfl
  have hgrouped : Condition.readDocument grouped = .ok [equal, unequal] := rfl
  have hsplit : Condition.readDocument split = .ok [unequal, unequal, equal] := rfl
  obtain ⟨-, -, -, happend, herror, hdocument⟩ := testConditions_conjunction library context
  have hboth := (happend [equal] [unequal] false).2 ⟨true, false, hequal, hunequal, rfl⟩
  obtain ⟨-, hlist, -, -, -, hregroup⟩ := hdocument grouped _ hgrouped
  have hsame : ∀ pair, pair ∈ ConditionPair.ofDocument grouped ↔
      pair ∈ ConditionPair.ofDocument split := by
    intro pair
    change pair ∈ [_, _] ↔ pair ∈ [ConditionPair.mk _ _ _, _, _]
    simp only [List.mem_cons, List.not_mem_nil, or_false]
    tauto
  have hfalse := hlist.trans hboth
  exact ⟨hunequal, herror _ unknown (by simp) _ hunknown, hboth, hgrouped, hsplit, hfalse,
    ((hregroup split _ hsplit).1 hsame false).1 hfalse⟩

end Library

end AccessPolicy
