import AccessPolicy.Proofs.Expression.Objects

/-!
# Repeated objects

An object with a list maps the same object without its guard and its list over the items
(`Expr.eval_repeated_iff`), and fails with the first error (`Expr.eval_repeated_error_iff`). The
variable `repeat` is bound for the item alone: what is around a repeated object is what it would
be with a fixed list in its place (`Expr.eval_unsteered_repeated`). `Expr.eval_repeated` has all of
this.
-/

namespace AccessPolicy

/-! ### The context of an item -/

namespace Context

variable (context : Context) (item : Value) (index size : Nat)

theorem get?_forItem_repeat :
    Entries.get? "repeat" (context.forItem item index size).bindings =
      some (repeatState item index size) :=
  Entries.get?_insert_self ..

theorem get?_forItem_of_ne {name : String} (h : name ≠ "repeat") :
    Entries.get? name (context.forItem item index size).bindings =
      Entries.get? name context.bindings :=
  Entries.get?_insert_of_ne h ..

end Context

namespace Expr

variable {context : Context} {fields : List (String × Expr)} {list : Expr}

/-- The value of an object without its guard and its list where `repeat` tells an item, its
position and the number of items. -/
def evalItem (context : Context) (fields : List (String × Expr)) (item : Value) (index size : Nat) :
    Except ExprError Value :=
  ((unsteered fields).eval (context.forItem item index size)).result

theorem result_eval_repeated (hlist : Entries.get? repeatField fields = some list)
    (hguard : GuardPasses context fields) :
    (eval context (.object fields)).result = do
      let items := (← (list.eval context).result).asList
      let values ← items.zipIdx.mapM fun item =>
        evalItem context fields item.1 item.2 items.length
      return .array values := by
  rw [result_eval_object hguard, hlist]
  rfl

/-- A repeated object has a list for its value, with one value for each item. -/
theorem eval_repeated_iff (hlist : Entries.get? repeatField fields = some list)
    (hguard : GuardPasses context fields) {w : Value} :
    (eval context (.object fields)).result = .ok w ↔
      ∃ v values, (list.eval context).result = .ok v ∧ w = .array values ∧
        values.length = v.asList.length ∧ ∀ (i : Nat) (item : Value), v.asList[i]? = some item →
          ∃ value, values[i]? = some value ∧
            evalItem context fields item i v.asList.length = .ok value := by
  rw [result_eval_repeated hlist hguard, Decision.bind_eq_ok_iff]
  refine exists_congr fun v => ?_
  rw [Decision.bind_eq_ok_iff]
  constructor
  · rintro ⟨hv, values, hvalues, hw⟩
    obtain ⟨hlength, hitems⟩ := mapM_zipIdx_eq_ok_iff.1 hvalues
    exact ⟨values, hv, (Except.ok.inj hw).symm, hlength, hitems⟩
  · rintro ⟨values, hv, rfl, hlength, hitems⟩
    exact ⟨hv, values, mapM_zipIdx_eq_ok_iff.2 ⟨hlength, hitems⟩, rfl⟩

/-- A repeated object fails with its list, or with the first item that fails. -/
theorem eval_repeated_error_iff (hlist : Entries.get? repeatField fields = some list)
    (hguard : GuardPasses context fields) {e : ExprError} :
    (eval context (.object fields)).result = .error e ↔
      (list.eval context).result = .error e ∨
        ∃ v, (list.eval context).result = .ok v ∧ ∃ (i : Nat) (item : Value),
          v.asList[i]? = some item ∧ evalItem context fields item i v.asList.length = .error e ∧
            ∀ (j : Nat) (before : Value), j < i → v.asList[j]? = some before →
              ∃ value, evalItem context fields before j v.asList.length = .ok value := by
  rw [result_eval_repeated hlist hguard, Decision.bind_eq_error_iff]
  refine or_congr_right (exists_congr fun v => and_congr_right fun _ => ?_)
  rw [Decision.bind_eq_error_iff, mapM_zipIdx_eq_error_iff]
  constructor
  · rintro (h | ⟨values, -, h⟩)
    · exact h
    · cases h
  · exact Or.inl

/-! ### Behind a repeated object -/

/-- Where an object has a list for its value, its field could as well have the list as a fixed
value: it has left no trace in what the other fields are evaluated with. -/
theorem render_repeated {values : List Value}
    (h : (eval context (.object fields)).result = .ok (.array values)) (name : String)
    (front back : List (String × Expr)) (out : Fields) :
    (render context out (front ++ (name, .object fields) :: back)).result =
      (render context out (front ++ (name, .const (.array values)) :: back)).result := by
  have hadded : (addedEntries context name (.object fields)).result =
      (addedEntries context name (.const (.array values))).result := by
    have hconst : (eval context (.const (.array values))).result = .ok (.array values) := by simp
    rw [result_addedEntries (fun _ => rfl) h, result_addedEntries (fun _ => rfl) hconst]
    simp [entriesOf, isMerged, isArray, const, Value.isNull]
  simp only [render_eq, allEntries_append, allEntries_cons, Outcome.result_map, Outcome.result_bind,
    hadded]

/-- The same for an object around it, which has its field at any place. -/
theorem eval_unsteered_repeated {values : List Value}
    (h : (eval context (.object fields)).result = .ok (.array values)) (name : String)
    (front back : List (String × Expr)) :
    (eval context (unsteered (front ++ (name, .object fields) :: back))).result =
      (eval context (unsteered (front ++ (name, .const (.array values)) :: back))).result := by
  simp only [eval_unsteered, result_evalOnce, Entries.get?_append, Entries.get?]
  -- The object around it may have the repeated one, or another field, for its whole value.
  cases Entries.get? valueField front with
  | some expr => rfl
  | none =>
    by_cases hname : name = valueField
    · simp [hname, h]
    · simp only [hname, if_false, Option.none_or, render_repeated h]

/-- An object with a list and a guard that passes, if it has one, is a map over the items of the
list: its value is a list with one value for each item, that of the object without its guard and
its list. It fails if its list does, or with the error of the first item that fails. The context of
an item differs in `repeat` alone, and what is around the object does not see it: an object that
has the repeated one in a field, at an item of a list of its own or not, is what it would be with
the values as a fixed list there. -/
theorem eval_repeated (hlist : Entries.get? repeatField fields = some list)
    (hguard : GuardPasses context fields) :
    (∀ w, (eval context (.object fields)).result = .ok w ↔
      ∃ v values, (list.eval context).result = .ok v ∧ w = .array values ∧
        values.length = v.asList.length ∧ ∀ (i : Nat) (item : Value), v.asList[i]? = some item →
          ∃ value, values[i]? = some value ∧
            evalItem context fields item i v.asList.length = .ok value) ∧
    (∀ e, (eval context (.object fields)).result = .error e ↔
      (list.eval context).result = .error e ∨
        ∃ v, (list.eval context).result = .ok v ∧ ∃ (i : Nat) (item : Value),
          v.asList[i]? = some item ∧ evalItem context fields item i v.asList.length = .error e ∧
            ∀ (j : Nat) (before : Value), j < i → v.asList[j]? = some before →
              ∃ value, evalItem context fields before j v.asList.length = .ok value) ∧
    (∀ item index size, let inner := context.forItem item index size
      inner.toMoment = context.toMoment ∧ inner.keys = context.keys ∧
      (∀ name, name ≠ "repeat" →
        Entries.get? name inner.bindings = Entries.get? name context.bindings) ∧
      Entries.get? "repeat" inner.bindings = some (.object [("item", item),
        ("index", .ofNat index), ("size", .ofNat size), ("first", .bool (index = 0)),
        ("last", .bool (index + 1 = size)), ("even", .bool (index % 2 = 0)),
        ("odd", .bool (index % 2 = 1))])) ∧
    ∀ values, (eval context (.object fields)).result = .ok (.array values) →
      ∀ name front back,
        (eval context (unsteered (front ++ (name, .object fields) :: back))).result =
          (eval context (unsteered (front ++ (name, .const (.array values)) :: back))).result := by
  refine ⟨fun w => eval_repeated_iff hlist hguard, fun e => eval_repeated_error_iff hlist hguard,
    fun item index size => ⟨rfl, rfl, ?_, context.get?_forItem_repeat item index size⟩, ?_⟩
  · intro name hname
    exact context.get?_forItem_of_ne item index size hname
  · intro values h name front back
    exact eval_unsteered_repeated h name front back

/-- In each row the inner object tells which of its items is the last one, and the field behind it
tells the position of the row. -/
theorem eval_repeated_rows :
    let context : Context := { now := ⟨0, 0, by decide, by decide⟩, sample := .zero false }
    let read (name : String) : Expr :=
      .text (.single (.lookup ⟨"repeat", name⟩ (.variableField "repeat") []))
    let inner : Expr := .object [("@repeat", .const (.array [.null, .null])), ("k", read "last")]
    let list : Expr := .const (.array [.bool true, .null])
    let fields := [("@if", .const (.bool true)), ("rows", inner), ("@repeat", list),
      ("index", read "index")]
    let row (i : Nat) : Value := .object [("rows", .array [.object [("k", .bool false)],
      .object [("k", .bool true)]]), ("index", .ofNat i)]
    Entries.get? repeatField fields = some list ∧ GuardPasses context fields ∧
      (eval context (.object fields)).result = .ok (.array [row 0, row 1]) := by
  intro context read inner list fields row
  have hlist : Entries.get? repeatField fields = some list := rfl
  have hguard : GuardPasses context fields := by
    intro guard h
    obtain rfl := Option.some.inj h
    exact ⟨.bool true, rfl, rfl⟩
  refine ⟨hlist, hguard, ((eval_repeated hlist hguard).1 _).2
    ⟨.array [.bool true, .null], _, rfl, rfl, rfl, fun i item hitem => ?_⟩⟩
  have hi : i < 2 := (List.getElem?_eq_some_iff.1 hitem).1
  obtain rfl | rfl : i = 0 ∨ i = 1 := by omega
  · obtain rfl := Option.some.inj hitem
    exact ⟨row 0, rfl, rfl⟩
  · obtain rfl := Option.some.inj hitem
    exact ⟨row 1, rfl, rfl⟩

end Expr

end AccessPolicy
