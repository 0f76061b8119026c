import AccessPolicy.Decision.Matching
import AccessPolicy.Proofs.Pattern.Cache
import Mathlib.Tactic.ByContra

/-!
# Answers that do not depend on the cache

The answer of a decision is its result from an empty cache. A decision is blind to the cache if
it has this result from every faithful cache and leaves a faithful cache behind. Everything that
decisions are made of is blind: matching, and tests of lists one after the other
(`CacheBlind.anyM`, `CacheBlind.filterM`, `CacheBlind.foldlM`). The answer of such a composition
is the same composition of answers, so decisions can be reasoned about as pure computations.
-/

namespace AccessPolicy.Decision

variable {α β : Type}

/-- The result from an empty cache. -/
def answer (x : Decision α) : Except PolicyError α :=
  (x {}).1.result

/-- The result does not depend on what a faithful cache keeps, and the cache stays faithful. -/
structure CacheBlind (x : Decision α) : Prop where
  /-- Every faithful cache leads to the same result. -/
  result_eq {cache : PatternCache} : cache.Faithful → (x cache).1.result = x.answer
  /-- The cache stays faithful. -/
  faithful {cache : PatternCache} : cache.Faithful → (x cache).2.Faithful

/-! ### Single steps -/

theorem cacheBlind_ofOutcome (x : Outcome PolicyError α) : (ofOutcome x).CacheBlind :=
  ⟨fun _ => rfl, fun h => h⟩

theorem cacheBlind_pure (a : α) : (pure a : Decision α).CacheBlind :=
  ⟨fun _ => rfl, fun h => h⟩

@[simp]
theorem answer_pure (a : α) : (pure a : Decision α).answer = .ok a := rfl

@[simp]
theorem answer_ofExpression (x : Outcome ExprError α) :
    (ofExpression x).answer = x.result.mapError .expression := rfl

/-- From a faithful cache an action is matched with what reading the glob gives. -/
theorem result_matchAction (action glob : String) {cache : PatternCache} (h : cache.Faithful) :
    (matchAction action glob cache).1.result =
      .ok (Pattern.matchesText (Pattern.glob? glob) action) :=
  congrArg Except.ok (PatternCache.matchAction_fst h glob action)

@[simp]
theorem answer_matchAction (action glob : String) :
    (matchAction action glob).answer = .ok (Pattern.matchesText (Pattern.glob? glob) action) :=
  result_matchAction action glob PatternCache.faithful_empty

theorem cacheBlind_matchAction (action glob : String) : (matchAction action glob).CacheBlind where
  result_eq h := by rw [result_matchAction action glob h, answer_matchAction]
  faithful h := PatternCache.faithful_matchAction h glob action

/-- From a faithful cache a resource is matched with what reading the pattern gives. -/
theorem result_matchResource (resource pattern : String) {cache : PatternCache}
    (h : cache.Faithful) :
    (matchResource resource pattern cache).1.result =
      .ok (Pattern.matchesText (Pattern.wildcard? pattern) resource) :=
  congrArg Except.ok (PatternCache.matchResource_fst h pattern resource)

@[simp]
theorem answer_matchResource (resource pattern : String) :
    (matchResource resource pattern).answer =
      .ok (Pattern.matchesText (Pattern.wildcard? pattern) resource) :=
  result_matchResource resource pattern PatternCache.faithful_empty

theorem cacheBlind_matchResource (resource pattern : String) :
    (matchResource resource pattern).CacheBlind where
  result_eq h := by rw [result_matchResource resource pattern h, answer_matchResource]
  faithful h := PatternCache.faithful_matchResource h pattern resource

/-! ### Steps one after the other -/

/-- What a composition does from a given cache. -/
theorem result_bind (x : Decision α) (f : α → Decision β) (cache : PatternCache) :
    ((x >>= f) cache).1.result =
      (x cache).1.result >>= fun a => (f a (x cache).2).1.result := by
  change (andThen x f cache).1.result = _
  unfold andThen
  split
  next run => rw [run]; rfl
  next run => rw [run]; rfl

/-- The cache that a composition leaves behind. -/
theorem cache_bind (x : Decision α) (f : α → Decision β) (cache : PatternCache) :
    ((x >>= f) cache).2 =
      match (x cache).1.result with
      | .ok a => (f a (x cache).2).2
      | .error _ => (x cache).2 := by
  change (andThen x f cache).2 = _
  unfold andThen
  split
  next run => rw [run]
  next run => rw [run]

/-- The answer of a composition is the composition of the answers. -/
theorem answer_bind {x : Decision α} {f : α → Decision β} (hx : x.CacheBlind)
    (hf : ∀ a, (f a).CacheBlind) : (x >>= f).answer = x.answer >>= fun a => (f a).answer := by
  rw [answer, result_bind]
  exact bind_congr fun a => (hf a).result_eq (hx.faithful PatternCache.faithful_empty)

theorem CacheBlind.bind {x : Decision α} {f : α → Decision β} (hx : x.CacheBlind)
    (hf : ∀ a, (f a).CacheBlind) : (x >>= f).CacheBlind where
  result_eq {cache} h := by
    rw [answer_bind hx hf, result_bind, hx.result_eq h]
    exact bind_congr fun a => (hf a).result_eq (hx.faithful h)
  faithful {cache} h := by
    rw [cache_bind]
    split
    · exact (hf _).faithful (hx.faithful h)
    · exact hx.faithful h

/-! ### Tests of a list -/

section List

variable {f : α → Decision Bool} (hf : ∀ a, (f a).CacheBlind)

include hf

theorem CacheBlind.anyM (l : List α) : (l.anyM f).CacheBlind := by
  induction l with
  | nil => exact cacheBlind_pure false
  | cons a l ih =>
    refine (hf a).bind fun holds => ?_
    cases holds with
    | true => exact cacheBlind_pure true
    | false => exact ih

theorem answer_anyM (l : List α) : (l.anyM f).answer = l.anyM fun a => (f a).answer := by
  induction l with
  | nil => rfl
  | cons a l ih =>
    refine (answer_bind (hf a) fun holds => ?_).trans ?_
    · cases holds with
      | true => exact cacheBlind_pure true
      | false => exact CacheBlind.anyM hf l
    · refine bind_congr fun holds => ?_
      cases holds with
      | true => rfl
      | false => exact ih

theorem CacheBlind.filterAuxM (l kept : List α) : (l.filterAuxM f kept).CacheBlind := by
  induction l generalizing kept with
  | nil => exact cacheBlind_pure kept
  | cons a l ih => exact (hf a).bind fun holds => ih _

theorem answer_filterAuxM (l kept : List α) :
    (l.filterAuxM f kept).answer = l.filterAuxM (fun a => (f a).answer) kept := by
  induction l generalizing kept with
  | nil => rfl
  | cons a l ih =>
    refine (answer_bind (hf a) fun holds => CacheBlind.filterAuxM hf l _).trans ?_
    exact bind_congr fun holds => ih _

theorem CacheBlind.filterM (l : List α) : (l.filterM f).CacheBlind :=
  (CacheBlind.filterAuxM hf l []).bind fun kept => cacheBlind_pure kept.reverse

theorem answer_filterM (l : List α) :
    (l.filterM f).answer = l.filterM fun a => (f a).answer := by
  refine (answer_bind (CacheBlind.filterAuxM hf l []) fun kept => cacheBlind_pure _).trans ?_
  rw [answer_filterAuxM hf]
  rfl

end List

section Fold

variable {f : β → α → Decision β} (hf : ∀ b a, (f b a).CacheBlind)

include hf

theorem CacheBlind.foldlM (l : List α) (b : β) : (l.foldlM f b).CacheBlind := by
  induction l generalizing b with
  | nil => exact cacheBlind_pure b
  | cons a l ih => exact (hf b a).bind ih

theorem answer_foldlM (l : List α) (b : β) :
    (l.foldlM f b).answer = l.foldlM (fun b a => (f b a).answer) b := by
  induction l generalizing b with
  | nil => rfl
  | cons a l ih =>
    refine (answer_bind (hf b a) (CacheBlind.foldlM hf l)).trans ?_
    exact bind_congr ih

end Fold

/-- A decision between two others is blind to the cache if both are. -/
theorem CacheBlind.ite {x y : Decision α} (hx : x.CacheBlind) (hy : y.CacheBlind) (b : Bool) :
    (if b then x else y).CacheBlind := by
  cases b with
  | true => exact hx
  | false => exact hy

/-! ### Steps that may fail -/

section Except

variable {ε : Type} {x : Except ε α} {f : α → Except ε β}

/-- Two steps have a value where both do. -/
theorem bind_eq_ok_iff {b : β} : x >>= f = .ok b ↔ ∃ a, x = .ok a ∧ f a = .ok b := by
  cases x <;> simp [bind, Except.bind]

/-- Two steps fail with the error of the first, or of the second after it. -/
theorem bind_eq_error_iff {e : ε} :
    x >>= f = .error e ↔ x = .error e ∨ ∃ a, x = .ok a ∧ f a = .error e := by
  cases x <;> simp [bind, Except.bind]

/-- Two steps fail where the first does, or the second after it. -/
theorem bind_error_iff :
    (∃ e, x >>= f = .error e) ↔ (∃ e, x = .error e) ∨ ∃ a, x = .ok a ∧ ∃ e, f a = .error e := by
  cases x <;> simp [bind, Except.bind]

end Except

/-! ### Tests with known results -/

section Known

variable {ε : Type} {f : α → Except ε Bool}

/-- Looking for an element by tests of which none fails. -/
theorem anyM_of_ok {l : List α} {p : α → Bool} (h : ∀ a ∈ l, f a = .ok (p a)) :
    l.anyM f = .ok (l.any p) := by
  induction l with
  | nil => rfl
  | cons a l ih =>
    have hl := ih fun b hb => h b (List.mem_cons_of_mem a hb)
    rw [List.anyM_cons, h a List.mem_cons_self, List.any_cons]
    cases p a with
    | true => rfl
    | false => exact hl

/-- Filtering by tests of which none fails keeps what passes. -/
theorem filterM_of_ok {l : List α} (h : ∀ a ∈ l, ∃ b, f a = .ok b) :
    l.filterM f = .ok (l.filter fun a => (f a).toOption = some true) := by
  -- The elements that were kept so far stand in front of the others, last first.
  have loop : ∀ kept, l.filterAuxM f kept =
      .ok ((l.filter fun a => (f a).toOption = some true).reverse ++ kept) := by
    induction l with
    | nil => exact fun kept => rfl
    | cons a l ih =>
      intro kept
      obtain ⟨b, hb⟩ := h a List.mem_cons_self
      have hl := ih fun a ha => h a (List.mem_cons_of_mem _ ha)
      rw [List.filterAuxM, hb]
      change l.filterAuxM f (cond b (a :: kept) kept) = _
      rw [hl]
      cases b <;> simp [hb, Except.toOption]
  rw [List.filterM, loop []]
  simp [bind, Except.bind, pure, Except.pure]

/-- Filtering fails where one of the tests fails. -/
theorem filterM_of_error {l : List α} {a : α} (ha : a ∈ l) {e : ε} (h : f a = .error e) :
    ∃ e, l.filterM f = .error e := by
  have loop : ∀ kept, ∃ e, l.filterAuxM f kept = .error e := by
    induction l with
    | nil => exact absurd ha List.not_mem_nil
    | cons b l ih =>
      intro kept
      rw [List.filterAuxM]
      rcases List.mem_cons.1 ha with rfl | hl
      · exact ⟨e, by rw [h]; rfl⟩
      · cases hb : f b with
        | error e => exact ⟨e, rfl⟩
        | ok b => exact ih hl _
  obtain ⟨e, he⟩ := loop []
  exact ⟨e, by rw [List.filterM, he]; rfl⟩

/-- If filtering does not fail, neither does any of the tests. -/
theorem known_of_filterM {l kept : List α} (h : l.filterM f = .ok kept) {a : α} (ha : a ∈ l) :
    ∃ b, f a = .ok b := by
  cases hb : f a with
  | ok b => exact ⟨b, rfl⟩
  | error e =>
    obtain ⟨e', he⟩ := filterM_of_error ha hb
    rw [he] at h
    cases h

/-- Filtering fails exactly where one of the tests fails. -/
theorem filterM_error_iff {l : List α} :
    (∃ e, l.filterM f = .error e) ↔ ∃ a ∈ l, ∃ e, f a = .error e := by
  constructor
  · rintro ⟨e, he⟩
    by_contra hnone
    have hknown : ∀ a ∈ l, ∃ b, f a = .ok b := by
      intro a ha
      cases hb : f a with
      | ok b => exact ⟨b, rfl⟩
      | error e => exact absurd ⟨a, ha, e, hb⟩ hnone
    rw [filterM_of_ok hknown] at he
    cases he
  · rintro ⟨a, ha, e, h⟩
    exact filterM_of_error ha h

/-- What a filter keeps has passed its test, and nothing else is missing. -/
theorem mem_of_filterM_eq_ok {l kept : List α} (h : l.filterM f = .ok kept) (a : α) :
    a ∈ kept ↔ a ∈ l ∧ f a = .ok true := by
  have hknown : ∀ a ∈ l, ∃ b, f a = .ok b := fun a => known_of_filterM h
  rw [filterM_of_ok hknown] at h
  rw [← Except.ok.inj h, List.mem_filter]
  refine and_congr_right fun ha => ?_
  obtain ⟨b, hb⟩ := hknown a ha
  simp [hb, Except.toOption]

end Known

end AccessPolicy.Decision
