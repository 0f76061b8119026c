import AccessPolicy.Trace
import AccessPolicy.Proofs.Decision.Answer
import Mathlib.Data.List.Forall2

/-!
# Outcomes one after the other

Outcomes form a lawful monad, whose results are those of the error monad (`Outcome.result_bind`,
`Outcome.result_mapM`). Going through a list succeeds with the results of all members
(`mapM_eq_ok_iff`) and fails with the first error (`mapM_eq_error_iff`).
-/

namespace AccessPolicy

namespace Outcome

variable {ε α β γ : Type}

@[simp]
theorem bind_ok (events : List Event) (a : α) (f : α → Outcome ε β) :
    (⟨events, .ok a⟩ : Outcome ε α) >>= f = ⟨events ++ (f a).events, (f a).result⟩ := rfl

protected theorem id_map (x : Outcome ε α) : id <$> x = x := by
  obtain ⟨events, result⟩ := x
  cases result with
  | ok a => simp [Functor.map, andThen, ok]
  | error e => rfl

protected theorem pure_bind (a : α) (f : α → Outcome ε β) : pure a >>= f = f a := by
  change andThen (ok a) f = f a
  simp [andThen, ok]

protected theorem bind_assoc (x : Outcome ε α) (f : α → Outcome ε β) (g : β → Outcome ε γ) :
    x >>= f >>= g = x >>= fun a => f a >>= g := by
  obtain ⟨events, result⟩ := x
  cases result with
  | error e => rfl
  | ok a =>
    simp only [bind_ok]
    rcases f a with ⟨more, result⟩
    cases result with
    | error e => rfl
    | ok b => simp

instance : LawfulMonad (Outcome ε) :=
  LawfulMonad.mk' _ Outcome.id_map Outcome.pure_bind Outcome.bind_assoc

/-- The result of a composition is the composition of the results. -/
theorem result_bind (x : Outcome ε α) (f : α → Outcome ε β) :
    (x >>= f).result = x.result >>= fun a => (f a).result := by
  change (andThen x f).result = _
  unfold andThen
  cases x.result <;> rfl

@[simp]
theorem result_pure (a : α) : (pure a : Outcome ε α).result = .ok a := rfl

@[simp]
theorem result_map (f : α → β) (x : Outcome ε α) : (f <$> x).result = f <$> x.result := by
  rw [← bind_pure_comp, result_bind, ← bind_pure_comp]
  rfl

@[simp]
theorem events_map (f : α → β) (x : Outcome ε α) : (f <$> x).events = x.events := by
  obtain ⟨events, result⟩ := x
  cases result with
  | error e => rfl
  | ok a => exact List.append_nil events

/-- The result of going through a list is what going through the results gives. -/
theorem result_mapM (f : α → Outcome ε β) (l : List α) :
    (l.mapM f).result = l.mapM fun a => (f a).result := by
  induction l with
  | nil => rfl
  | cons a l ih =>
    rw [List.mapM_cons, List.mapM_cons, result_bind]
    refine bind_congr fun b => ?_
    rw [result_bind, ih]
    rfl

end Outcome

section Except

theorem exists_of_map_eq_ok {ε α β : Type} {x : Except ε α} {f : α → β} {b : β}
    (h : x.map f = .ok b) : ∃ a, x = .ok a ∧ f a = b := by
  cases x with
  | error e => cases h
  | ok a => exact ⟨a, rfl, Except.ok.inj h⟩

variable {ε α β : Type} {f : α → Except ε β} {l : List α}

/-- Going through a list succeeds with the results of its members. -/
theorem mapM_eq_ok_iff {bs : List β} :
    l.mapM f = .ok bs ↔ List.Forall₂ (fun a b => f a = .ok b) l bs := by
  induction l generalizing bs with
  | nil => simp [pure, Except.pure, eq_comm]
  | cons a l ih =>
    rw [List.mapM_cons, Decision.bind_eq_ok_iff, List.forall₂_cons_left_iff]
    refine exists_congr fun b => ?_
    rw [Decision.bind_eq_ok_iff]
    constructor
    · rintro ⟨ha, rest, hrest, h⟩
      exact ⟨rest, ha, ih.1 hrest, (Except.ok.inj h).symm⟩
    · rintro ⟨rest, ha, hrest, rfl⟩
      exact ⟨ha, rest, ih.2 hrest, rfl⟩

/-- Going through a list fails with the first error. -/
theorem mapM_eq_error_iff {e : ε} :
    l.mapM f = .error e ↔
      ∃ (i : Nat) (a : α), l[i]? = some a ∧ f a = .error e ∧
        ∀ (j : Nat) (b : α), j < i → l[j]? = some b → ∃ c, f b = .ok c := by
  induction l with
  | nil => simp [pure, Except.pure]
  | cons a l ih =>
    rw [List.mapM_cons]
    cases ha : f a with
    | error e' =>
      constructor
      · intro h
        obtain rfl := Except.error.inj h
        exact ⟨0, a, rfl, ha, fun j b hj => absurd hj (Nat.not_lt_zero j)⟩
      · rintro ⟨i, b, hi, hb, hbefore⟩
        cases i with
        | zero =>
          obtain rfl := Option.some.inj hi
          obtain rfl := Except.error.inj (ha.symm.trans hb)
          rfl
        | succ i =>
          -- Nothing can stand behind a member that fails.
          obtain ⟨c, hc⟩ := hbefore 0 a (Nat.succ_pos i) rfl
          cases ha.symm.trans hc
    | ok b =>
      have hrest : (do let bs ← l.mapM f; pure (b :: bs) : Except ε (List β)) = .error e ↔
          l.mapM f = .error e := by
        cases l.mapM f <;> simp [bind, Except.bind, pure, Except.pure]
      refine hrest.trans (ih.trans ?_)
      constructor
      · rintro ⟨i, c, hi, hc, hbefore⟩
        refine ⟨i + 1, c, hi, hc, fun j d hj hd => ?_⟩
        cases j with
        | zero =>
          obtain rfl := Option.some.inj hd
          exact ⟨b, ha⟩
        | succ j => exact hbefore j d (Nat.lt_of_succ_lt_succ hj) hd
      · rintro ⟨i, c, hi, hc, hbefore⟩
        cases i with
        | zero =>
          obtain rfl := Option.some.inj hi
          cases ha.symm.trans hc
        | succ i =>
          exact ⟨i, c, hi, hc, fun j d hj hd => hbefore (j + 1) d (Nat.succ_lt_succ hj) hd⟩

/-- Going through a list fails with the error of a member. -/
theorem exists_of_mapM_eq_error {e : ε} (h : l.mapM f = .error e) : ∃ a ∈ l, f a = .error e := by
  obtain ⟨i, a, hi, ha, -⟩ := mapM_eq_error_iff.1 h
  exact ⟨a, List.mem_of_getElem? hi, ha⟩

/-- What going through a list gives comes from its members. -/
theorem exists_of_mem_mapM {bs : List β} (h : l.mapM f = .ok bs) {b : β} (hb : b ∈ bs) :
    ∃ a ∈ l, f a = .ok b := by
  have hmembers := mapM_eq_ok_iff.1 h
  clear h
  induction hmembers with
  | nil => exact absurd hb List.not_mem_nil
  | cons ha hmembers ih =>
    rcases List.mem_cons.1 hb with rfl | hb
    · exact ⟨_, List.mem_cons_self, ha⟩
    · obtain ⟨d, hd, hdb⟩ := ih hb
      exact ⟨d, List.mem_cons_of_mem _ hd, hdb⟩

/-- Going through a list succeeds exactly if every member does. -/
theorem exists_mapM_eq_ok_iff :
    (∃ bs, l.mapM f = .ok bs) ↔ ∀ a ∈ l, ∃ b, f a = .ok b := by
  constructor
  · rintro ⟨bs, h⟩
    have hmembers := mapM_eq_ok_iff.1 h
    clear h
    induction hmembers with
    | nil => simp
    | cons ha _ ih => exact List.forall_mem_cons.2 ⟨⟨_, ha⟩, ih⟩
  · intro h
    cases hl : l.mapM f with
    | ok bs => exact ⟨bs, rfl⟩
    | error e =>
      obtain ⟨a, ha, he⟩ := exists_of_mapM_eq_error hl
      obtain ⟨b, hb⟩ := h a ha
      cases he.symm.trans hb

/-! ### Two passes -/

section Passes

variable {γ : Type} {g : β → Except ε γ}

/-- Two passes give what a single one gives. -/
theorem mapM_mapM_eq_ok_iff {cs : List γ} :
    (l.mapM f >>= fun bs => bs.mapM g) = .ok cs ↔ l.mapM (fun a => f a >>= g) = .ok cs := by
  induction l generalizing cs with
  | nil => rfl
  | cons a l ih =>
    -- The steps of the second pass trade places with the rest of the first one.
    simp only [List.mapM_cons, Decision.bind_eq_ok_iff, pure, Except.pure, Except.ok.injEq]
    constructor
    · rintro ⟨_, ⟨b, hb, bs, hbs, rfl⟩, hcs⟩
      rw [List.mapM_cons] at hcs
      obtain ⟨c, hc, cs', hcs', h⟩ := by
        simpa only [Decision.bind_eq_ok_iff, pure, Except.pure, Except.ok.injEq] using hcs
      exact ⟨c, ⟨b, hb, hc⟩, cs', ih.1 (Decision.bind_eq_ok_iff.2 ⟨bs, hbs, hcs'⟩), h⟩
    · rintro ⟨c, ⟨b, hb, hc⟩, cs', hcs', rfl⟩
      obtain ⟨bs, hbs, hg⟩ := Decision.bind_eq_ok_iff.1 (ih.2 hcs')
      refine ⟨b :: bs, ⟨b, hb, bs, hbs, rfl⟩, ?_⟩
      rw [List.mapM_cons, hc, hg]
      rfl

/-- Two passes fail with the error of a member, which need not be the first one with an error. -/
theorem exists_of_mapM_mapM_eq_error {e : ε}
    (h : (l.mapM f >>= fun bs => bs.mapM g) = .error e) :
    ∃ a ∈ l, (f a >>= g) = .error e := by
  rcases Decision.bind_eq_error_iff.1 h with hfirst | ⟨bs, hbs, hsecond⟩
  · obtain ⟨a, ha, he⟩ := exists_of_mapM_eq_error hfirst
    exact ⟨a, ha, Decision.bind_eq_error_iff.2 (.inl he)⟩
  · obtain ⟨b, hb, he⟩ := exists_of_mapM_eq_error hsecond
    obtain ⟨a, ha, hab⟩ := exists_of_mem_mapM hbs hb
    exact ⟨a, ha, Decision.bind_eq_error_iff.2 (.inr ⟨b, hab, he⟩)⟩

end Passes

/-! ### Members with their positions -/

variable {g : α × Nat → Except ε β}

/-- Going through a list with the positions of its members succeeds with one result for each. -/
theorem mapM_zipIdx_eq_ok_iff {bs : List β} :
    l.zipIdx.mapM g = .ok bs ↔
      bs.length = l.length ∧ ∀ (i : Nat) (a : α), l[i]? = some a →
        ∃ b, bs[i]? = some b ∧ g (a, i) = .ok b := by
  rw [mapM_eq_ok_iff, List.forall₂_iff_get]
  constructor
  · rintro ⟨hlength, h⟩
    rw [List.length_zipIdx] at hlength
    refine ⟨hlength.symm, fun i a ha => ?_⟩
    obtain ⟨hi, rfl⟩ := List.getElem?_eq_some_iff.1 ha
    have hb := h i (by simpa using hi) (by omega)
    exact ⟨bs[i], List.getElem?_eq_getElem _, by simpa using hb⟩
  · rintro ⟨hlength, h⟩
    refine ⟨by rw [List.length_zipIdx, hlength], fun i hi hi' => ?_⟩
    rw [List.length_zipIdx] at hi
    obtain ⟨b, hb, hg⟩ := h i l[i] (List.getElem?_eq_getElem hi)
    obtain ⟨hlt, rfl⟩ := List.getElem?_eq_some_iff.1 hb
    simpa using hg

/-- Going through a list with the positions of its members fails with the first error. -/
theorem mapM_zipIdx_eq_error_iff {e : ε} :
    l.zipIdx.mapM g = .error e ↔
      ∃ (i : Nat) (a : α), l[i]? = some a ∧ g (a, i) = .error e ∧
        ∀ (j : Nat) (b : α), j < i → l[j]? = some b → ∃ c, g (b, j) = .ok c := by
  have hmember (i : Nat) (member : α × Nat) :
      l.zipIdx[i]? = some member ↔ l[i]? = some member.1 ∧ i = member.2 := by
    obtain ⟨a, k⟩ := member
    simp [List.getElem?_zipIdx]
  rw [mapM_eq_error_iff]
  constructor
  · rintro ⟨i, ⟨a, k⟩, hi, ha, hbefore⟩
    obtain ⟨hi, rfl⟩ := (hmember i (a, k)).1 hi
    exact ⟨i, a, hi, ha, fun j b hj hb => hbefore j (b, j) hj ((hmember j (b, j)).2 ⟨hb, rfl⟩)⟩
  · rintro ⟨i, a, hi, ha, hbefore⟩
    refine ⟨i, (a, i), (hmember i (a, i)).2 ⟨hi, rfl⟩, ha, fun j member hj hb => ?_⟩
    obtain ⟨hb, hposition⟩ := (hmember j member).1 hb
    obtain ⟨c, hc⟩ := hbefore j member.1 hj hb
    exact ⟨c, by rw [← hc, hposition]⟩

end Except

end AccessPolicy
