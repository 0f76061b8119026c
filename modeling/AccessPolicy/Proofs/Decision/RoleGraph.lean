import AccessPolicy.Proofs.Decision.Recursion
import Mathlib.Logic.Relation

/-!
# What roles inherit

Expanding roles finds what can be reached along inheritance, in any number of steps, and nothing
else (`RoleGraph.mem_expandAll`). The search adds to the roles that it has seen; what it adds is
reachable from the roles that it was given, and closed under inheritance but for the roles that
it had seen before (`RoleGraph.Expands`).
-/

namespace AccessPolicy.RoleGraph

variable {roles : Entries String Role} {seen ids found : List String}

/-- A role inherits another one directly. Unknown roles inherit none. -/
def Inherits (roles : Entries String Role) (id parent : String) : Prop :=
  parent ∈ parents roles id

/-- What a search from some roles makes of the roles that were seen before. -/
structure Expands (roles : Entries String Role) (seen ids found : List String) : Prop where
  /-- What was seen stays. -/
  seen_subset : seen ⊆ found
  /-- The roles are found themselves. -/
  ids_subset : ids ⊆ found
  /-- What is new comes with all that it inherits. -/
  closed : ∀ x ∈ found, x ∈ seen ∨ ∀ parent, Inherits roles x parent → parent ∈ found
  /-- What is new can be reached. -/
  reachable : ∀ x ∈ found, x ∈ seen ∨ ∃ id ∈ ids, Relation.ReflTransGen (Inherits roles) id x

/-- A search from no roles leaves everything as it is. -/
theorem expands_nil : Expands roles seen [] seen :=
  ⟨List.Subset.refl seen, List.nil_subset seen, fun _ h => .inl h, fun _ h => .inl h⟩

/-- A role that was seen before may be left out. -/
theorem Expands.cons_of_mem {id : String} (h : Expands roles seen ids found) (hid : id ∈ seen) :
    Expands roles seen (id :: ids) found where
  seen_subset := h.seen_subset
  ids_subset := List.cons_subset.2 ⟨h.seen_subset hid, h.ids_subset⟩
  closed := h.closed
  reachable x hx := (h.reachable x hx).imp_right fun ⟨root, hroot, hpath⟩ =>
    ⟨root, List.mem_cons_of_mem id hroot, hpath⟩

/-- A new role is followed by a search from what it inherits, and by one from the other roles. -/
theorem Expands.cons {id : String} {above : List String}
    (habove : Expands roles (id :: seen) (parents roles id) above)
    (h : Expands roles above ids found) : Expands roles seen (id :: ids) found where
  seen_subset := fun _ hx => h.seen_subset (habove.seen_subset (List.mem_cons_of_mem id hx))
  ids_subset :=
    List.cons_subset.2 ⟨h.seen_subset (habove.seen_subset List.mem_cons_self), h.ids_subset⟩
  closed x hx := by
    rcases h.closed x hx with hx | hclosed
    · rcases habove.closed x hx with hx | hclosed
      · rcases List.mem_cons.1 hx with rfl | hx
        -- The parents of the new role are what the first search starts from.
        · exact .inr fun parent hparent => h.seen_subset (habove.ids_subset hparent)
        · exact .inl hx
      · exact .inr fun parent hparent => h.seen_subset (hclosed parent hparent)
    · exact .inr hclosed
  reachable x hx := by
    rcases h.reachable x hx with hx | ⟨root, hroot, hpath⟩
    -- What the first search found is reached through a parent of the new role.
    · rcases habove.reachable x hx with hx | ⟨parent, hparent, hpath⟩
      · rcases List.mem_cons.1 hx with rfl | hx
        · exact .inr ⟨x, List.mem_cons_self, .refl⟩
        · exact .inl hx
      · exact .inr ⟨id, List.mem_cons_self, .head hparent hpath⟩
    · exact .inr ⟨root, List.mem_cons_of_mem id hroot, hpath⟩

/-- Every search that succeeds is of this kind. -/
theorem expands_visit (graph : RoleGraph) (depth : Nat) (seen ids : List String)
    {found : List String} (h : graph.visit depth seen ids = .ok found) :
    Expands graph.roles seen ids found := by
  fun_induction visit graph depth seen ids generalizing found with
  | case1 depth seen =>
    cases h
    exact expands_nil
  | case2 => cases h
  | case3 depth seen id rest _ hid ih => exact (ih h).cons_of_mem hid
  | case4 => cases h
  | case5 depth seen id rest _ _ above habove ihabove ih => exact (ihabove habove).cons (ih h)

variable {graph : RoleGraph}

/-- Roles expand to what a search from them sees, the oldest first. -/
theorem expandAll_eq_ok_iff :
    graph.expandAll ids = .ok found ↔ ∃ seen, graph.visit 0 [] ids = .ok seen ∧
      found = seen.reverse := by
  rw [expandAll_eq_visit]
  cases graph.visit 0 [] ids with
  | error e => simp [Except.map]
  | ok seen => simp [Except.map, eq_comm]

/-- Roles expand unless the search from them fails. -/
theorem expandAll_eq_error_iff {e : PolicyError} :
    graph.expandAll ids = .error e ↔ graph.visit 0 [] ids = .error e := by
  rw [expandAll_eq_visit]
  cases graph.visit 0 [] ids <;> simp [Except.map]

/-- Roles expand to what can be reached from them along inheritance. -/
theorem mem_expandAll (h : graph.expandAll ids = .ok found) {x : String} :
    x ∈ found ↔ ∃ id ∈ ids, Relation.ReflTransGen (Inherits graph.roles) id x := by
  obtain ⟨seen, hvisit, rfl⟩ := expandAll_eq_ok_iff.1 h
  have hexpands := expands_visit graph 0 [] ids hvisit
  rw [List.mem_reverse]
  constructor
  · exact fun hx => (hexpands.reachable x hx).resolve_left List.not_mem_nil
  · rintro ⟨id, hid, hpath⟩
    -- Nothing was seen before, so what was found is closed under inheritance.
    induction hpath with
    | refl => exact hexpands.ids_subset hid
    | tail _ hparent ih =>
      exact (hexpands.closed _ ih).resolve_left List.not_mem_nil _ hparent

end AccessPolicy.RoleGraph
