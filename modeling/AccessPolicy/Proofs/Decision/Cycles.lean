import AccessPolicy.Proofs.Decision.RoleGraph
import AccessPolicy.Proofs.Policy.Source
import Mathlib.Data.List.Chain
import Mathlib.Order.WellFounded

/-!
# Roles that inherit themselves

The roles of a list make up a graph unless they inherit in a cycle, and then the error shows one
(`RoleGraph.ofList_circular_iff`). What roles inherit is stated in terms of the list alone
(`RoleGraph.Extends`, `RoleGraph.ExtendsKnown`), where the last definition of a name counts.

The search for a cycle follows a trail of known roles, each of which inherits the next one. A
role that stands on the trail already closes a cycle (`RoleGraph.isCycle_cycleTo`). A role is done
when all the known roles that it inherits are done, so descending from a done role comes to an
end (`RoleGraph.acc_of_findCycle`), which it would not on a cycle.
-/

namespace AccessPolicy

namespace RoleGraph

/-! ### What a list of roles inherits -/

section Lists

variable (roles : List Role)

/-- The names that the role of a name inherits, where the last role given under it counts. A name
without a role inherits none. -/
def inheritsOf (id : String) : List String :=
  ((roles.findRev? fun role => role.id = id).map (·.inherits)).getD []

/-- The role of a name inherits another name, which may be that of a role or not. -/
def Extends (id parent : String) : Prop :=
  parent ∈ inheritsOf roles id

/-- The role of a name inherits a role of the list. -/
def ExtendsKnown (id parent : String) : Prop :=
  Extends roles id parent ∧ ∃ role ∈ roles, role.id = parent

/-- No role inherits itself, in any number of steps. -/
def Acyclic : Prop :=
  ∀ id, ¬ Relation.TransGen (ExtendsKnown roles) id id

/-- A map of the roles finds the last one of each name. -/
theorem get?_ofList_roles (id : String) :
    Entries.get? id (Entries.ofList (roles.map fun role => (role.id, role))) =
      roles.findRev? fun role => role.id = id := by
  rw [← Directory.entries_ofList, ← Directory.find?_eq_get?_entries, Directory.find?_ofList]

theorem parents_ofList :
    parents (Entries.ofList (roles.map fun role => (role.id, role))) = inheritsOf roles := by
  funext id
  rw [parents, get?_ofList_roles, inheritsOf]
  cases roles.findRev? fun role => role.id = id <;> rfl

theorem inherits_ofList :
    Inherits (Entries.ofList (roles.map fun role => (role.id, role))) = Extends roles := by
  funext id parent
  rw [Inherits, parents_ofList, Extends]

/-- The known names are those of the roles. -/
theorem mem_keys_ofList {id : String} :
    id ∈ Entries.keys (Entries.ofList (roles.map fun role => (role.id, role))) ↔
      ∃ role ∈ roles, role.id = id := by
  rw [Entries.mem_keys_iff, get?_ofList_roles, List.findRev?_eq_find?_reverse,
    ← Option.isSome_iff_exists, List.find?_isSome]
  simp

end Lists

/-! ### Cycles -/

section Cycle

variable {r : String → String → Prop} {path : List String} {id : String}

/-- A path along a relation that comes back to where it began, and meets no name twice before. -/
structure IsCycle (r : String → String → Prop) (cycle : List String) : Prop where
  /-- The path takes a step at least. -/
  one_lt_length : 1 < cycle.length
  /-- It ends where it began. -/
  closed : cycle.head? = cycle.getLast?
  /-- Its names differ but for the last one. -/
  nodup : cycle.dropLast.Nodup
  /-- Each of its steps is one of the relation. -/
  chain : cycle.IsChain r

/-- Along a cycle its first name leads back to itself. -/
theorem IsCycle.transGen {cycle : List String} (h : IsCycle r cycle) :
    ∃ id, Relation.TransGen r id id := by
  obtain ⟨hlength, hclosed, -, hchain⟩ := h
  match cycle, hlength with
  | first :: next :: rest, _ =>
    obtain ⟨hstep, hrest⟩ := List.isChain_cons_cons.1 hchain
    have hlast : (next :: rest).getLast (List.cons_ne_nil next rest) = first := by
      rw [List.head?_cons, List.getLast?_cons_cons,
        List.getLast?_eq_some_getLast (List.cons_ne_nil next rest)] at hclosed
      exact (Option.some.inj hclosed).symm
    exact ⟨first, Relation.TransGen.head' hstep
      (List.relationReflTransGen_of_exists_isChain_cons rest hrest hlast)⟩

/-- A trail leads from its last name to its first one. If that leads on to a name of the trail,
the part of the trail from this name on is a cycle. -/
theorem isCycle_cycleTo (htrail : path.IsChain fun a b => r b a) (hnodup : path.Nodup)
    (hid : id ∈ path) (hlast : ∀ last ∈ path.head?, r last id) : IsCycle r (cycleTo id path) := by
  -- The trail in front of the name, the newest name first, is what the cycle goes through.
  obtain ⟨front, back, rfl, hfront⟩ := List.eq_append_cons_of_mem hid
  have htake : (front ++ id :: back).takeWhile (· ≠ id) = front := by
    rw [List.takeWhile_append_of_pos fun a ha => by simpa using ne_of_mem_of_not_mem ha hfront]
    simp
  have hcycle : cycleTo id (front ++ id :: back) = (front ++ [id]).reverse ++ [id] := by
    rw [cycleTo, htake, List.reverse_append]
    rfl
  have hsplit : front ++ id :: back = front ++ [id] ++ back := List.append_cons front id back
  have hhead : (front ++ [id]).head? = (front ++ id :: back).head? := by
    cases front <;> rfl
  rw [hcycle]
  refine ⟨by simp, ?_, ?_, ?_⟩
  · rw [List.getLast?_concat, List.reverse_append]
    rfl
  · rw [List.dropLast_concat]
    exact (List.reverse_perm _).nodup_iff.2 (List.nodup_append.1 (hsplit ▸ hnodup)).1
  · have hback : (front ++ [id]).reverse.IsChain r :=
      List.isChain_reverse.2 (List.IsChain.left_of_append (hsplit ▸ htrail))
    refine hback.append (List.isChain_singleton id) fun last hlast' next hnext => ?_
    rw [List.getLast?_reverse, hhead] at hlast'
    rw [← Option.some.inj hnext]
    exact hlast last hlast'

end Cycle

/-! ### The search for a cycle -/

section Search

variable {roles : Entries String Role} {path done ids : List String}

/-- A step of the search: from a role to a known role that it inherits. -/
def InheritsKnown (roles : Entries String Role) (id parent : String) : Prop :=
  Inherits roles id parent ∧ parent ∈ Entries.keys roles

/-- A way of the search: it leads through known roles to the one that inherits the roles that are
looked at next. -/
structure Trail (roles : Entries String Role) (path ids : List String) : Prop where
  /-- Each role of the trail inherits the one in front of it. -/
  chain : path.IsChain fun parent id => InheritsKnown roles id parent
  /-- No role is met twice. -/
  nodup : path.Nodup
  /-- The roles of the trail are known. -/
  known : ∀ id ∈ path, id ∈ Entries.keys roles
  /-- The first role of the trail inherits what is looked at next. -/
  heads : ∀ last ∈ path.head?, ∀ id ∈ ids, Inherits roles last id

/-- The search begins with any roles and no trail. -/
theorem trail_nil (ids : List String) : Trail roles [] ids :=
  ⟨List.isChain_nil, List.nodup_nil, by simp, by simp⟩

theorem Trail.tail {id : String} (h : Trail roles path (id :: ids)) : Trail roles path ids where
  chain := h.chain
  nodup := h.nodup
  known := h.known
  heads last hlast id hid := h.heads last hlast id (List.mem_cons_of_mem _ hid)

/-- A known role that is not on the trail yet prolongs it. -/
theorem Trail.descend {id : String} (h : Trail roles path (id :: ids)) (hfresh : id ∉ path)
    (hknown : id ∈ Entries.keys roles) : Trail roles (id :: path) (parents roles id) where
  chain := h.chain.cons fun last hlast => ⟨h.heads last hlast id List.mem_cons_self, hknown⟩
  nodup := List.nodup_cons.2 ⟨hfresh, h.nodup⟩
  known := List.forall_mem_cons.2 ⟨hknown, h.known⟩
  heads last hlast id hid := by
    rw [← Option.some.inj hlast]
    exact hid

/-- What the search reports is a cycle. -/
theorem isCycle_of_findCycle (h : Trail roles path ids) {cycle : List String}
    (hcycle : findCycle roles path done ids = .error cycle) :
    IsCycle (InheritsKnown roles) cycle := by
  fun_induction findCycle roles path done ids generalizing cycle with
  | case1 => cases hcycle
  | case2 path done id rest _ ih => exact ih h.tail hcycle
  | case3 path done id rest _ hid =>
    rw [← Except.error.inj hcycle]
    exact isCycle_cycleTo h.chain h.nodup hid fun last hlast =>
      ⟨h.heads last hlast id List.mem_cons_self, h.known id hid⟩
  | case4 path done id rest _ hfresh hknown found hfound ih =>
    rw [← Except.error.inj hcycle]
    exact ih (h.descend hfresh hknown) hfound
  | case5 path done id rest _ hfresh hknown done' hdone' _ ih => exact ih h.tail hcycle
  | case6 path done id rest _ _ _ ih => exact ih h.tail hcycle

/-- An unknown role inherits nothing. -/
theorem known_of_inherits {id parent : String} (h : Inherits roles id parent) :
    id ∈ Entries.keys roles := by
  by_contra hunknown
  rw [Inherits, parents_of_not_mem_keys hunknown] at h
  exact List.not_mem_nil h

/-- Nothing can be reached from an unknown role. -/
theorem acc_of_unknown {id : String} (hid : id ∉ Entries.keys roles) :
    Acc (fun parent id => Inherits roles id parent) id :=
  ⟨id, fun _ hparent => absurd (known_of_inherits hparent) hid⟩

/-- If descending from the done roles comes to an end, the search that reports no cycle keeps it
so, keeps the done roles, and adds the roles that it looked at. -/
theorem acc_of_findCycle {found : List String} (h : findCycle roles path done ids = .ok found)
    (hdone : ∀ id ∈ done, Acc (fun parent id => Inherits roles id parent) id) :
    done ⊆ found ∧ (∀ id ∈ ids, id ∈ Entries.keys roles → id ∈ found) ∧
      ∀ id ∈ found, Acc (fun parent id => Inherits roles id parent) id := by
  fun_induction findCycle roles path done ids generalizing found with
  | case1 path done =>
    cases h
    exact ⟨List.Subset.refl done, by simp, hdone⟩
  | case2 path done id rest hid ih =>
    obtain ⟨hsubset, hrest, hacc⟩ := ih h hdone
    exact ⟨hsubset, List.forall_mem_cons.2 ⟨fun _ => hsubset hid, hrest⟩, hacc⟩
  | case3 => cases h
  | case4 => cases h
  | case5 path done id rest _ _ _ above habove ihabove ih =>
    obtain ⟨hdone', hparents, hacc'⟩ := ihabove habove hdone
    -- What the role inherits is done now, or unknown.
    have hid : Acc (fun parent id => Inherits roles id parent) id := by
      refine ⟨id, fun parent hparent => ?_⟩
      by_cases hknown : parent ∈ Entries.keys roles
      · exact hacc' parent (hparents parent hparent hknown)
      · exact acc_of_unknown hknown
    obtain ⟨hsubset, hrest, hacc⟩ := ih h (List.forall_mem_cons.2 ⟨hid, hacc'⟩)
    refine ⟨fun x hx => hsubset (List.mem_cons_of_mem id (hdone' hx)), ?_, hacc⟩
    exact List.forall_mem_cons.2 ⟨fun _ => hsubset List.mem_cons_self, hrest⟩
  | case6 path done id rest _ _ hunknown ih =>
    obtain ⟨hsubset, hrest, hacc⟩ := ih h hdone
    exact ⟨hsubset, List.forall_mem_cons.2 ⟨fun hknown => absurd hknown hunknown, hrest⟩, hacc⟩

end Search

/-! ### Graphs of lists of roles -/

variable {roles : List Role} {maxDepth : Nat} {graph : RoleGraph}

/-- A graph holds the roles of its list. -/
theorem eq_of_ofList (h : ofList roles maxDepth = .ok graph) :
    graph = ⟨Entries.ofList (roles.map fun role => (role.id, role)), maxDepth⟩ :=
  eq_of_ofRoles h

theorem maxDepth_of_ofList (h : ofList roles maxDepth = .ok graph) :
    graph.maxDepth = maxDepth := by
  rw [eq_of_ofList h]

theorem parents_of_ofList (h : ofList roles maxDepth = .ok graph) :
    parents graph.roles = inheritsOf roles := by
  rw [eq_of_ofList h, parents_ofList]

theorem inherits_of_ofList (h : ofList roles maxDepth = .ok graph) :
    Inherits graph.roles = Extends roles := by
  rw [eq_of_ofList h, inherits_ofList]

/-- Descending from a role of a graph comes to an end. -/
theorem wellFounded_of_ofList (h : ofList roles maxDepth = .ok graph) :
    WellFounded fun parent id => Extends roles id parent := by
  rw [ofList, ofRoles_eq_findCycle] at h
  split at h
  next done hdone =>
    obtain ⟨-, hknown, hacc⟩ := acc_of_findCycle hdone (by simp)
    rw [← inherits_ofList]
    refine ⟨fun id => ?_⟩
    by_cases hid : id ∈ Entries.keys (Entries.ofList (roles.map fun role => (role.id, role)))
    · exact hacc id (hknown id hid hid)
    · exact acc_of_unknown hid
  next => cases h

/-- Where descending from roles comes to an end, nothing leads back to where it began. -/
theorem not_transGen_of_wellFounded (h : WellFounded fun parent id => Extends roles id parent)
    (id : String) : ¬ Relation.TransGen (Extends roles) id id :=
  fun hcycle => h.transGen.irrefl.irrefl id (Relation.transGen_swap.2 hcycle)

/-- Roles that make up no graph inherit in a cycle, which the error shows. -/
theorem exists_isCycle_of_error {e : PolicyError} (h : ofList roles maxDepth = .error e) :
    ∃ cycle, e = .circularInheritance cycle ∧ IsCycle (ExtendsKnown roles) cycle := by
  rw [ofList, ofRoles_eq_findCycle] at h
  split at h
  next => cases h
  next cycle hcycle =>
    have hsteps : InheritsKnown (Entries.ofList (roles.map fun role => (role.id, role))) =
        ExtendsKnown roles := by
      funext id parent
      rw [InheritsKnown, inherits_ofList, mem_keys_ofList, ExtendsKnown]
    rw [← hsteps]
    exact ⟨cycle, (Except.error.inj h).symm, isCycle_of_findCycle (trail_nil _) hcycle⟩

/-- Roles make up a graph if none of them inherits itself. -/
theorem exists_ofList (h : Acyclic roles) (maxDepth : Nat) :
    ∃ graph, ofList roles maxDepth = .ok graph := by
  cases hgraph : ofList roles maxDepth with
  | ok graph => exact ⟨graph, rfl⟩
  | error e =>
    obtain ⟨cycle, -, hcycle⟩ := exists_isCycle_of_error hgraph
    obtain ⟨id, hid⟩ := hcycle.transGen
    exact absurd hid (h id)

/-- The roles of a graph do not inherit themselves. -/
theorem acyclic_of_ofList (h : ofList roles maxDepth = .ok graph) : Acyclic roles := by
  intro id hcycle
  have hsteps : ExtendsKnown roles ≤ Extends roles := fun _ _ hstep => hstep.1
  exact not_transGen_of_wellFounded (wellFounded_of_ofList h) id
    (Relation.TransGen.mono hsteps id id hcycle)

/-- Among roles that do not inherit themselves, descending from a role comes to an end. -/
theorem Acyclic.wellFounded (h : Acyclic roles) :
    WellFounded fun parent id => Extends roles id parent := by
  obtain ⟨graph, hgraph⟩ := exists_ofList h 0
  exact wellFounded_of_ofList hgraph

/-- Unknown names do not lead back either. -/
theorem Acyclic.not_transGen (h : Acyclic roles) (id : String) :
    ¬ Relation.TransGen (Extends roles) id id :=
  not_transGen_of_wellFounded h.wellFounded id

/-- For every list of roles there is a graph, or an error that shows a cycle. It is an error
exactly if some role inherits itself along known roles, and then the error shows a path along
which a role does, and which meets no other role twice. -/
theorem ofList_circular_iff (roles : List Role) (maxDepth : Nat) :
    ((∃ graph, ofList roles maxDepth = .ok graph) ∨
        ∃ cycle, ofList roles maxDepth = .error (.circularInheritance cycle)) ∧
      ((∃ cycle, ofList roles maxDepth = .error (.circularInheritance cycle)) ↔
        ∃ id, Relation.TransGen (ExtendsKnown roles) id id) ∧
      ∀ cycle, ofList roles maxDepth = .error (.circularInheritance cycle) →
        IsCycle (ExtendsKnown roles) cycle ∧
          PolicyError.message (.circularInheritance cycle) =
            "Circular role inheritance: " ++ " -> ".intercalate cycle := by
  have hcycle (cycle : List String)
      (h : ofList roles maxDepth = .error (.circularInheritance cycle)) :
      IsCycle (ExtendsKnown roles) cycle := by
    obtain ⟨_, hsame, hcycle⟩ := exists_isCycle_of_error h
    rwa [PolicyError.circularInheritance.inj hsame]
  refine ⟨?_, ⟨?_, ?_⟩, fun cycle h => ⟨hcycle cycle h, rfl⟩⟩
  · cases h : ofList roles maxDepth with
    | ok graph => exact .inl ⟨graph, rfl⟩
    | error e =>
      obtain ⟨cycle, rfl, -⟩ := exists_isCycle_of_error h
      exact .inr ⟨cycle, rfl⟩
  · rintro ⟨cycle, h⟩
    exact (hcycle cycle h).transGen
  · rintro ⟨id, hid⟩
    cases h : ofList roles maxDepth with
    | ok graph => exact absurd hid (acyclic_of_ofList h id)
    | error e =>
      obtain ⟨cycle, rfl, -⟩ := exists_isCycle_of_error h
      exact ⟨cycle, rfl⟩

/-- A cycle that the first role of the list only leads to, and that the later definition of a name
closes. -/
theorem ofList_circular_redefined :
    let roles : List Role :=
      [{ id := "x", label := "", inherits := ["a"] },
        { id := "a", label := "" },
        { id := "b", label := "", inherits := ["c", "c"] },
        { id := "c", label := "", inherits := ["missing", "a"] },
        { id := "a", label := "", inherits := ["b"] }]
    ofList roles 32 = .error (.circularInheritance ["a", "b", "c", "a"]) ∧
      IsCycle (ExtendsKnown roles) ["a", "b", "c", "a"] := by
  intro roles
  have hkeys : Entries.keys (Entries.ofList (roles.map fun role => (role.id, role))) =
      ["x", "a", "b", "c"] := rfl
  have hx : parents (Entries.ofList (roles.map fun role => (role.id, role))) "x" = ["a"] := rfl
  have ha : parents (Entries.ofList (roles.map fun role => (role.id, role))) "a" = ["b"] := rfl
  have hb : parents (Entries.ofList (roles.map fun role => (role.id, role))) "b" = ["c", "c"] := rfl
  have hc : parents (Entries.ofList (roles.map fun role => (role.id, role))) "c" =
    ["missing", "a"] := rfl
  have herror : ofList roles 32 = .error (.circularInheritance ["a", "b", "c", "a"]) := by
    rw [ofList, ofRoles_eq_findCycle, hkeys]
    simp [findCycle, cycleTo, hkeys, hx, ha, hb, hc]
  exact ⟨herror, ((ofList_circular_iff roles 32).2.2 _ herror).1⟩

end RoleGraph

end AccessPolicy
