import AccessPolicy.Decision.RoleGraph

/-!
# Searches without a stack

A stack holds what is left to do after the role on top of it. Without it the searches are
recursions over what a role inherits: `RoleGraph.findCycle` for cycles and `RoleGraph.visit` for
expansions. A search with a stack does what the recursion does for the top of the stack, and goes
on with the rest of it (`RoleGraph.search_cons`, `RoleGraph.expandInto_append`). So the recursions
say what makes up a graph (`RoleGraph.ofRoles_eq_findCycle`) and what roles expand to
(`RoleGraph.expandAll_eq_visit`).
-/

namespace AccessPolicy.RoleGraph

/-! ### Cycles -/

/-- Looks for a cycle below the given roles, where `path` leads back to the first role and the
roles `done` lie on no cycle. The result adds the roles that were found to lie on none. -/
def findCycle (roles : Entries String Role) (path done : List String) :
    List String → Except (List String) (List String)
  | [] => .ok done
  | id :: rest =>
    if id ∈ done then findCycle roles path done rest
    -- The path leads from this mention of the role back to it.
    else if _fresh : id ∈ path then .error (cycleTo id path)
    else if _known : id ∈ Entries.keys roles then
      match findCycle roles (id :: path) done (parents roles id) with
      | .error cycle => .error cycle
      -- All that the role inherits was looked at, so it lies on no cycle.
      | .ok done => findCycle roles path (id :: done) rest
    -- An unknown role inherits nothing.
    else findCycle roles path done rest
termination_by ids => ((unseen roles path).length, ids.length)
decreasing_by
  · exact Prod.Lex.right _ (by simp)
  · exact Prod.Lex.left _ _ (length_unseen_cons_lt _known _fresh)
  · exact Prod.Lex.right _ (by simp)
  · exact Prod.Lex.right _ (by simp)

section Marked

variable {roles : Entries String Role} {marks : Entries String Mark} {path done : List String}

/-- The marks of a search that came along a path, when some roles are done. -/
def Marked (roles : Entries String Role) (marks : Entries String Mark)
    (path done : List String) : Prop :=
  ∀ id, Entries.get? id marks =
    if id ∈ done then some .black
    else if id ∈ path then some .gray
    else if id ∈ Entries.keys roles then some .white
    else none

/-- At first every role is new. -/
theorem marked_start (roles : Entries String Role) :
    Marked roles (roles.map fun entry => (entry.1, .white)) [] [] := by
  intro id
  simp only [List.not_mem_nil, if_false]
  induction roles with
  | nil => rfl
  | cons entry roles ih =>
    have hkeys : Entries.keys (entry :: roles) = entry.1 :: Entries.keys roles := rfl
    rw [List.map_cons, Entries.get?, ih, hkeys]
    by_cases hid : entry.1 = id
    · simp [hid]
    · simp [hid, Ne.symm hid]

/-- A role that is not done prolongs the path. -/
theorem Marked.descend {id : String} (h : Marked roles marks path done) (hid : id ∉ done) :
    Marked roles (Entries.insert id .gray marks) (id :: path) done := by
  intro x
  by_cases hx : x = id
  · subst hx
    simp [Entries.get?_insert_self, hid]
  · rw [Entries.get?_insert_of_ne hx, h x]
    simp [hx]

/-- The end of the path is done. -/
theorem Marked.ascend {id : String} (h : Marked roles marks (id :: path) done) :
    Marked roles (Entries.insert id .black marks) path (id :: done) := by
  intro x
  by_cases hx : x = id
  · subst hx
    simp [Entries.get?_insert_self]
  · rw [Entries.get?_insert_of_ne hx, h x]
    simp [hx]

end Marked

section Search

variable {roles : Entries String Role} {marks : Entries String Mark} {done : List String}
  {id parent : String} {next : Nat} {stack : List (String × Nat)}

/-- A search leaves a role when it has looked at all that the role inherits. -/
theorem search_cons_of_none (hnone : (parents roles id)[next]? = none) :
    search roles marks ((id, next) :: stack) =
      search roles (Entries.insert id .black marks) stack := by
  rw [search]
  split
  next => rfl
  next parent hparent => rw [hnone] at hparent; cases hparent

/-- A search looks at the next role that is inherited. -/
theorem search_cons_of_some (hparent : (parents roles id)[next]? = some parent) :
    search roles marks ((id, next) :: stack) =
      match Entries.get? parent marks with
      | some .gray => .error (cycleTo parent (id :: stack.map (·.1)))
      | some .white =>
        search roles (Entries.insert parent .gray marks) ((parent, 0) :: (id, next + 1) :: stack)
      | _ => search roles marks ((id, next + 1) :: stack) := by
  rw [search]
  split
  next hnone => rw [hparent] at hnone; cases hnone
  next other hother =>
    obtain rfl : parent = other := Option.some.inj (hparent.symm.trans hother)
    split
    next hmark => rw [hmark]
    next hmark => rw [hmark]
    next hgray hwhite =>
      split
      next hmark => exact absurd hmark hgray
      next hmark => exact absurd hmark hwhite
      next => rfl

/-- What stands at the front of the names that were not looked at. -/
theorem getElem?_of_drop_eq_cons {ids rest : List String} (h : ids.drop next = parent :: rest) :
    ids[next]? = some parent ∧ ids.drop (next + 1) = rest := by
  rw [← List.head?_drop, ← List.tail_drop, h]
  exact ⟨rfl, rfl⟩

/-- A search with a stack finds the cycle that the recursion finds below the top of the stack. If
there is none, the search goes on with the rest of the stack, where the top is done. -/
theorem search_cons (hmarked : Marked roles marks (id :: stack.map (·.1)) done) :
    match findCycle roles (id :: stack.map (·.1)) done ((parents roles id).drop next) with
    | .error cycle => search roles marks ((id, next) :: stack) = .error cycle
    | .ok found => ∃ marks', Marked roles marks' (stack.map (·.1)) (id :: found) ∧
        search roles marks ((id, next) :: stack) = search roles marks' stack := by
  generalize hpath : id :: stack.map (·.1) = path at hmarked ⊢
  generalize hids : (parents roles id).drop next = ids
  -- The mark of the next role says which branch the recursion takes.
  fun_induction findCycle roles path done ids generalizing marks id next stack with
  | case1 path done =>
    subst hpath
    have hnone : (parents roles id)[next]? = none :=
      List.getElem?_eq_none (List.drop_eq_nil_iff.1 hids)
    exact ⟨_, hmarked.ascend, search_cons_of_none hnone⟩
  | case2 path done parent rest hdone ih =>
    obtain ⟨hparent, hrest⟩ := getElem?_of_drop_eq_cons hids
    rw [search_cons_of_some hparent, hmarked parent, if_pos hdone]
    exact ih hpath hmarked hrest
  | case3 path done parent rest hdone hcycle =>
    obtain ⟨hparent, -⟩ := getElem?_of_drop_eq_cons hids
    rw [search_cons_of_some hparent, hmarked parent, if_neg hdone, if_pos hcycle, hpath]
  | case4 path done parent rest hdone hfresh hknown cycle hcycle ih =>
    obtain ⟨hparent, -⟩ := getElem?_of_drop_eq_cons hids
    rw [search_cons_of_some hparent, hmarked parent, if_neg hdone, if_neg hfresh, if_pos hknown]
    -- The search descends from the role, which is on top of the stack now.
    have hbelow := @ih _ parent 0 ((id, next + 1) :: stack) (congrArg (parent :: ·) hpath)
      (hmarked.descend hdone) List.drop_zero
    rwa [hcycle] at hbelow
  | case5 path done parent rest hdone hfresh hknown found hfound ihparent ih =>
    obtain ⟨hparent, hrest⟩ := getElem?_of_drop_eq_cons hids
    rw [search_cons_of_some hparent, hmarked parent, if_neg hdone, if_neg hfresh, if_pos hknown]
    have hbelow := @ihparent _ parent 0 ((id, next + 1) :: stack) (congrArg (parent :: ·) hpath)
      (hmarked.descend hdone) List.drop_zero
    rw [hfound] at hbelow
    -- When it comes back, the role is black, and its successor is the next to be looked at.
    obtain ⟨marks', hmarked', hsearch⟩ := hbelow
    simp only [hsearch]
    exact ih hpath (hpath ▸ hmarked') hrest
  | case6 path done parent rest hdone hfresh hunknown ih =>
    obtain ⟨hparent, hrest⟩ := getElem?_of_drop_eq_cons hids
    rw [search_cons_of_some hparent, hmarked parent, if_neg hdone, if_neg hfresh,
      if_neg hunknown]
    exact ih hpath hmarked hrest

/-- The searches from some roles find the cycle that the recursion finds below them. -/
theorem foldlM_searchFrom (hmarked : Marked roles marks [] done) (ids : List String) :
    match findCycle roles [] done ids with
    | .error cycle => ids.foldlM (searchFrom roles) marks = .error cycle
    | .ok found => ∃ marks', Marked roles marks' [] found ∧
        ids.foldlM (searchFrom roles) marks = .ok marks' := by
  induction ids generalizing marks done with
  | nil =>
    rw [findCycle]
    exact ⟨marks, hmarked, rfl⟩
  | cons id ids ih =>
    rw [findCycle, List.foldlM_cons, searchFrom, hmarked id]
    by_cases hdone : id ∈ done
    · rw [if_pos hdone, if_pos hdone, if_neg (by simp)]
      exact ih hmarked
    rw [if_neg hdone, if_neg hdone, dif_neg List.not_mem_nil, if_neg List.not_mem_nil]
    by_cases hknown : id ∈ Entries.keys roles
    · rw [dif_pos hknown, if_pos hknown, if_pos rfl]
      -- One role is on the stack, and the search from it ends with an empty stack.
      have hbelow := @search_cons roles _ done id 0 [] (hmarked.descend hdone)
      rw [List.map_nil, List.drop_zero] at hbelow
      cases hfound : findCycle roles [id] done (parents roles id) with
      | error cycle =>
        rw [hfound] at hbelow
        simp only [hbelow]
        rfl
      | ok found =>
        rw [hfound] at hbelow
        obtain ⟨marks', hmarked', hsearch⟩ := hbelow
        rw [hsearch, search]
        exact ih hmarked'
    · rw [dif_neg hknown, if_neg hknown, if_neg (by simp)]
      exact ih hmarked

end Search

/-- A graph holds the roles that it was made of. -/
theorem eq_of_ofRoles {roles : Entries String Role} {maxDepth : Nat} {graph : RoleGraph}
    (h : ofRoles roles maxDepth = .ok graph) : graph = ⟨roles, maxDepth⟩ := by
  rw [ofRoles] at h
  split at h
  next => exact (Except.ok.inj h).symm
  next => cases h

/-- Roles make up a graph unless the recursion finds a cycle below them. -/
theorem ofRoles_eq_findCycle (roles : Entries String Role) (maxDepth : Nat) :
    ofRoles roles maxDepth =
      match findCycle roles [] [] (Entries.keys roles) with
      | .ok _ => .ok ⟨roles, maxDepth⟩
      | .error cycle => .error (.circularInheritance cycle) := by
  have hsearch := foldlM_searchFrom (marked_start roles) (Entries.keys roles)
  rw [ofRoles, detectCycles]
  cases hfound : findCycle roles [] [] (Entries.keys roles) with
  | error cycle =>
    rw [hfound] at hsearch
    simp only [hsearch]
  | ok found =>
    rw [hfound] at hsearch
    obtain ⟨marks, -, hmarks⟩ := hsearch
    simp only [hmarks]

/-! ### Expansion -/

/-- Adds roles that lie the given number of steps away, and everything that they inherit, to the
roles `seen`, the newest of which comes first. -/
def visit (graph : RoleGraph) (depth : Nat) (seen : List String) :
    List String → Except PolicyError (List String)
  | [] => .ok seen
  | id :: rest =>
    if _shallow : graph.maxDepth < depth then .error (.depthExceeded id graph.maxDepth)
    else if id ∈ seen then visit graph depth seen rest
    else
      match visit graph (depth + 1) (id :: seen) (parents graph.roles id) with
      | .error e => .error e
      | .ok seen => visit graph depth seen rest
termination_by ids => (graph.maxDepth + 1 - depth, ids.length)
decreasing_by
  · exact Prod.Lex.right _ (by simp)
  · exact Prod.Lex.left _ _ (by omega)
  · exact Prod.Lex.right _ (by simp)

section Expansion

variable (graph : RoleGraph)

/-- An expansion of some roles goes on with the rest of the stack when they were visited. -/
theorem expandInto_append (depth : Nat) (seen ids : List String) (stack : List (String × Nat)) :
    graph.expandInto seen (ids.map (fun id => (id, depth)) ++ stack) =
      (graph.visit depth seen ids).bind fun found => graph.expandInto found stack := by
  fun_induction visit graph depth seen ids generalizing stack with
  | case1 depth seen => rfl
  | case2 depth seen id rest hdeep =>
    rw [List.map_cons, List.cons_append, expandInto, if_pos hdeep]
    rfl
  | case3 depth seen id rest hdepth hid ih =>
    rw [List.map_cons, List.cons_append, expandInto, if_neg hdepth, dif_pos hid, ih]
  | case4 depth seen id rest hdepth hid e he ih =>
    -- What the role inherits is put in front of all that was on the stack.
    rw [List.map_cons, List.cons_append, expandInto, if_neg hdepth, dif_neg hid, ih, he]
    rfl
  | case5 depth seen id rest hdepth hid above habove ihabove ih =>
    rw [List.map_cons, List.cons_append, expandInto, if_neg hdepth, dif_neg hid, ihabove, habove]
    exact ih stack

/-- An expansion of nothing but some roles visits them. -/
theorem expandInto_eq_visit (depth : Nat) (seen ids : List String) :
    graph.expandInto seen (ids.map fun id => (id, depth)) = graph.visit depth seen ids := by
  rw [← List.append_nil (ids.map fun id => (id, depth)), expandInto_append]
  cases graph.visit depth seen ids with
  | error e => rfl
  | ok found => exact expandInto.eq_1 graph found

/-- Roles expand to what a visit to them sees, the oldest first. -/
theorem expandAll_eq_visit (ids : List String) :
    graph.expandAll ids = (graph.visit 0 [] ids).map List.reverse := by
  have hfold (seen ids : List String) :
      ids.foldlM (fun seen id => graph.expandInto seen [(id, 0)]) seen =
        graph.expandInto seen (ids.map fun id => (id, 0)) := by
    induction ids generalizing seen with
    | nil => exact (expandInto.eq_1 graph seen).symm
    | cons id ids ih =>
      -- The other roles may as well wait on the stack while the first one is expanded.
      have hfirst : graph.expandInto seen ((id, 0) :: ids.map fun id => (id, 0)) =
          (graph.visit 0 seen [id]).bind fun found =>
            graph.expandInto found (ids.map fun id => (id, 0)) :=
        expandInto_append graph 0 seen [id] (ids.map fun id => (id, 0))
      rw [List.foldlM_cons, List.map_cons, hfirst, ← expandInto_eq_visit]
      exact bind_congr fun found => ih found
  rw [expandAll, hfold, expandInto_eq_visit]

/-- One role expands as a list of this role does. -/
theorem expand_eq_expandAll (id : String) : graph.expand id = graph.expandAll [id] := by
  rw [expand, expandAll, List.foldlM_cons]
  exact congrArg _ (bind_pure _).symm

end Expansion

end AccessPolicy.RoleGraph
