import AccessPolicy.Proofs.Decision.Cycles
import AccessPolicy.Proofs.Decision.Distinct

/-!
# Expansion as unfolding

Without regard to what was met before, a role unfolds to itself and then to what the roles that
it inherits unfold to, one after the other (`RoleGraph.Acyclic.unfold`). Roles that inherit one
role on several ways repeat it, again and again. The expansion of roles is their unfolding with
each name kept only where it appears first (`RoleGraph.expandAll_eraseDups_unfold`).

The search leaves out what it has seen. That is right because whatever it has seen is either
complete, so that its whole unfolding was seen too, or is a role from which the search descended;
and it cannot meet the latter again (`RoleGraph.Complete`).
-/

namespace AccessPolicy.RoleGraph

variable {roles : List Role} {maxDepth : Nat} {graph : RoleGraph}

/-! ### Unfolding -/

/-- The role of a name, followed by what each name that it inherits unfolds to, in order. A name
without a role unfolds to itself. -/
def Acyclic.unfold (h : Acyclic roles) (id : String) : List String :=
  id :: (inheritsOf roles id).attach.flatMap fun ⟨parent, _hparent⟩ => h.unfold parent
termination_by h.wellFounded.wrap id
decreasing_by exact _hparent

theorem Acyclic.unfold_eq (h : Acyclic roles) (id : String) :
    h.unfold id = id :: (inheritsOf roles id).flatMap h.unfold := by
  rw [Acyclic.unfold.eq_1]
  simp [List.flatMap_subtype]

/-- A role unfolds to what can be reached from it. -/
theorem Acyclic.mem_unfold_iff (h : Acyclic roles) {id x : String} :
    x ∈ h.unfold id ↔ Relation.ReflTransGen (Extends roles) id x := by
  induction id using h.wellFounded.induction with
  | _ id ih =>
    rw [h.unfold_eq, List.mem_cons, List.mem_flatMap, Relation.ReflTransGen.cases_head_iff]
    constructor
    · rintro (rfl | ⟨parent, hparent, hx⟩)
      · exact .inl rfl
      · exact .inr ⟨parent, hparent, (ih parent hparent).1 hx⟩
    · rintro (rfl | ⟨parent, hparent, hx⟩)
      · exact .inl rfl
      · exact .inr ⟨parent, hparent, (ih parent hparent).2 hx⟩

/-! ### Names in the order in which they appear first -/

section First

/-- Adds names to those seen before, the newest of which comes first. -/
def see (seen ids : List String) : List String :=
  ids.foldl (fun seen id => seen.insert id) seen

theorem see_cons (seen ids : List String) (id : String) :
    see seen (id :: ids) = see (seen.insert id) ids := rfl

theorem see_append (seen ids more : List String) :
    see seen (ids ++ more) = see (see seen ids) more :=
  List.foldl_append

/-- Nothing changes if everything was seen before. -/
theorem see_of_subset {seen ids : List String} (h : ids ⊆ seen) : see seen ids = seen := by
  induction ids with
  | nil => rfl
  | cons id ids ih =>
    obtain ⟨hid, hids⟩ := List.cons_subset.1 h
    rw [see_cons, List.insert_of_mem hid, ih hids]

/-- The names seen in a list are those of the list, each where it appears first. -/
theorem reverse_see_nil (ids : List String) : (see [] ids).reverse = ids.eraseDups := by
  have hloop (ids seen : List String) :
      List.eraseDupsBy.loop (· == ·) ids seen = (see seen ids).reverse := by
    induction ids generalizing seen with
    | nil => rfl
    | cons id ids ih =>
      rw [List.eraseDupsBy.loop, see_cons]
      split
      next hseen =>
        have hid : id ∈ seen := by simpa using hseen
        rw [ih, List.insert_of_mem hid]
      next hseen =>
        have hid : id ∉ seen := fun hid => by simpa using List.any_eq_false.1 hseen id hid
        rw [ih, List.insert_of_not_mem hid]
  rw [List.eraseDups, List.eraseDupsBy, hloop]

end First

/-! ### The search -/

/-- What was seen is complete but for the roles from which the search descended, and these cannot
be reached from what is looked at next. -/
structure Complete (roles : List Role) (entered seen ids : List String) : Prop where
  /-- What a role inherits was seen with it, unless the search has descended from the role. -/
  closed : ∀ x ∈ seen, x ∈ entered ∨ ∀ parent, Extends roles x parent → parent ∈ seen
  /-- Nothing leads back to a role from which the search descended. -/
  ahead : ∀ id ∈ ids, ∀ x ∈ entered, ¬ Relation.ReflTransGen (Extends roles) id x

section Complete

variable {entered seen ids : List String} {id : String}

theorem Complete.tail (h : Complete roles entered seen (id :: ids)) :
    Complete roles entered seen ids :=
  ⟨h.closed, fun x hx => h.ahead x (List.mem_cons_of_mem id hx)⟩

/-- A role that was seen before was seen with everything that it unfolds to. -/
theorem Complete.unfold_subset (h : Complete roles entered seen (id :: ids)) (hid : id ∈ seen)
    (hacyclic : Acyclic roles) : hacyclic.unfold id ⊆ seen := by
  intro x hx
  have hpath := hacyclic.mem_unfold_iff.1 hx
  clear hx
  induction hpath with
  | refl => exact hid
  | tail hpath hparent ih =>
    -- The role before was not left yet to be completed, as it can be reached from here.
    have hleft := fun hentered => h.ahead id List.mem_cons_self _ hentered hpath
    exact (h.closed _ ih).resolve_left hleft _ hparent

/-- The search descends from a role to what it inherits. -/
theorem Complete.descend (h : Complete roles entered seen (id :: ids))
    (hacyclic : Acyclic roles) :
    Complete roles (id :: entered) (id :: seen) (inheritsOf roles id) where
  closed x hx := by
    rcases List.mem_cons.1 hx with rfl | hx
    · exact .inl List.mem_cons_self
    · refine (h.closed x hx).imp (List.mem_cons_of_mem id) fun hparents parent hparent => ?_
      exact List.mem_cons_of_mem id (hparents parent hparent)
  ahead parent hparent x hx hpath := by
    have hcycle : Relation.TransGen (Extends roles) id x := Relation.TransGen.head' hparent hpath
    rcases List.mem_cons.1 hx with rfl | hx
    · exact hacyclic.not_transGen x hcycle
    · exact h.ahead id List.mem_cons_self x hx hcycle.to_reflTransGen

/-- When the search comes back to a role, the role is complete. -/
theorem Complete.ascend {above : List String} (h : Complete roles entered seen (id :: ids))
    (hclosed : ∀ x ∈ above, x ∈ id :: seen ∨ ∀ parent, Extends roles x parent → parent ∈ above)
    (hseen : id :: seen ⊆ above) (hparents : inheritsOf roles id ⊆ above) :
    Complete roles entered above ids where
  closed x hx := by
    rcases hclosed x hx with hx | hx
    · rcases List.mem_cons.1 hx with rfl | hx
      · exact .inr fun parent hparent => hparents hparent
      · refine (h.closed x hx).imp_right fun hparents parent hparent => ?_
        exact hseen (List.mem_cons_of_mem id (hparents parent hparent))
    · exact .inr hx
  ahead := h.tail.ahead

end Complete

/-- A search sees what its roles unfold to, in the same order. -/
theorem visit_eq_see (hgraph : ofList roles maxDepth = .ok graph) (hacyclic : Acyclic roles)
    {depth : Nat} {entered seen ids found : List String}
    (hcomplete : Complete roles entered seen ids) (h : graph.visit depth seen ids = .ok found) :
    found = see seen (ids.flatMap hacyclic.unfold) := by
  have hparents := parents_of_ofList hgraph
  have hinherits := inherits_of_ofList hgraph
  fun_induction visit graph depth seen ids generalizing entered found with
  | case1 depth seen => exact (Except.ok.inj h).symm
  | case2 => cases h
  | case3 depth seen id rest _ hid ih =>
    -- All that the role unfolds to was seen before.
    rw [List.flatMap_cons, see_append, see_of_subset (hcomplete.unfold_subset hid hacyclic)]
    exact ih hcomplete.tail h
  | case4 => cases h
  | case5 depth seen id rest _ hid above habove ihabove ih =>
    rw [hparents] at habove ihabove
    have hexpands := expands_visit graph (depth + 1) (id :: seen) (inheritsOf roles id) habove
    have hclosed := hexpands.closed
    simp only [hinherits] at hclosed
    have hfirst := ihabove (hcomplete.descend hacyclic) habove
    have hrest := ih (hcomplete.ascend hclosed hexpands.seen_subset hexpands.ids_subset) h
    rw [hrest, hfirst, List.flatMap_cons, see_append, hacyclic.unfold_eq, see_cons,
      List.insert_of_not_mem hid]

/-- Roles expand to what they unfold to, with each name where it appears first. -/
theorem eq_eraseDups_unfold (hgraph : ofList roles maxDepth = .ok graph)
    (hacyclic : Acyclic roles) {ids found : List String} (h : graph.expandAll ids = .ok found) :
    found = (ids.flatMap hacyclic.unfold).eraseDups := by
  obtain ⟨seen, hvisit, rfl⟩ := expandAll_eq_ok_iff.1 h
  -- At first nothing was seen, and the search descended from no role.
  have hcomplete : Complete roles [] [] ids := ⟨by simp, by simp⟩
  rw [visit_eq_see hgraph hacyclic hcomplete hvisit, reverse_see_nil]

/-- A search succeeds if every path from its roles stays within the limit. -/
theorem exists_visit_eq_ok (hgraph : ofList roles maxDepth = .ok graph) {depth : Nat}
    {seen ids : List String} (h : ∀ id ∈ ids, ∀ path, (id :: path).IsChain (Extends roles) →
      depth + path.length ≤ maxDepth) : ∃ found, graph.visit depth seen ids = .ok found := by
  have hparents := parents_of_ofList hgraph
  have hlimit := maxDepth_of_ofList hgraph
  fun_induction visit graph depth seen ids with
  | case1 depth seen => exact ⟨seen, rfl⟩
  | case2 depth seen id rest hdeep =>
    have hdepth := h id List.mem_cons_self [] (List.isChain_singleton id)
    rw [List.length_nil] at hdepth
    omega
  | case3 depth seen id rest _ _ ih => exact ih fun x hx => h x (List.mem_cons_of_mem id hx)
  | case4 depth seen id rest _ _ e he ih =>
    rw [hparents] at he ih
    -- A path from what the role inherits prolongs to one from the role.
    obtain ⟨found, hfound⟩ := ih fun parent hparent path hpath => by
      have hlength := h id List.mem_cons_self (parent :: path)
        (List.isChain_cons_cons.2 ⟨hparent, hpath⟩)
      rw [List.length_cons] at hlength
      omega
    rw [hfound] at he
    cases he
  | case5 depth seen id rest _ _ above _ _ ih =>
    exact ih fun x hx => h x (List.mem_cons_of_mem id hx)

theorem exists_expandAll_eq_ok (hgraph : ofList roles maxDepth = .ok graph) {ids : List String}
    (h : ∀ id ∈ ids, ∀ path, (id :: path).IsChain (Extends roles) → path.length ≤ maxDepth) :
    ∃ found, graph.expandAll ids = .ok found := by
  have hvisit : ∃ seen, graph.visit 0 [] ids = .ok seen :=
    exists_visit_eq_ok hgraph fun id hid path hpath => by simpa using h id hid path hpath
  obtain ⟨seen, hseen⟩ := hvisit
  exact ⟨seen.reverse, expandAll_eq_ok_iff.2 ⟨seen, hseen, rfl⟩⟩

/-- In a graph roles expand to what they unfold to, with each name where it appears first, so to
each name that can be reached from them, once. They do expand if no path from them takes more
steps than the graph allows. One role expands as a list of this role does. -/
theorem expandAll_eraseDups_unfold (hgraph : ofList roles maxDepth = .ok graph) :
    (∀ ids found, graph.expandAll ids = .ok found →
        found = (ids.flatMap (acyclic_of_ofList hgraph).unfold).eraseDups ∧ found.Nodup ∧
          ∀ x, x ∈ found ↔ ∃ id ∈ ids, Relation.ReflTransGen (Extends roles) id x) ∧
      (∀ ids, (∀ id ∈ ids, ∀ path, (id :: path).IsChain (Extends roles) →
          path.length ≤ maxDepth) → ∃ found, graph.expandAll ids = .ok found) ∧
      ∀ id, graph.expand id = graph.expandAll [id] := by
  refine ⟨fun ids found h => ?_, fun ids => exists_expandAll_eq_ok hgraph,
    expand_eq_expandAll graph⟩
  have hfound := eq_eraseDups_unfold hgraph (acyclic_of_ofList hgraph) h
  refine ⟨hfound, ?_, fun x => ?_⟩
  · rw [hfound]
    exact nodup_eraseDups _
  · rw [← inherits_of_ofList hgraph]
    exact mem_expandAll h

/-- Two roles share one that they inherit, a third inherits one of the two twice, and an unknown
name is inherited as well. No path takes more than two steps. -/
theorem expandAll_eraseDups_unfold_shared :
    let roles : List Role :=
      [{ id := "admin", label := "", inherits := ["sales", "support", "sales"] },
        { id := "sales", label := "", inherits := ["staff"] },
        { id := "support", label := "", inherits := ["staff", "guest"] },
        { id := "staff", label := "" }]
    let graph : RoleGraph := ⟨Entries.ofList (roles.map fun role => (role.id, role)), 2⟩
    let ids := ["support", "admin", "support"]
    ∃ hgraph : ofList roles 2 = .ok graph,
      (∀ id ∈ ids, ∀ path, (id :: path).IsChain (Extends roles) → path.length ≤ 2) ∧
        (∃ found, graph.expandAll ids = .ok found ∧
          found = (ids.flatMap (acyclic_of_ofList hgraph).unfold).eraseDups) ∧
        graph.expandAll ids = .ok ["support", "staff", "guest", "admin", "sales"] := by
  intro roles graph ids
  have hkeys : Entries.keys graph.roles = ["admin", "sales", "support", "staff"] := rfl
  have hadmin : inheritsOf roles "admin" = ["sales", "support", "sales"] := rfl
  have hsales : inheritsOf roles "sales" = ["staff"] := rfl
  have hsupport : inheritsOf roles "support" = ["staff", "guest"] := rfl
  have hstaff : inheritsOf roles "staff" = [] := rfl
  have hguest : inheritsOf roles "guest" = [] := rfl
  have hparents : parents graph.roles = inheritsOf roles := parents_ofList roles
  have hgraph : ofList roles 2 = .ok graph := by
    change ofRoles graph.roles 2 = _
    simp [ofRoles_eq_findCycle, findCycle, hkeys, hparents, hadmin, hsales, hsupport, hstaff, graph]
  have htwo : ∀ id ∈ ids, ∀ x ∈ inheritsOf roles id, ∀ y ∈ inheritsOf roles x,
      inheritsOf roles y = [] := by
    simp [ids, hadmin, hsales, hsupport, hstaff, hguest]
  have hshort : ∀ id ∈ ids, ∀ path, (id :: path).IsChain (Extends roles) → path.length ≤ 2 := by
    intro id hid path hpath
    rcases path with _ | ⟨x, _ | ⟨y, _ | ⟨z, rest⟩⟩⟩
    · simp
    · simp
    · simp
    · simp only [List.isChain_cons_cons, Extends] at hpath
      obtain ⟨hx, hy, hz, -⟩ := hpath
      simp [htwo id hid x hx y hy] at hz
  obtain ⟨hunfold, hsucceeds, -⟩ := expandAll_eraseDups_unfold hgraph
  obtain ⟨found, hfound⟩ := hsucceeds ids hshort
  refine ⟨hgraph, hshort, ⟨found, hfound, (hunfold ids found hfound).1⟩, ?_⟩
  simp [expandAll_eq_visit, visit, hparents, hadmin, hsales, hsupport, hstaff, hguest, graph, ids,
    Except.map]

end AccessPolicy.RoleGraph
