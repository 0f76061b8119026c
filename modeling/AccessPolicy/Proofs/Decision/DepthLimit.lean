import AccessPolicy.Proofs.Decision.Expansion
import Mathlib.Data.List.Forall2

/-!
# The limit of depth and the order of roles

What roles expand to does not depend on the order in which they are given, or in which they
inherit others, but whether they expand at all may. A search that meets a role again, on a longer
way than before, compares this way with the limit, but not the ways that lead on from the role.

The outcome is the same for all orders exactly if no path among the roles exceeds the limit, or
if the limit is zero, where no role may inherit another (`RoleGraph.expandAll_reordered_iff`).
For if a path does, there is a first role on whose paths the limit is exceeded, seen from the end.
It expands if what it inherits was seen before; but it does not expand by itself if the search
is led along the path (`RoleGraph.visit_error_of_leads`), and reordering leads it there.
-/

namespace AccessPolicy.RoleGraph

variable {roles roles' : List Role} {maxDepth : Nat} {graph graph' : RoleGraph}

/-! ### Other orders -/

/-- The same roles, each of which names what it inherits in another order. -/
def Reordered (roles roles' : List Role) : Prop :=
  List.Forall₂ (fun role role' => ∃ inherits : List String,
    inherits.Perm role.inherits ∧ role' = { role with inherits }) roles roles'

/-- Two expansions both exceed the limit of depth, or both succeed with the same roles. -/
inductive SameOutcome : Except PolicyError (List String) → Except PolicyError (List String) → Prop
  | exceeded {id id' : String} {depth : Nat} :
    SameOutcome (.error (.depthExceeded id depth)) (.error (.depthExceeded id' depth))
  | expanded {found found' : List String} :
    (∀ id, id ∈ found ↔ id ∈ found') → SameOutcome (.ok found) (.ok found')

/-- A name inherits the same, in another order. -/
theorem Reordered.perm_inheritsOf (h : Reordered roles roles') (id : String) :
    (inheritsOf roles' id).Perm (inheritsOf roles id) := by
  have hfind (l l' : List Role) (h : Reordered l l') :
      (((l'.find? fun role => role.id = id).map (·.inherits)).getD []).Perm
        (((l.find? fun role => role.id = id).map (·.inherits)).getD []) := by
    induction h with
    | nil => exact .nil
    | @cons role role' l l' hrole _ ih =>
      obtain ⟨inherits, hperm, rfl⟩ := hrole
      by_cases hid : role.id = id
      · simpa [hid] using hperm
      · simpa [hid] using ih
  rw [inheritsOf, inheritsOf, List.findRev?_eq_find?_reverse, List.findRev?_eq_find?_reverse]
  exact hfind _ _ (List.rel_reverse h)

theorem Reordered.extends_eq (h : Reordered roles roles') : Extends roles' = Extends roles := by
  funext id parent
  exact propext (h.perm_inheritsOf id).mem_iff

/-- The same names are known. -/
theorem Reordered.exists_id_iff (h : Reordered roles roles') {id : String} :
    (∃ role ∈ roles', role.id = id) ↔ ∃ role ∈ roles, role.id = id := by
  induction h with
  | nil => rfl
  | cons hrole _ ih =>
    obtain ⟨inherits, -, rfl⟩ := hrole
    simp only [List.exists_mem_cons_iff, ih]

theorem Reordered.acyclic (h : Reordered roles roles') (hacyclic : Acyclic roles) :
    Acyclic roles' := by
  have hsteps : ExtendsKnown roles' = ExtendsKnown roles := by
    funext id parent
    rw [ExtendsKnown, ExtendsKnown, h.extends_eq, h.exists_id_iff]
  rwa [Acyclic, hsteps]

/-- In all orders the roles that do expand are the same. -/
theorem Reordered.mem_iff_mem (h : Reordered roles roles')
    (hgraph : ofList roles maxDepth = .ok graph) (hgraph' : ofList roles' maxDepth = .ok graph')
    {ids ids' found found' : List String} (hids : ids.Perm ids')
    (hfound : graph.expandAll ids = .ok found) (hfound' : graph'.expandAll ids' = .ok found')
    (x : String) : x ∈ found ↔ x ∈ found' := by
  rw [mem_expandAll hfound, mem_expandAll hfound', inherits_of_ofList hgraph,
    inherits_of_ofList hgraph', h.extends_eq]
  simp only [hids.mem_iff]

/-! ### What a search does with the limit -/

section Limit

variable {depth : Nat} {seen ids : List String}

/-- A search only fails because of the limit. -/
theorem visit_error {e : PolicyError} (h : graph.visit depth seen ids = .error e) :
    ∃ id, e = .depthExceeded id graph.maxDepth := by
  fun_induction visit graph depth seen ids generalizing e with
  | case1 => cases h
  | case2 depth seen id => exact ⟨id, (Except.error.inj h).symm⟩
  | case3 depth seen id rest _ _ ih => exact ih h
  | case4 depth seen id rest _ _ e' he' ih =>
    rw [← Except.error.inj h]
    exact ih he'
  | case5 depth seen id rest _ _ above _ _ ih => exact ih h

/-- A search that succeeds stays within the limit. -/
theorem le_maxDepth_of_visit {found : List String} {id : String}
    (h : graph.visit depth seen (id :: ids) = .ok found) : depth ≤ graph.maxDepth := by
  rw [visit] at h
  split at h
  · cases h
  · omega

/-- What is new after a search has what it inherits one step further within the limit. -/
theorem lt_maxDepth_of_visit {found : List String} (h : graph.visit depth seen ids = .ok found)
    {x parent : String} (hx : x ∈ found) (hseen : x ∉ seen)
    (hparent : Inherits graph.roles x parent) : depth < graph.maxDepth := by
  fun_induction visit graph depth seen ids generalizing found with
  | case1 depth seen =>
    rw [← Except.ok.inj h] at hx
    exact absurd hx hseen
  | case2 => cases h
  | case3 depth seen id rest _ _ ih => exact ih h hx hseen
  | case4 => cases h
  | case5 depth seen id rest _ hid above habove ihabove ih =>
    by_cases hxabove : x ∈ above
    · by_cases hxid : x = id
      · subst hxid
        obtain ⟨first, others, hparents⟩ :=
          List.exists_cons_of_ne_nil (List.ne_nil_of_mem hparent)
        rw [hparents] at habove
        exact le_maxDepth_of_visit habove
      · have hdeeper := ihabove habove hxabove (by simp [hxid, hseen])
        omega
    · exact ih h hx hxabove

/-- Roles that were seen are left out, up to the limit. -/
theorem visit_of_subset (h : ids ⊆ seen) (hdepth : depth ≤ graph.maxDepth) :
    graph.visit depth seen ids = .ok seen := by
  induction ids with
  | nil => rw [visit]
  | cons id ids ih =>
    obtain ⟨hid, hids⟩ := List.cons_subset.1 h
    rw [visit, dif_neg (by omega), if_pos hid, ih hids]

/-- A search from two lists of roles goes on from the second where it left the first. -/
theorem visit_append {found : List String} (h : graph.visit depth seen ids = .ok found)
    (more : List String) : graph.visit depth seen (ids ++ more) = graph.visit depth found more := by
  fun_induction visit graph depth seen ids with
  | case1 depth seen => rw [← Except.ok.inj h, List.nil_append]
  | case2 => cases h
  | case3 depth seen id rest hdepth hid ih =>
    rw [List.cons_append, visit, dif_neg hdepth, if_pos hid, ih h]
  | case4 => cases h
  | case5 depth seen id rest hdepth hid above habove _ ih =>
    rw [List.cons_append, visit, dif_neg hdepth, if_neg hid]
    simp only [habove, ih h]

/-- A path that the search follows because each of its roles is what the role before it inherits
first. -/
def Leads (graph : RoleGraph) (path : List String) : Prop :=
  path.IsChain fun id parent => (parents graph.roles id).head? = some parent

/-- A search that is led along a path of new roles fails if the path exceeds the limit. -/
theorem visit_error_of_leads {id : String} {path more : List String}
    (hleads : Leads graph (id :: path)) (hnodup : (id :: path).Nodup)
    (hnew : ∀ x ∈ id :: path, x ∉ seen) (hlong : graph.maxDepth < depth + path.length) :
    ∃ e, graph.visit depth seen (id :: more) = .error e := by
  -- Along the path the depth grows, and more roles are seen.
  induction path generalizing id depth seen more with
  | nil =>
    rw [visit, dif_pos (by simpa using hlong)]
    exact ⟨_, rfl⟩
  | cons next path ih =>
    obtain ⟨hfirst, hrest⟩ := List.isChain_cons_cons.1 hleads
    obtain ⟨others, hparents⟩ := List.head?_eq_some_iff.1 hfirst
    obtain ⟨hid, hnodup'⟩ := List.nodup_cons.1 hnodup
    have hnew' : ∀ x ∈ next :: path, x ∉ id :: seen := by
      intro x hx
      have hxid : x ≠ id := ne_of_mem_of_not_mem hx hid
      simp [hxid, hnew x (List.mem_cons_of_mem id hx)]
    have hlong' : graph.maxDepth < depth + 1 + path.length := by
      rw [List.length_cons] at hlong
      omega
    have hdeeper : ∃ e, graph.visit (depth + 1) (id :: seen) (next :: others) = .error e :=
      ih hrest hnodup' hnew' hlong'
    obtain ⟨e, he⟩ := hdeeper
    rw [visit]
    by_cases hdepth : graph.maxDepth < depth
    · exact ⟨_, dif_pos hdepth⟩
    · rw [dif_neg hdepth, if_neg (hnew id List.mem_cons_self), hparents, he]
      exact ⟨e, rfl⟩

end Limit

/-! ### Leading the search along a path -/

section Lead

/-- A list of names that begins with a given name, if it has this name at all. -/
def bringForward (first : Option String) (names : List String) : List String :=
  match first with
  | some name => if name ∈ names then name :: names.erase name else names
  | none => names

theorem perm_bringForward (first : Option String) (names : List String) :
    (bringForward first names).Perm names := by
  unfold bringForward
  split
  · split
    next name hname => exact (List.perm_cons_erase hname).symm
    next => exact .refl _
  · exact .refl _

/-- The roles, each of which names first what follows it on a path. -/
def leadAlong (path : List String) (roles : List Role) : List Role :=
  roles.map fun role =>
    { role with
      inherits := bringForward (Entries.get? role.id (path.zip path.tail)) role.inherits }

theorem reordered_leadAlong (path : List String) (roles : List Role) :
    Reordered roles (leadAlong path roles) := by
  rw [Reordered, leadAlong, List.forall₂_map_right_iff, List.forall₂_same]
  exact fun role _ => ⟨_, perm_bringForward _ _, rfl⟩

theorem inheritsOf_leadAlong (path : List String) (id : String) :
    inheritsOf (leadAlong path roles) id =
      bringForward (Entries.get? id (path.zip path.tail)) (inheritsOf roles id) := by
  rw [inheritsOf, inheritsOf, List.findRev?_eq_find?_reverse, List.findRev?_eq_find?_reverse,
    leadAlong, ← List.map_reverse, List.find?_map]
  change (((roles.reverse.find? fun role => role.id = id).map _).map _).getD [] = _
  cases hrole : roles.reverse.find? fun role => role.id = id with
  | none =>
    have hnil := List.perm_nil.1 (perm_bringForward (Entries.get? id (path.zip path.tail)) [])
    exact hnil.symm
  | some role =>
    have hid : role.id = id := by simpa using List.find?_some hrole
    simp [hid]

/-- On a path that meets no name twice, the name behind another one can be looked up. -/
theorem isChain_get?_zip_tail {r : String → String → Prop} {path : List String}
    (hpath : path.IsChain r) (hnodup : path.Nodup) :
    path.IsChain fun id next => r id next ∧ Entries.get? id (path.zip path.tail) = some next := by
  induction path with
  | nil => exact .nil
  | cons id path ih =>
    obtain ⟨hid, hnodup⟩ := List.nodup_cons.1 hnodup
    cases path with
    | nil => exact List.isChain_singleton id
    | cons next path =>
      obtain ⟨hstep, hpath⟩ := List.isChain_cons_cons.1 hpath
      refine List.isChain_cons_cons.2 ⟨⟨hstep, by simp [Entries.get?]⟩, ?_⟩
      -- The lookup of a later name passes over the first one.
      refine (ih hpath hnodup).imp_of_mem_imp fun x y hx _ hxy => ⟨hxy.1, ?_⟩
      have hxid : id ≠ x := (ne_of_mem_of_not_mem hx hid).symm
      simpa [Entries.get?, hxid] using hxy.2

/-- The search is led along a path that meets no name twice if each role of the path names first
what follows it. -/
theorem leads_leadAlong {path : List String} (hpath : path.IsChain (Extends roles))
    (hnodup : path.Nodup) (hgraph : ofList (leadAlong path roles) maxDepth = .ok graph) :
    Leads graph path := by
  rw [Leads, parents_of_ofList hgraph]
  refine (isChain_get?_zip_tail hpath hnodup).imp fun id next hnext => ?_
  obtain ⟨hextends, hnext⟩ := hnext
  have hmem : next ∈ inheritsOf roles id := hextends
  rw [inheritsOf_leadAlong, hnext, bringForward, if_pos hmem]
  rfl

end Lead

/-! ### When the order matters -/

/-- A path meets no name twice if no role inherits itself. -/
theorem Acyclic.nodup_of_isChain (h : Acyclic roles) {path : List String}
    (hpath : path.IsChain (Extends roles)) : path.Nodup := by
  have hsteps : path.IsChain (Relation.TransGen (Extends roles)) :=
    hpath.imp fun _ _ hstep => .single hstep
  refine (List.isChain_iff_pairwise.1 hsteps).imp fun {id x} hreach hsame => ?_
  subst hsame
  exact h.not_transGen id hreach

/-- If a path exceeds the limit, one does whose first role only inherits roles on whose paths the
limit is kept. -/
theorem Acyclic.exists_first_long (hacyclic : Acyclic roles) {id : String} {path : List String}
    (hpath : (id :: path).IsChain (Extends roles)) (hlong : maxDepth < path.length) :
    ∃ id path, (id :: path).IsChain (Extends roles) ∧ maxDepth < path.length ∧
      ∀ parent ∈ inheritsOf roles id, ∀ path, (parent :: path).IsChain (Extends roles) →
        path.length ≤ maxDepth := by
  let long : Set String :=
    {id | ∃ path, (id :: path).IsChain (Extends roles) ∧ maxDepth < path.length}
  obtain ⟨first, ⟨rest, hrest, hlength⟩, hfirst⟩ :=
    hacyclic.wellFounded.has_min long ⟨id, path, hpath, hlong⟩
  refine ⟨first, rest, hrest, hlength, fun parent hparent path hpath => ?_⟩
  by_contra hpathlong
  exact hfirst parent ⟨path, hpath, by omega⟩ hparent

/-- A role expands after what it inherits if that stays within the limit. -/
theorem exists_expandAll_append_eq_ok (hgraph : ofList roles maxDepth = .ok graph) {id : String}
    (hpositive : maxDepth ≠ 0) (hshort : ∀ parent ∈ inheritsOf roles id, ∀ path,
      (parent :: path).IsChain (Extends roles) → path.length ≤ maxDepth) :
    ∃ found, graph.expandAll (inheritsOf roles id ++ [id]) = .ok found := by
  have hlimit := maxDepth_of_ofList hgraph
  have hfirst : ∃ found, graph.visit 0 [] (inheritsOf roles id) = .ok found :=
    exists_visit_eq_ok hgraph fun parent hparent path hpath => by
      simpa using hshort parent hparent path hpath
  obtain ⟨found, hfound⟩ := hfirst
  have hsubset : inheritsOf roles id ⊆ found :=
    (expands_visit graph 0 [] (inheritsOf roles id) hfound).ids_subset
  have hlast : ∃ found', graph.visit 0 found [id] = .ok found' := by
    by_cases hid : id ∈ found
    · exact ⟨found, visit_of_subset (by simpa using hid) (Nat.zero_le _)⟩
    · -- All that the role inherits was seen already, so the search goes no deeper.
      have habove : graph.visit (0 + 1) (id :: found) (parents graph.roles id) =
          .ok (id :: found) := by
        rw [parents_of_ofList hgraph]
        exact visit_of_subset (List.subset_cons_of_subset id hsubset) (by omega)
      refine ⟨id :: found, ?_⟩
      rw [visit, dif_neg (Nat.not_lt_zero _), if_neg hid, habove]
      exact visit.eq_1 graph 0 (id :: found)
  obtain ⟨found', hfound'⟩ := hlast
  refine ⟨found'.reverse, expandAll_eq_ok_iff.2 ⟨found', ?_, rfl⟩⟩
  rw [visit_append hfound, hfound']

/-- If no path from the roles exceeds the limit, they expand to the same roles in all orders. -/
theorem Reordered.sameOutcome_of_short (h : Reordered roles roles')
    (hgraph : ofList roles maxDepth = .ok graph) (hgraph' : ofList roles' maxDepth = .ok graph')
    {ids ids' : List String} (hids : ids.Perm ids')
    (hshort : ∀ id ∈ ids, ∀ path, (id :: path).IsChain (Extends roles) → path.length ≤ maxDepth) :
    SameOutcome (graph.expandAll ids) (graph'.expandAll ids') := by
  obtain ⟨found, hfound⟩ := exists_expandAll_eq_ok hgraph hshort
  have hother : ∃ found', graph'.expandAll ids' = .ok found' :=
    exists_expandAll_eq_ok hgraph' fun id hid path hpath =>
      hshort id (hids.mem_iff.2 hid) path (h.extends_eq ▸ hpath)
  obtain ⟨found', hfound'⟩ := hother
  rw [hfound, hfound']
  exact .expanded (h.mem_iff_mem hgraph hgraph' hids hfound hfound')

/-- If no step is allowed, roles expand if none of them inherits anything. -/
theorem expandAll_error_of_zero (hgraph : ofList roles 0 = .ok graph) {ids : List String}
    {id parent : String} (hid : id ∈ ids) (hparent : parent ∈ inheritsOf roles id) :
    ∃ x, graph.expandAll ids = .error (.depthExceeded x 0) := by
  have hlimit := maxDepth_of_ofList hgraph
  cases hvisit : graph.visit 0 [] ids with
  | error e =>
    obtain ⟨x, rfl⟩ := visit_error hvisit
    rw [hlimit] at hvisit
    exact ⟨x, expandAll_eq_error_iff.2 hvisit⟩
  | ok found =>
    -- The role would have been found, with what it inherits one step away.
    have hfound : id ∈ found := (expands_visit graph 0 [] ids hvisit).ids_subset hid
    have hinherits : Inherits graph.roles id parent := by
      rwa [inherits_of_ofList hgraph]
    have hdeep := lt_maxDepth_of_visit hvisit hfound List.not_mem_nil hinherits
    omega

/-- Among roles that do not inherit themselves, the outcome of every expansion is the same for all
orders of the expanded roles and of what roles inherit, exactly if no step is allowed, or if no
path among the roles takes more steps than are allowed. -/
theorem expandAll_reordered_iff (hacyclic : Acyclic roles) (maxDepth : Nat) :
    (∀ roles' ids ids', Reordered roles roles' → ids.Perm ids' →
      ∃ graph graph', ofList roles maxDepth = .ok graph ∧ ofList roles' maxDepth = .ok graph' ∧
        SameOutcome (graph.expandAll ids) (graph'.expandAll ids')) ↔
      maxDepth = 0 ∨ ∀ id path, (id :: path).IsChain (Extends roles) → path.length ≤ maxDepth := by
  obtain ⟨graph, hgraph⟩ := exists_ofList hacyclic maxDepth
  constructor
  · intro hsame
    rw [or_iff_not_imp_left]
    intro hpositive id path hpath
    by_contra hlong
    obtain ⟨id, path, hpath, hlong, hshort⟩ :=
      hacyclic.exists_first_long hpath (Nat.lt_of_not_le hlong)
    -- The role expands last, but not first if the search is led along the path.
    obtain ⟨found, hfound⟩ := exists_expandAll_append_eq_ok hgraph hpositive hshort
    have hreordered := reordered_leadAlong (id :: path) roles
    obtain ⟨graph₁, graph', hgraph₁, hgraph', hboth⟩ := hsame _ _ (id :: inheritsOf roles id)
      hreordered (List.perm_append_singleton id (inheritsOf roles id))
    rw [hgraph, Except.ok.injEq] at hgraph₁
    subst hgraph₁
    have hnodup := hacyclic.nodup_of_isChain hpath
    have hleads := leads_leadAlong hpath hnodup hgraph'
    have hlimit := maxDepth_of_ofList hgraph'
    obtain ⟨e, he⟩ : ∃ e, graph'.visit 0 [] (id :: inheritsOf roles id) = .error e :=
      visit_error_of_leads hleads hnodup (by simp) (by omega)
    rw [hfound, expandAll_eq_error_iff.2 he] at hboth
    cases hboth
  · intro hcondition roles' ids ids' hreordered hids
    obtain ⟨graph', hgraph'⟩ := exists_ofList (hreordered.acyclic hacyclic) maxDepth
    refine ⟨graph, graph', hgraph, hgraph', ?_⟩
    by_cases hshort : ∀ id ∈ ids, ∀ path, (id :: path).IsChain (Extends roles) →
        path.length ≤ maxDepth
    · exact hreordered.sameOutcome_of_short hgraph hgraph' hids hshort
    · -- Then no step is allowed, and some role inherits another.
      push Not at hshort
      obtain ⟨id, hid, path, hpath, hlong⟩ := hshort
      rcases hcondition with rfl | hshort
      · obtain ⟨parent, rest, rfl⟩ := List.exists_cons_of_length_pos hlong
        have hparent : parent ∈ inheritsOf roles id := (List.isChain_cons_cons.1 hpath).1
        have hparent' : parent ∈ inheritsOf roles' id :=
          (hreordered.perm_inheritsOf id).mem_iff.2 hparent
        obtain ⟨x, hx⟩ := expandAll_error_of_zero hgraph hid hparent
        obtain ⟨x', hx'⟩ := expandAll_error_of_zero hgraph' (hids.mem_iff.1 hid) hparent'
        rw [hx, hx']
        exact .exceeded
      · exact absurd (hshort id path hpath) (Nat.not_le_of_lt hlong)

/-- Two ways of different lengths lead to one role, and neither exceeds the limit. -/
theorem expandAll_reordered_detour :
    let roles : List Role :=
      [{ id := "a", label := "", inherits := ["b", "c"] },
        { id := "c", label := "", inherits := ["b"] },
        { id := "b", label := "", inherits := ["d"] }]
    let roles' : List Role :=
      [{ id := "a", label := "", inherits := ["c", "b"] },
        { id := "c", label := "", inherits := ["b"] },
        { id := "b", label := "", inherits := ["d"] }]
    Acyclic roles ∧ Reordered roles roles' ∧
      ∃ graph graph', ofList roles 3 = .ok graph ∧ ofList roles' 3 = .ok graph' ∧
        SameOutcome (graph.expandAll ["a", "b"]) (graph'.expandAll ["b", "a"]) := by
  intro roles roles'
  have hkeys : Entries.keys (Entries.ofList (roles.map fun role => (role.id, role))) =
      ["a", "c", "b"] := rfl
  have ha : inheritsOf roles "a" = ["b", "c"] := rfl
  have hc : inheritsOf roles "c" = ["b"] := rfl
  have hb : inheritsOf roles "b" = ["d"] := rfl
  have hgraph : ∃ graph, ofList roles 3 = .ok graph := by
    rw [ofList, ofRoles_eq_findCycle, hkeys]
    simp [findCycle, hkeys, parents_ofList, ha, hb, hc]
  obtain ⟨graph, hgraph⟩ := hgraph
  have hacyclic := acyclic_of_ofList hgraph
  have hreordered : Reordered roles roles' :=
    .cons ⟨["c", "b"], by decide, rfl⟩ (.cons ⟨["b"], .refl _, rfl⟩
      (.cons ⟨["d"], .refl _, rfl⟩ .nil))
  have hstep (id parent : String) (h : Extends roles id parent) :
      (id, parent) ∈ [("a", "b"), ("a", "c"), ("c", "b"), ("b", "d")] := by
    have hknown : id ∈ ["a", "c", "b"] := by
      rw [← hkeys]
      exact known_of_inherits (by rwa [inherits_ofList])
    rw [Extends] at h
    simp only [List.mem_cons, List.not_mem_nil, or_false] at hknown
    rcases hknown with rfl | rfl | rfl
    · simpa [ha] using h
    · simpa [hc] using h
    · simpa [hb] using h
  have hshort : ∀ id path, (id :: path).IsChain (Extends roles) → path.length ≤ 3 := by
    intro id path hpath
    rcases path with _ | ⟨x, _ | ⟨y, _ | ⟨z, _ | ⟨last, rest⟩⟩⟩⟩
    · simp
    · simp
    · simp
    · simp
    · simp only [List.isChain_cons_cons] at hpath
      obtain ⟨hx, hy, hz, hlast, -⟩ := hpath
      -- No four of the steps can stand one behind the other.
      have hx := hstep id x hx
      have hy := hstep x y hy
      have hz := hstep y z hz
      have hlast := hstep z last hlast
      simp only [List.mem_cons, Prod.mk.injEq, List.not_mem_nil, or_false] at hx hy hz hlast
      grind
  exact ⟨hacyclic, hreordered, (expandAll_reordered_iff hacyclic 3).2 (.inr hshort) roles' _ _
    hreordered (by decide)⟩

/-- A role that was expanded before hides that another one exceeds the limit through it. -/
theorem expandAll_order_matters :
    let roles : List Role :=
      [{ id := "a", label := "", inherits := ["b"] },
        { id := "b", label := "", inherits := ["c"] },
        { id := "c", label := "" }]
    let graph : RoleGraph := ⟨Entries.ofList (roles.map fun role => (role.id, role)), 1⟩
    Acyclic roles ∧ ofList roles 1 = .ok graph ∧ ["a", "b"].Perm ["b", "a"] ∧
      graph.expandAll ["a", "b"] = .error (.depthExceeded "c" 1) ∧
      graph.expandAll ["b", "a"] = .ok ["b", "c", "a"] ∧
      ¬ SameOutcome (graph.expandAll ["a", "b"]) (graph.expandAll ["b", "a"]) := by
  intro roles graph
  have hkeys : Entries.keys graph.roles = ["a", "b", "c"] := rfl
  have ha : parents graph.roles "a" = ["b"] := rfl
  have hb : parents graph.roles "b" = ["c"] := rfl
  have hc : parents graph.roles "c" = [] := rfl
  have hgraph : ofList roles 1 = .ok graph := by
    change ofRoles graph.roles 1 = _
    simp [ofRoles_eq_findCycle, findCycle, hkeys, ha, hb, hc, graph]
  have hfails : graph.expandAll ["a", "b"] = .error (.depthExceeded "c" 1) := by
    simp [expandAll_eq_visit, visit, ha, hb, graph, Except.map]
  have hsucceeds : graph.expandAll ["b", "a"] = .ok ["b", "c", "a"] := by
    simp [expandAll_eq_visit, visit, ha, hb, hc, graph, Except.map]
  refine ⟨acyclic_of_ofList hgraph, hgraph, by decide, hfails, hsucceeds, ?_⟩
  rw [hfails, hsucceeds]
  rintro ⟨⟩

end AccessPolicy.RoleGraph
