import AccessPolicy.Policy.Error
import AccessPolicy.Policy.Source

/-!
# Role inheritance

The roles of a source with the roles that they inherit. A graph in which a role inherits itself
along some path is refused. Roles expand to themselves and everything that they inherit, depth
first; more steps than the graph allows are an error.

Both searches keep what is left to do on a stack, so a long chain of roles takes no more than the
memory for it.
-/

namespace AccessPolicy

/-- Roles by name, and how many steps of inheritance are allowed. -/
structure RoleGraph where
  /-- The roles. -/
  roles : Entries String Role
  /-- The number of steps of inheritance that are allowed. -/
  maxDepth : Nat

namespace RoleGraph

/-- The names of the roles that a role inherits. Unknown roles inherit none. -/
def parents (roles : Entries String Role) (id : String) : List String :=
  match Entries.get? id roles with
  | some role => role.inherits
  | none => []

/-- A role inherits nothing if it is unknown. -/
theorem parents_of_not_mem_keys {roles : Entries String Role} {id : String}
    (unknown : id ∉ Entries.keys roles) : parents roles id = [] := by
  rw [parents]
  split
  next role found => exact absurd (Entries.mem_keys_iff.2 ⟨role, found⟩) unknown
  next => rfl

/-! ### Cycles -/

/-- How far the search for a cycle is with a role. -/
inductive Mark
  /-- The role was not met yet. -/
  | white
  /-- The role lies on the way of the search. -/
  | gray
  /-- The search went on from all that the role inherits, and met no cycle. -/
  | black
  deriving DecidableEq, Repr

/-- The number of roles that were not met yet. -/
def whiteCount (marks : Entries String Mark) : Nat :=
  marks.countP fun entry => entry.2 = .white

/-- Marking a role that was met makes no other one new. -/
theorem whiteCount_insert_le {mark : Mark} (met : mark ≠ .white) (id : String)
    (marks : Entries String Mark) :
    whiteCount (Entries.insert id mark marks) ≤ whiteCount marks := by
  induction marks with
  | nil => simp [Entries.insert, whiteCount, met]
  | cons entry marks ih =>
    obtain ⟨key, old⟩ := entry
    rw [Entries.insert]
    split
    · simp [whiteCount, List.countP_cons, met]
    · simpa [whiteCount, List.countP_cons] using ih

/-- Meeting a role leaves fewer that were not met. -/
theorem whiteCount_insert_lt {mark : Mark} (met : mark ≠ .white) {id : String}
    {marks : Entries String Mark} (new : Entries.get? id marks = some .white) :
    whiteCount (Entries.insert id mark marks) < whiteCount marks := by
  induction marks with
  | nil => cases new
  | cons entry marks ih =>
    obtain ⟨key, old⟩ := entry
    rw [Entries.get?] at new
    rw [Entries.insert]
    split at new
    next same =>
      rw [if_pos same]
      simp [whiteCount, met, Option.some.inj new]
    next other =>
      rw [if_neg other]
      simpa [whiteCount, List.countP_cons] using ih new

/-- The steps that are left to look at what the roles of a stack inherit, and to leave them. -/
def stepsLeft (roles : Entries String Role) : List (String × Nat) → Nat
  | [] => 0
  | (id, next) :: stack => (parents roles id).length - next + 1 + stepsLeft roles stack

/-- The part of a path from its last mention of a role on, and the role again. The path begins
with its end. -/
def cycleTo (id : String) (path : List String) : List String :=
  id :: ((path.takeWhile (· ≠ id)).reverse ++ [id])

/-- Goes on with a search for a cycle. The stack holds the way of the search, with its end on top;
beside each role stands how many of the roles that it inherits were looked at. -/
def search (roles : Entries String Role) (marks : Entries String Mark) :
    List (String × Nat) → Except (List String) (Entries String Mark)
  | [] => .ok marks
  | (id, next) :: stack =>
    match _parent : (parents roles id)[next]? with
    -- All that the role inherits was looked at.
    | none => search roles (Entries.insert id .black marks) stack
    | some parent =>
      match _mark : Entries.get? parent marks with
      -- The way leads from this mention of the role back to it.
      | some .gray => .error (cycleTo parent (id :: stack.map (·.1)))
      | some .white =>
        search roles (Entries.insert parent .gray marks) ((parent, 0) :: (id, next + 1) :: stack)
      -- The role lies on no cycle, or it is unknown and inherits nothing.
      | _ => search roles marks ((id, next + 1) :: stack)
termination_by stack => (whiteCount marks, stepsLeft roles stack)
decreasing_by
  -- Leaving a role takes one of the steps; the marks may stay as they are.
  · refine Prod.Lex.right' _ (whiteCount_insert_le (by simp) id marks) ?_
    simp [stepsLeft]
  · exact Prod.Lex.left _ _ (whiteCount_insert_lt (by simp) _mark)
  · obtain ⟨_, -⟩ := List.getElem?_eq_some_iff.1 _parent
    refine Prod.Lex.right _ ?_
    simp [stepsLeft]
    omega

/-- Looks for a cycle from a role on, unless the role was met before. -/
def searchFrom (roles : Entries String Role) (marks : Entries String Mark) (id : String) :
    Except (List String) (Entries String Mark) :=
  if Entries.get? id marks = some .white then
    search roles (Entries.insert id .gray marks) [(id, 0)]
  else .ok marks

/-- Looks for a cycle from each role on. -/
def detectCycles (roles : Entries String Role) : Except (List String) (Entries String Mark) :=
  (Entries.keys roles).foldlM (searchFrom roles) (roles.map fun entry => (entry.1, .white))

/-- The graph of a source's roles, unless they inherit in a cycle. -/
def ofRoles (roles : Entries String Role) (maxDepth : Nat) : Except PolicyError RoleGraph :=
  match detectCycles roles with
  | .ok _ => .ok ⟨roles, maxDepth⟩
  | .error cycle => .error (.circularInheritance cycle)

/-- The graph of a list of roles, where the last definition of a name counts. -/
def ofList (roles : List Role) (maxDepth : Nat) : Except PolicyError RoleGraph :=
  ofRoles (Entries.ofList (roles.map fun role => (role.id, role))) maxDepth

/-- The role of a name. -/
def role? (graph : RoleGraph) (id : String) : Option Role :=
  Entries.get? id graph.roles

/-- The number of roles. -/
def size (graph : RoleGraph) : Nat :=
  graph.roles.length

/-! ### Expansion -/

/-- The known roles that were not seen. -/
def unseen (roles : Entries String Role) (seen : List String) : List String :=
  (Entries.keys roles).filter fun id => id ∉ seen

/-- Seeing a known role leaves fewer of them. -/
theorem length_unseen_cons_lt {roles : Entries String Role} {seen : List String} {id : String}
    (known : id ∈ Entries.keys roles) (fresh : id ∉ seen) :
    (unseen roles (id :: seen)).length < (unseen roles seen).length := by
  have split : unseen roles (id :: seen) = (unseen roles seen).filter (· ≠ id) := by
    simp only [unseen, List.filter_filter, List.mem_cons, not_or]
    exact List.filter_congr fun x _ => by simp
  rw [split]
  refine Nat.lt_of_le_of_ne (List.length_filter_le _ _) fun same => ?_
  have all := List.length_filter_eq_length_iff.1 same
  simpa using all id (by simp [unseen, known, fresh])

/-- Seeing an unknown role leaves as many known ones. -/
theorem unseen_cons_of_not_mem_keys {roles : Entries String Role} {id : String}
    (unknown : id ∉ Entries.keys roles) (seen : List String) :
    unseen roles (id :: seen) = unseen roles seen := by
  refine List.filter_congr fun x known => ?_
  simp [ne_of_mem_of_not_mem known unknown]

/-- Goes on with an expansion. The stack holds the roles that are to be added, each beside the
number of steps that lead to it. The roles `seen` were added before, the newest first. -/
def expandInto (graph : RoleGraph) (seen : List String) :
    List (String × Nat) → Except PolicyError (List String)
  | [] => .ok seen
  | (id, depth) :: stack =>
    -- The limit counts also for a role that was met before on a shorter way.
    if graph.maxDepth < depth then .error (.depthExceeded id graph.maxDepth)
    else if _fresh : id ∈ seen then expandInto graph seen stack
    else
      expandInto graph (id :: seen)
        ((parents graph.roles id).map (fun parent => (parent, depth + 1)) ++ stack)
termination_by stack => ((unseen graph.roles seen).length, stack.length)
decreasing_by
  · exact Prod.Lex.right _ (by simp)
  · by_cases known : id ∈ Entries.keys graph.roles
    · exact Prod.Lex.left _ _ (length_unseen_cons_lt known _fresh)
    · rw [unseen_cons_of_not_mem_keys known, parents_of_not_mem_keys known]
      exact Prod.Lex.right _ (by simp)

/-- The given roles with everything that they inherit, each once. -/
def expandAll (graph : RoleGraph) (ids : List String) : Except PolicyError (List String) :=
  (ids.foldlM (fun seen id => graph.expandInto seen [(id, 0)]) []).map List.reverse

/-- A role with everything that it inherits, each once. -/
def expand (graph : RoleGraph) (id : String) : Except PolicyError (List String) :=
  (graph.expandInto [] [(id, 0)]).map List.reverse

end RoleGraph

end AccessPolicy
