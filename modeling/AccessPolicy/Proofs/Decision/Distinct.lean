import AccessPolicy.Decision.Matching
import AccessPolicy.Proofs.Policy.Source

/-!
# Once each

Decisions list actions and consider policies once each: those that stand first among their likes.
No action is lost by that, and neither is a policy of a source that was made of lists, where a
name stands for one policy only (`PolicySource.mem_distinctPolicies_ofLists`).
-/

namespace AccessPolicy

section First

variable {α κ : Type} [DecidableEq κ] (key : α → κ)

/-- The elements that stand first under their keys come from the list, every key of the list is
among theirs, and no two of them share a key. -/
theorem eraseDupsBy_key : (l : List α) →
    (∀ a ∈ l.eraseDupsBy (fun a b => key a = key b), a ∈ l) ∧
      (∀ a ∈ l, ∃ b ∈ l.eraseDupsBy (fun a b => key a = key b), key b = key a) ∧
      (l.eraseDupsBy (fun a b => key a = key b)).Pairwise (fun a b => key a ≠ key b)
  | [] => by simp
  | a :: l => by
    -- What follows the first element has other keys than it.
    have hfilter : (l.filter fun b => decide (decide (key b = key a) = false)) =
        l.filter fun b => key b ≠ key a :=
      List.filter_congr fun b _ => by simp
    obtain ⟨hsub, hkeys, hpairs⟩ := eraseDupsBy_key (l.filter fun b => key b ≠ key a)
    rw [List.eraseDupsBy_cons, hfilter]
    refine ⟨?_, ?_, ?_⟩
    · intro b hb
      rcases List.mem_cons.1 hb with rfl | hb
      · exact List.mem_cons_self
      · exact List.mem_cons_of_mem a (List.mem_filter.1 (hsub b hb)).1
    · intro b hb
      by_cases hba : key b = key a
      · exact ⟨a, List.mem_cons_self, hba.symm⟩
      · have hbl : b ∈ l := (List.mem_cons.1 hb).resolve_left fun h => hba (congrArg key h)
        obtain ⟨c, hc, hcb⟩ := hkeys b (List.mem_filter.2 ⟨hbl, by simpa using hba⟩)
        exact ⟨c, List.mem_cons_of_mem a hc, hcb⟩
    · refine List.pairwise_cons.2 ⟨fun b hb => ?_, hpairs⟩
      have hba := (List.mem_filter.1 (hsub b hb)).2
      exact fun h => (of_decide_eq_true hba) h.symm
termination_by l => l.length
decreasing_by
  exact Nat.lt_succ_of_le (List.length_filter_le _ l)

end First

/-- The names that appear first among their likes differ. -/
theorem nodup_eraseDups (names : List String) : names.eraseDups.Nodup := by
  have hbeq : (fun a b : String => a == b) = fun a b => decide (a = b) := by
    funext a b
    exact beq_eq_decide a b
  rw [List.eraseDups, hbeq]
  exact (eraseDupsBy_key id names).2.2

/-- The actions of a list of statements are listed once each. -/
theorem nodup_distinctActions (statements : List Statement) :
    (distinctActions statements).Nodup :=
  nodup_eraseDups _

theorem mem_distinctActions {statements : List Statement} {action : String} :
    action ∈ distinctActions statements ↔
      ∃ statement ∈ statements, action ∈ statement.actions := by
  rw [distinctActions, List.mem_eraseDups, List.mem_flatMap]

/-- No two policies of the list share a name, so each of them counts once. -/
theorem nodup_distinctPolicies (policies : List Policy) : (distinctPolicies policies).Nodup :=
  (eraseDupsBy_key Policy.id policies).2.2.imp fun h same => h (congrArg Policy.id same)

/-- Where a name stands for one policy only, no policy is left out. -/
theorem mem_distinctPolicies {policies : List Policy}
    (h : ∀ p ∈ policies, ∀ q ∈ policies, p.id = q.id → p = q) {policy : Policy} :
    policy ∈ distinctPolicies policies ↔ policy ∈ policies := by
  obtain ⟨hsub, hkeys, -⟩ := eraseDupsBy_key Policy.id policies
  constructor
  · exact hsub policy
  · intro hp
    obtain ⟨q, hq, hid⟩ := hkeys policy hp
    rwa [← h q (hsub q hq) policy hp hid]

/-- The policies of some roles, once each, are those that one of the roles refers to. -/
theorem PolicySource.mem_distinctPolicies_ofLists {policies : List Policy} {roles : List Role}
    {ids : List String} {policy : Policy} :
    policy ∈ distinctPolicies (ids.flatMap (ofLists policies roles).policiesOfRole) ↔
      policy ∈ Held policies roles {id | id ∈ ids} := by
  refine (mem_distinctPolicies fun p hp q hq => ?_).trans mem_flatMap_policiesOfRole
  exact eq_of_mem_held (mem_flatMap_policiesOfRole.1 hp) (mem_flatMap_policiesOfRole.1 hq)

/-- The roles of a caller are the claimed ones and the implicit one. -/
theorem Request.mem_roles {request : Request} {implicitRole id : String} :
    id ∈ request.roles implicitRole ↔ id ∈ request.claims.roles ∨ id = implicitRole := by
  rw [roles, List.mem_eraseDups, List.mem_append, List.mem_singleton]

end AccessPolicy
