import AccessPolicy.Policy.Request
import AccessPolicy.Proofs.Decision.Matching
import AccessPolicy.Proofs.Policy.Claims

/-!
# What expressions see of a request

A request keeps its claims and its circumstances in fields of their own kinds, and expressions see
what is written for them again. Nothing changes on the way but that roles which are no texts are
dropped: every other claim and every circumstance has the value that the document of the request
gives it, and null if the document gives none (`Request.ofValue_toContext`). No further variable
of the document hides them.
-/

namespace AccessPolicy

open Entries

/-! ### Entries of documents -/

namespace Value

/-- What an object holds under a name, and null if it holds nothing there or is no object. -/
def entry (name : String) : Value → Value
  | .object fields => (get? name fields).getD .null
  | _ => .null

theorem wellFormed_of_get? {fields : Fields} {name : String} {v : Value}
    (h : FieldsWellFormed fields) (found : get? name fields = some v) : v.WellFormed := by
  induction fields with
  | nil => cases found
  | cons entry rest ih =>
    obtain ⟨k, w⟩ := entry
    rw [FieldsWellFormed] at h
    rw [get?] at found
    split at found
    next => exact Option.some.inj found ▸ h.1
    next => exact ih h.2 found

end Value

namespace Request

variable {moment : Moment} {fields : Fields} {request : Request}

/-! ### Reading requests -/

/-- A field that may be missing is read of some value, which holds what the field holds. -/
theorem exists_of_readField {α : Type} {name : String} {r : Value → Option α} {default a : α}
    (hdefault : r (.object []) = some default) (hfields : Value.FieldsWellFormed fields)
    (h : readField name r default fields = .ok a) :
    ∃ v : Value, v.WellFormed ∧ r v = some a ∧
      ∀ key, v.entry key = ((Value.object fields).entry name).entry key := by
  unfold readField optional? at h
  cases hget : get? name fields with
  | none =>
    rw [hget] at h
    obtain rfl := Except.ok.inj h
    -- Without the field, everything is as in an empty object.
    refine ⟨.object [], by simp [Value.WellFormed, Value.FieldsWellFormed, Entries.keys], hdefault,
      ?_⟩
    intro key
    rw [Value.entry.eq_1 name fields, hget]
    rfl
  | some v =>
    rw [hget] at h
    cases hread : r v with
    | none =>
      simp only [hread] at h
      cases h
    | some b =>
      simp only [hread] at h
      obtain rfl := Except.ok.inj h
      refine ⟨v, Value.wellFormed_of_get? hfields hget, hread, fun key => ?_⟩
      rw [Value.entry.eq_1 name fields, hget]
      rfl

/-- A request is read field by field. -/
theorem ofValue_eq_ok_iff {v : Value} :
    ofValue moment v = .ok request ↔ ∃ fields, v = .object fields ∧
      readField claimsName Claims.ofValue? {} fields = .ok request.claims ∧
      readField environmentName Environment.ofValue? {} fields = .ok request.environment ∧
      readResource ((get? resourceName fields).getD .null) = .ok request.resource ∧
      request.toMoment = moment ∧ request.keys = none ∧
      request.extra = fields.filter fun entry =>
        entry.1 ∉ [claimsName, environmentName, resourceName] := by
  constructor
  · intro h
    unfold ofValue at h
    split at h
    next fields =>
      obtain ⟨claims, hclaims, h⟩ := Decision.bind_eq_ok_iff.1 h
      obtain ⟨environment, henvironment, h⟩ := Decision.bind_eq_ok_iff.1 h
      obtain ⟨resource, hresource, h⟩ := Decision.bind_eq_ok_iff.1 h
      obtain rfl := Except.ok.inj h
      exact ⟨fields, rfl, hclaims, henvironment, hresource, rfl, rfl, rfl⟩
    next => cases h
  · rintro ⟨fields, rfl, hclaims, henvironment, hresource, hmoment, hkeys, hextra⟩
    obtain ⟨_, claims, environment, resource, _, extra⟩ := request
    obtain rfl : _ = moment := hmoment
    obtain rfl : _ = none := hkeys
    obtain rfl : extra = _ := hextra
    exact Decision.bind_eq_ok_iff.2 ⟨_, hclaims, Decision.bind_eq_ok_iff.2
      ⟨_, henvironment, Decision.bind_eq_ok_iff.2 ⟨_, hresource, rfl⟩⟩⟩

/-! ### Variables and keys -/

/-- The value of a key of the claims or of the environment. -/
def keyValue? (request : Request) (key : Key) : Option Value :=
  (resolver.find? key).map fun handler => handler.value key request.toContext.toScope

/-- Further variables do not hide those of the request itself. -/
theorem get?_bindings (request : Request) :
    get? claimsName request.toContext.bindings = some request.claims.toValue ∧
      get? environmentName request.toContext.bindings = some request.environment.toValue ∧
      get? resourceName request.toContext.bindings =
        some ((request.resource.map Value.string).getD .null) := by
  have hnames : claimsName ≠ environmentName ∧ claimsName ≠ resourceName ∧
      environmentName ≠ resourceName := by decide
  simp [toContext, insertAll, get?_insert_self, get?_insert_of_ne, hnames]

/-- The handler of the claims answers for all their names. -/
theorem keyValue?_claims {claimFields : Fields} (h : request.claims.toValue = .object claimFields)
    (name : String) :
    request.keyValue? ⟨"claims", name⟩ = some ((get? name claimFields).getD .null) := by
  have hfound : resolver.find? ⟨"claims", name⟩ = some (.variableField claimsName) := by
    by_cases hname : "*" = name <;>
      simp [resolver, KeyResolver.ofHandlers, KeyResolver.find?, ofList, insertAll, Entries.insert,
        get?, Key.wildcard, hname]
  have hvariable := (get?_bindings request).1
  rw [h] at hvariable
  rw [keyValue?, hfound]
  simp [KeyHandler.variableField, hvariable]

/-- The handler of the environment answers for all names in both of its namespaces. -/
theorem keyValue?_environment {space : String} (hspace : space ∈ ["env", "environment"])
    {environmentFields : Fields} (h : request.environment.toValue = .object environmentFields)
    (name : String) :
    request.keyValue? ⟨space, name⟩ = some ((get? name environmentFields).getD .null) := by
  have hfound : resolver.find? ⟨space, name⟩ = some (.variableField environmentName) := by
    simp only [List.mem_cons, List.not_mem_nil, or_false] at hspace
    rcases hspace with rfl | rfl <;> by_cases hname : "*" = name <;>
      simp [resolver, KeyResolver.ofHandlers, KeyResolver.find?, ofList, insertAll, Entries.insert,
        get?, Key.wildcard, hname]
  have hvariable := (get?_bindings request).2.1
  rw [h] at hvariable
  rw [keyValue?, hfound]
  simp [KeyHandler.variableField, hvariable]

/-- The variable with the resource holds what the document holds. -/
theorem resource_of_readResource {v : Value} {resource : Option String}
    (h : readResource v = .ok resource) : (resource.map Value.string).getD .null = v := by
  unfold readResource at h
  split at h
  next => obtain rfl := Except.ok.inj h; rfl
  next => obtain rfl := Except.ok.inj h; rfl
  next => cases h

/-- Expressions see the claims, the circumstances and the resource that the document of a request
holds. A claim other than the roles and a circumstance have the value that the document gives
them, and null if it gives none. The roles are the texts of their list in order, without anything
else in it; the roles of the decision are these and the implicit one, each where it appears first.
Whatever else the document holds makes no difference to these variables, nor to whether it is the
document of a request. -/
theorem ofValue_toContext {d : Value} (hd : d.WellFormed) (h : ofValue moment d = .ok request) :
    (∀ name ≠ "roles", request.keyValue? ⟨"claims", name⟩ =
        some ((d.entry claimsName).entry name)) ∧
      request.keyValue? ⟨"claims", "roles"⟩ =
        some (textList (lenientRoles ((d.entry claimsName).entry "roles"))) ∧
      (∀ implicitRole, request.roles implicitRole =
        (lenientRoles ((d.entry claimsName).entry "roles") ++ [implicitRole]).eraseDups) ∧
      (∀ space ∈ ["env", "environment"], ∀ name, request.keyValue? ⟨space, name⟩ =
        some ((d.entry environmentName).entry name)) ∧
      get? resourceName request.toContext.bindings = some (d.entry resourceName) ∧
      request.toContext.keys = none ∧
      ∃ fields, d = .object fields ∧ ∀ (other : Fields) (later : Moment),
        (∀ name ∈ [claimsName, environmentName, resourceName],
          get? name other = get? name fields) →
        ∃ next, ofValue later (.object other) = .ok next ∧
          ∀ name ∈ [claimsName, environmentName, resourceName],
            get? name next.toContext.bindings = get? name request.toContext.bindings := by
  obtain ⟨fields, rfl, hclaims, henvironment, hresource, -, hkeys, -⟩ := ofValue_eq_ok_iff.1 h
  rw [Value.WellFormed] at hd
  obtain ⟨claimsValue, hclaimsValue, hreadClaims, hclaimsEntry⟩ :=
    exists_of_readField (r := Claims.ofValue?) rfl hd.2 hclaims
  obtain ⟨environmentValue, henvironmentValue, hreadEnvironment, henvironmentEntry⟩ :=
    exists_of_readField (r := Environment.ofValue?) rfl hd.2 henvironment
  -- The claims are written as they were read, but for the roles.
  obtain ⟨claimFields, rfl, hread⟩ := Claims.ofValue?_eq_some_iff.1 hreadClaims
  have hplain := Claims.plain_of_readFrom hclaimsValue hread
  have hroles : lenientRoles ((Value.entry claimsName (.object fields)).entry "roles") =
      request.claims.roles := by
    rw [← hclaimsEntry]
    exact hread.roles
  obtain ⟨environmentFields, rfl, -⟩ := Environment.ofValue?_eq_some_iff.1 hreadEnvironment
  have hplainEnvironment := Environment.plain_of_ofValue? henvironmentValue hreadEnvironment
  have hbindings := get?_bindings request
  refine ⟨fun name hname => ?_, ?_, fun implicitRole => ?_, fun space hspace name => ?_, ?_, hkeys,
    fields, rfl, fun other later hother => ?_⟩
  · rw [keyValue?_claims (Claims.toValue_eq hplain), Claims.getD_knownFields hplain hread hname,
      ← hclaimsEntry]
    rfl
  · rw [keyValue?_claims (Claims.toValue_eq hplain), hroles,
      Claims.get?_of_mem_knownNames hplain (by decide), Claims.get?_roles]
    rfl
  · rw [hroles, roles]
  · rw [keyValue?_environment hspace (Environment.toValue_eq hplainEnvironment),
      Environment.getD_toValue hreadEnvironment, ← henvironmentEntry]
    rfl
  · rw [hbindings.2.2, resource_of_readResource hresource]
    rfl
  · -- Reading looks up the three fields only, so it finds the same in the other document.
    obtain ⟨hsameClaims, hsameEnvironment, hsameResource⟩ :
        get? claimsName other = get? claimsName fields ∧
          get? environmentName other = get? environmentName fields ∧
          get? resourceName other = get? resourceName fields :=
      ⟨hother _ (by simp), hother _ (by simp), hother _ (by simp)⟩
    let next : Request :=
      { request with
        toMoment := later
        extra := other.filter fun entry =>
          entry.1 ∉ [claimsName, environmentName, resourceName] }
    have hnext : ofValue later (.object other) = .ok next := by
      refine ofValue_eq_ok_iff.2 ⟨other, rfl, ?_, ?_, ?_, rfl, hkeys, rfl⟩
      · rw [readField, optional?, hsameClaims]
        exact hclaims
      · rw [readField, optional?, hsameEnvironment]
        exact henvironment
      · rw [hsameResource]
        exact hresource
    refine ⟨next, hnext, ?_⟩
    have hbindingsNext := get?_bindings next
    intro name hname
    simp only [List.mem_cons, List.not_mem_nil, or_false] at hname
    rcases hname with rfl | rfl | rfl
    · exact hbindingsNext.1.trans hbindings.1.symm
    · exact hbindingsNext.2.1.trans hbindings.2.1.symm
    · exact hbindingsNext.2.2.trans hbindings.2.2.symm

/-- An instant, a claim that is null, roles that are no texts, and entries beside the claims that
bear the names of claims. -/
theorem ofValue_toContext_beside :
    let claims : Value := .object [("exp", .ofInt 1700000000), ("org", .null),
      ("roles", .array [.string "sales", .ofInt 3, .string "sales"]),
      ("features", .array [.bool true])]
    let d : Value := .object [("roles", .array [.string "admin"]), ("claims", claims),
      ("environment", .object [("ip", .string "10.0.0.1")]), ("Token", .string "t"),
      ("org", .string "root"), ("resource", .null)]
    d.WellFormed ∧ ∃ request, ofValue Moment.epoch d = .ok request ∧
      request.keyValue? ⟨"claims", "exp"⟩ = some (.ofInt 1700000000) ∧
      request.keyValue? ⟨"claims", "org"⟩ = some .null ∧
      request.keyValue? ⟨"claims", "features"⟩ = some (.array [.bool true]) ∧
      request.keyValue? ⟨"claims", "roles"⟩ = some (.array [.string "sales", .string "sales"]) ∧
      request.roles "anonymous" = ["sales", "anonymous"] ∧
      request.keyValue? ⟨"env", "Token"⟩ = some .null ∧
      request.keyValue? ⟨"environment", "ip"⟩ = some (.string "10.0.0.1") := by
  intro claims d
  have hd : d.WellFormed := by
    simp [d, claims, Value.WellFormed, Value.AllWellFormed, Value.FieldsWellFormed, Entries.keys,
      Value.ofInt]
  refine ⟨hd, _, rfl, ?_⟩
  obtain ⟨hclaims, hclaimedRoles, hroles, henvironment, -⟩ :=
    ofValue_toContext hd (show ofValue Moment.epoch d = .ok _ from rfl)
  exact ⟨hclaims "exp" (by decide), hclaims "org" (by decide), hclaims "features" (by decide),
    hclaimedRoles, (hroles "anonymous").trans (by decide), henvironment "env" (by simp) "Token",
    henvironment "environment" (by simp) "ip"⟩

end Request

end AccessPolicy
