import AccessPolicy.Policy.Claims
import AccessPolicy.Proofs.Policy.Document

/-!
# Claims and environments that are written are read back

The well-known claims but for the roles are a list of fields (`Claims.optionals`), and claims are
read from an object if each of these fields is (`Claims.ofValue?_eq_some_iff`). Claims that were
read are plain: their well-known claims can be read again, and no further claim bears a well-known
name or a name twice (`Claims.plain_of_ofValue?`). What is written for plain claims is read as these
claims (`Claims.ofValue?_toValue`). But for the roles, it holds the same under each name as the
value that the claims were read from (`Claims.getD_knownFields`). Environments behave in the same
way.
-/

namespace AccessPolicy

open Entries

/-! ### Kinds of fields -/

/-- The seconds of an instant are the value that it was read from. -/
theorem ofInt_of_secondsInstant? {v : Value} {i : Instant} (h : secondsInstant? v = some i) :
    Value.ofInt i.seconds = v := by
  obtain ⟨seconds, hseconds, hunix⟩ := Option.bind_eq_some_iff.1 h
  have hv : v = .ofInt seconds := by
    unfold Value.integer? at hseconds
    split at hseconds
    next =>
      obtain rfl := Option.some.inj hseconds
      rfl
    next => cases hseconds
  unfold Instant.ofUnix? at hunix
  split at hunix
  next =>
    obtain rfl := Option.some.inj hunix
    exact hv.symm
  next => cases hunix

namespace FieldKind

/-- Texts. -/
def text : FieldKind String where
  read? := Value.text?
  write := .string
  write_of_read? := Value.string_of_text?
  isNull_write _ := rfl

/-- Instants, as seconds. -/
def seconds : FieldKind Instant where
  read? := secondsInstant?
  write i := .ofInt i.seconds
  write_of_read? := ofInt_of_secondsInstant?
  isNull_write _ := rfl

/-- Lists of texts. -/
def texts : FieldKind (List String) where
  read? := Value.texts?
  write := textList
  write_of_read? := Value.textList_of_texts?
  isNull_write _ := rfl

end FieldKind

/-- The fields that are kept of a value have distinct names if those of the value have. -/
theorem nodup_keys_filter {fields : Fields} (p : String × Value → Bool)
    (h : (Value.object fields).WellFormed) : (keys (fields.filter p)).Nodup := by
  rw [Value.WellFormed] at h
  exact h.1.sublist (List.filter_sublist.map _)

namespace Claims

variable {v : Value} {fields : Fields} {claims : Claims}

/-- The well-known claims but for the roles. -/
def optionals (claims : Claims) : List OptionalField :=
  [⟨"sub", .text, claims.sub⟩, ⟨"exp", .seconds, claims.exp⟩, ⟨"iss", .text, claims.iss⟩,
    ⟨"aud", .text, claims.aud⟩, ⟨"nbf", .seconds, claims.nbf⟩, ⟨"iat", .seconds, claims.iat⟩,
    ⟨"jti", .text, claims.jti⟩, ⟨"tid", .text, claims.tid⟩, ⟨"did", .text, claims.did⟩,
    ⟨"bid", .text, claims.bid⟩, ⟨"org", .text, claims.org⟩, ⟨"orgPath", .texts, claims.orgPath⟩]

/-- The claims are what some fields hold. -/
structure ReadFrom (fields : Fields) (claims : Claims) : Prop where
  /-- The well-known claims but for the roles. -/
  optionals : ∀ field ∈ claims.optionals, field.IsRead fields
  /-- The roles. -/
  roles : lenientRoles ((get? "roles" fields).getD .null) = claims.roles
  /-- All other claims. -/
  extra : (fields.filter fun entry => entry.1 ∉ knownNames) = claims.extra

/-- Claims are read from an object if each of its fields is read. -/
theorem ofValue?_eq_some_iff :
    ofValue? v = some claims ↔ ∃ fields, v = .object fields ∧ ReadFrom fields claims := by
  constructor
  · intro h
    -- The fields are read one after the other, and each of them has to be readable.
    simp only [ofValue?, ↓read_bind_eq_some_iff] at h
    obtain ⟨fields, hfields, _, hsub, _, hexp, _, hiss, _, haud, _, hnbf, _, hiat, _, hjti, _,
      htid, _, hdid, _, hbid, _, horg, _, hpath, hclaims⟩ := h
    obtain rfl := Option.some.inj hclaims
    have hv : v = .object fields := by
      cases v <;> cases hfields
      rfl
    refine ⟨fields, hv, ?_, rfl, rfl⟩
    simp only [optionals, List.forall_mem_cons]
    exact ⟨hsub, hexp, hiss, haud, hnbf, hiat, hjti, htid, hdid, hbid, horg, hpath,
      List.forall_mem_nil _⟩
  · rintro ⟨fields, rfl, hoptionals, hroles, hextra⟩
    simp only [optionals, List.forall_mem_cons] at hoptionals
    obtain ⟨hsub, hexp, hiss, haud, hnbf, hiat, hjti, htid, hdid, hbid, horg, hpath, -⟩ :=
      hoptionals
    simp only [ofValue?, ↓read_bind_eq_some_iff]
    refine ⟨fields, rfl, _, hsub, _, hexp, _, hiss, _, haud, _, hnbf, _, hiat, _, hjti, _, htid, _,
      hdid, _, hbid, _, horg, _, hpath, ?_⟩
    rw [hroles, hextra]
    rfl

/-! ### What is written -/

/-- Claims as they are read: what they hold can be read again, and further claims have names of
their own. -/
structure Plain (claims : Claims) : Prop where
  /-- The well-known claims can be read again; their instants are whole seconds. -/
  readable : ∀ field ∈ claims.optionals, field.Readable
  /-- No further claim bears a well-known name. -/
  fresh : ∀ name ∈ keys claims.extra, name ∉ knownNames
  /-- No name is borne twice. -/
  nodup : (keys claims.extra).Nodup

/-- Claims that were read are plain. -/
theorem plain_of_readFrom (hv : (Value.object fields).WellFormed) (h : ReadFrom fields claims) :
    claims.Plain where
  readable field hfield := (h.optionals field hfield).readable
  fresh name hname := by
    rw [← h.extra, keys, List.mem_map] at hname
    obtain ⟨entry, hentry, rfl⟩ := hname
    simpa using (List.mem_filter.1 hentry).2
  nodup := by
    rw [← h.extra]
    exact nodup_keys_filter _ hv

theorem plain_of_ofValue? (hv : v.WellFormed) (h : ofValue? v = some claims) : claims.Plain := by
  obtain ⟨fields, rfl, hread⟩ := ofValue?_eq_some_iff.1 h
  exact plain_of_readFrom hv hread

/-- The well-known names with what is written under them, if anything is. -/
def slots (claims : Claims) : Entries String (Option Value) :=
  (claims.optionals.map fun field => (field.name, field.value?)) ++
    [("roles", some (textList claims.roles))]

theorem nodup_keys_slots (claims : Claims) : (keys claims.slots).Nodup := by
  have hnames : knownNames.Nodup := by decide
  exact hnames

/-- A well-known claim is looked up by its slot alone. -/
theorem get?_knownFields (claims : Claims) (name : String) :
    get? name claims.knownFields = (get? name claims.slots).join := by
  have hknown : claims.knownFields =
      claims.slots.flatMap fun slot => (slot.2.map (slot.1, ·)).toList := by
    simp [knownFields, slots, optionals, OptionalField.value?, FieldKind.text, FieldKind.seconds,
      FieldKind.texts, textField, secondsField, Function.comp_def]
  rw [hknown]
  exact get?_flatMap_toList claims.nodup_keys_slots name

theorem get?_knownFields_of_mem_slots {slot : String × Option Value} (h : slot ∈ claims.slots) :
    get? slot.1 claims.knownFields = slot.2 := by
  rw [get?_knownFields, (get?_eq_some_iff_mem claims.nodup_keys_slots).2 h]
  rfl

/-- What is written under the name of a field is what the field holds. -/
theorem get?_optional {field : OptionalField} (h : field ∈ claims.optionals) :
    get? field.name claims.knownFields = field.value? := by
  have hslot : (field.name, field.value?) ∈ claims.slots :=
    List.mem_append_left _ (List.mem_map_of_mem h)
  exact get?_knownFields_of_mem_slots hslot

/-- The roles are always written. -/
theorem get?_roles (claims : Claims) :
    get? "roles" claims.knownFields = some (textList claims.roles) := by
  have hslot : ("roles", some (textList claims.roles)) ∈ claims.slots :=
    List.mem_append_right _ List.mem_cons_self
  exact get?_knownFields_of_mem_slots hslot

/-- Only well-known names are written in front of the further claims. -/
theorem get?_knownFields_of_not_mem {name : String} (h : name ∉ knownNames) :
    get? name claims.knownFields = none := by
  rw [get?_knownFields, get?_of_not_mem_keys h]
  rfl

/-- The well-known names are those of the fields and that of the roles. -/
theorem knownNames_eq (claims : Claims) :
    knownNames = claims.optionals.map OptionalField.name ++ ["roles"] :=
  rfl

theorem name_mem_knownNames {field : OptionalField} (h : field ∈ claims.optionals) :
    field.name ∈ knownNames := by
  rw [knownNames_eq claims]
  exact List.mem_append_left _ (List.mem_map_of_mem h)

theorem exists_optional (claims : Claims) {name : String} (h : name ∈ knownNames)
    (hname : name ≠ "roles") : ∃ field ∈ claims.optionals, field.name = name := by
  rw [knownNames_eq claims, List.mem_append, List.mem_singleton] at h
  exact List.mem_map.1 (h.resolve_right hname)

/-- Plain claims are written as their well-known claims and then all others. -/
theorem toValue_eq (h : claims.Plain) :
    claims.toValue = .object (claims.knownFields ++ claims.extra) := by
  -- Names that the well-known claims do not bear are put behind them.
  have hnew : ∀ name ∈ keys claims.extra, name ∉ keys claims.knownFields := by
    intro name hname
    rw [mem_keys_iff, get?_knownFields_of_not_mem (h.fresh name hname)]
    rintro ⟨_, ⟨⟩⟩
  rw [toValue, insertAll_of_disjoint hnew h.nodup]

/-- A well-known claim is looked up among the well-known claims only. -/
theorem get?_of_mem_knownNames (h : claims.Plain) {name : String} (hname : name ∈ knownNames) :
    get? name (claims.knownFields ++ claims.extra) = get? name claims.knownFields := by
  rw [get?_append, get?_of_not_mem_keys fun hextra => h.fresh name hextra hname, Option.or_none]

theorem lenientRoles_textList (roles : List String) : lenientRoles (textList roles) = roles := by
  simp [lenientRoles, textList, List.filterMap_map, Function.comp_def, Value.text?]

/-- What is written for plain claims is read as these claims. -/
theorem ofValue?_toValue (h : claims.Plain) : ofValue? claims.toValue = some claims := by
  refine ofValue?_eq_some_iff.2 ⟨_, toValue_eq h, ?optionals, ?roles, ?extra⟩
  case optionals =>
    intro field hfield
    refine (h.readable field hfield).isRead ?_
    rw [get?_of_mem_knownNames h (name_mem_knownNames hfield), get?_optional hfield]
  case roles =>
    rw [get?_of_mem_knownNames h (by decide), get?_roles, Option.getD_some, lenientRoles_textList]
  case extra =>
    -- All names in front are well known, and none behind them is.
    rw [List.filter_append, List.filter_eq_nil_iff.2, List.filter_eq_self.2, List.nil_append]
    · intro entry hentry
      simpa using h.fresh entry.1 (List.mem_map_of_mem hentry)
    · intro entry hentry hnew
      have hkey : entry.1 ∈ keys claims.knownFields := List.mem_map_of_mem hentry
      rw [mem_keys_iff, get?_knownFields_of_not_mem (by simpa using hnew)] at hkey
      obtain ⟨_, ⟨⟩⟩ := hkey

/-- But for the roles, plain claims are written under each name as what they were read from, where
a name that is missing counts as null. -/
theorem getD_knownFields (h : claims.Plain) (hread : ReadFrom fields claims) {name : String}
    (hname : name ≠ "roles") :
    (get? name (claims.knownFields ++ claims.extra)).getD .null =
      (get? name fields).getD .null := by
  by_cases hknown : name ∈ knownNames
  · -- What a field was read from is written for it, whatever its kind.
    obtain ⟨field, hfield, rfl⟩ := exists_optional claims hknown hname
    rw [get?_of_mem_knownNames h hknown, get?_optional hfield,
      (hread.optionals field hfield).getD_value?]
  · rw [get?_append, get?_knownFields_of_not_mem hknown, Option.none_or, ← hread.extra,
      get?_filter (fun name => decide (name ∉ knownNames)), if_pos (decide_eq_true hknown)]

end Claims

/-! ### Environments -/

namespace Environment

variable {v : Value} {fields : Fields} {environment : Environment}

theorem ofValue?_eq_some_iff :
    ofValue? v = some environment ↔ ∃ fields, v = .object fields ∧
      optional? tokenName (Value.nullable? Value.text?) none fields = some environment.token ∧
      (fields.filter fun entry => entry.1 ≠ tokenName) = environment.extra := by
  constructor
  · intro h
    simp only [ofValue?, ↓read_bind_eq_some_iff] at h
    obtain ⟨fields, hfields, _, htoken, henvironment⟩ := h
    obtain rfl := Option.some.inj henvironment
    have hv : v = .object fields := by
      cases v <;> cases hfields
      rfl
    exact ⟨fields, hv, htoken, rfl⟩
  · rintro ⟨fields, rfl, htoken, hextra⟩
    simp only [ofValue?, ↓read_bind_eq_some_iff]
    refine ⟨fields, rfl, _, htoken, ?_⟩
    rw [hextra]
    rfl

/-- The value of the token, which is null without one. -/
def tokenValue (environment : Environment) : Value :=
  (environment.token.map Value.string).getD .null

/-- An environment as it is read: nothing else bears the name of the token, and no name is borne
twice. -/
structure Plain (environment : Environment) : Prop where
  /-- Nothing else bears the name of the token. -/
  fresh : tokenName ∉ keys environment.extra
  /-- No name is borne twice. -/
  nodup : (keys environment.extra).Nodup

/-- An environment that was read is plain. -/
theorem plain_of_ofValue? (hv : v.WellFormed) (h : ofValue? v = some environment) :
    environment.Plain := by
  obtain ⟨fields, rfl, -, hextra⟩ := ofValue?_eq_some_iff.1 h
  refine ⟨fun htoken => ?_, hextra ▸ nodup_keys_filter _ hv⟩
  rw [← hextra, keys, List.mem_map] at htoken
  obtain ⟨entry, hentry, hname⟩ := htoken
  simpa [hname] using (List.mem_filter.1 hentry).2

/-- A plain environment is written as its token and then everything else. -/
theorem toValue_eq (h : environment.Plain) :
    environment.toValue = .object ((tokenName, environment.tokenValue) :: environment.extra) := by
  have hnew : ∀ name ∈ keys environment.extra,
      name ∉ keys [(tokenName, environment.tokenValue)] := by
    intro name hname hmem
    obtain rfl : name = tokenName := by simpa [keys] using hmem
    exact h.fresh hname
  exact congrArg Value.object (insertAll_of_disjoint hnew h.nodup)

/-- What is written for a plain environment is read as this environment. -/
theorem ofValue?_toValue (h : environment.Plain) :
    ofValue? environment.toValue = some environment := by
  refine ofValue?_eq_some_iff.2 ⟨_, toValue_eq h, ?_, ?_⟩
  · rw [optional?_of_get? (v := environment.tokenValue) (by simp [get?]), tokenValue]
    cases environment.token <;> rfl
  · rw [List.filter_cons_of_neg (by simp), List.filter_eq_self]
    intro entry hentry
    have hname : entry.1 ∈ keys environment.extra := List.mem_map_of_mem hentry
    simpa using fun heq : entry.1 = tokenName => h.fresh (heq ▸ hname)

/-- A plain environment is written under each name as what it was read from, where a name that is
missing counts as null. -/
theorem getD_toValue (hread : ofValue? (.object fields) = some environment) (name : String) :
    (get? name ((tokenName, environment.tokenValue) :: environment.extra)).getD .null =
      (get? name fields).getD .null := by
  obtain ⟨_, ⟨⟩, htoken, hextra⟩ := ofValue?_eq_some_iff.1 hread
  by_cases hname : tokenName = name
  · subst hname
    rw [← getD_of_optional? Value.string_of_text? htoken]
    simp [get?, tokenValue]
  · have hkept : decide (name ≠ tokenName) = true := decide_eq_true (Ne.symm hname)
    rw [get?, if_neg hname, ← hextra, get?_filter (fun name => decide (name ≠ tokenName)),
      if_pos hkept]

end Environment

end AccessPolicy
