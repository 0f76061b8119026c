import AccessPolicy.Policy.Config
import AccessPolicy.Proofs.Entries

/-!
# Which resolver answers

A tree of resolvers is put together (`KeyResolver.Setup`) by registering handlers and by naming the
resolvers that are asked next. Asking the tree goes through what its resolvers register in
depth-first order, each resolver before its delegates (`KeyResolver.Setup.find?_resolver`): the
first one that registers the key or its namespace answers
(`KeyResolver.Setup.find?_resolver_precedence`). What comes last in this order is only asked for
keys that nobody before knows, and this is where engines have the keys of requests and the standard
library.
-/

namespace AccessPolicy

namespace KeyResolver

/-! ### Chains -/

/-- Further resolvers are asked for what the ones before do not know. -/
theorem findAmong?_append (key : Key) (resolvers more : List KeyResolver) :
    findAmong? key (resolvers ++ more) = (findAmong? key resolvers).or (findAmong? key more) := by
  induction resolvers with
  | nil => rfl
  | cons resolver rest ih => rw [List.cons_append, findAmong?, ih, findAmong?, Option.or_assoc]

/-- Resolvers that come behind others do not change what those find. -/
theorem findAmong?_append_of_eq_some {key : Key} {resolvers : List KeyResolver}
    {handler : KeyHandler} (h : findAmong? key resolvers = some handler)
    (more : List KeyResolver) : findAmong? key (resolvers ++ more) = some handler := by
  rw [findAmong?_append, h, Option.some_or]

/-! ### Trees -/

/-- How a tree of resolvers is put together. -/
inductive Setup where
  /-- Handlers that are registered one after the other, and what is asked next, in order. -/
  | node (registrations : List (Key × KeyHandler)) (delegates : List Setup)

namespace Setup

mutual

/-- The tree that is put together. -/
def resolver : Setup → KeyResolver
  | .node registrations delegates => .node (Entries.ofList registrations) (resolvers delegates)

/-- The trees of some delegates, in order. -/
def resolvers : List Setup → List KeyResolver
  | [] => []
  | setup :: rest => setup.resolver :: resolvers rest

end

mutual

/-- What the resolvers of a tree register, each of them before its delegates. -/
def registered : Setup → List (List (Key × KeyHandler))
  | .node registrations delegates => registrations :: registeredAmong delegates

/-- What the resolvers of several trees register, one tree after the other. -/
def registeredAmong : List Setup → List (List (Key × KeyHandler))
  | [] => []
  | setup :: rest => setup.registered ++ registeredAmong rest

end

/-- The setup with one more delegate, which is asked last. -/
def delegate : Setup → Setup → Setup
  | .node registrations delegates, last => .node registrations (delegates ++ [last])

theorem registeredAmong_append (setups more : List Setup) :
    registeredAmong (setups ++ more) = registeredAmong setups ++ registeredAmong more := by
  induction setups with
  | nil => rfl
  | cons setup rest ih => simp only [List.cons_append, registeredAmong, ih, List.append_assoc]

/-- The last delegate comes behind the whole tree. -/
theorem registered_delegate (setup last : Setup) :
    (setup.delegate last).registered = setup.registered ++ last.registered := by
  cases setup with
  | node registrations delegates =>
    simp [delegate, registered, registeredAmong_append, registeredAmong]

/-! ### Answers -/

variable {registrations : List (Key × KeyHandler)} {key : Key} {handler : KeyHandler}

/-- A handler is the last one that is registered under a key. -/
def Registers (registrations : List (Key × KeyHandler)) (key : Key) (handler : KeyHandler) :
    Prop :=
  ∃ before after, registrations = before ++ (key, handler) :: after ∧ key ∉ Entries.keys after

/-- A resolver registers a key itself, or the whole namespace of it. -/
def Knows (registrations : List (Key × KeyHandler)) (key : Key) : Prop :=
  key ∈ Entries.keys registrations ∨ key.wildcard ∈ Entries.keys registrations

/-- A resolver has a handler for a key: the one of the key itself, or the one of the namespace if
the key is not registered. -/
def Answers (registrations : List (Key × KeyHandler)) (key : Key) (handler : KeyHandler) : Prop :=
  Registers registrations key handler ∨
    key ∉ Entries.keys registrations ∧ Registers registrations key.wildcard handler

/-- The handler that a resolver itself has for a key. -/
def own? (key : Key) (registrations : List (Key × KeyHandler)) : Option KeyHandler :=
  (Entries.get? key (Entries.ofList registrations)).or
    (Entries.get? key.wildcard (Entries.ofList registrations))

theorem own?_eq_some_iff : own? key registrations = some handler ↔
    Answers registrations key handler := by
  rw [own?, Option.or_eq_some_iff, Entries.get?_ofList_eq_some_iff,
    Entries.get?_ofList_eq_none_iff, Entries.get?_ofList_eq_some_iff, Answers, Registers, Registers]

theorem own?_eq_none_iff : own? key registrations = none ↔ ¬ Knows registrations key := by
  rw [own?, Option.or_eq_none_iff, Entries.get?_ofList_eq_none_iff,
    Entries.get?_ofList_eq_none_iff, Knows, not_or]

mutual

/-- A tree is asked by going through what its resolvers register. -/
theorem find?_resolver (key : Key) : (setup : Setup) →
    setup.resolver.find? key = setup.registered.findSome? (own? key)
  | .node registrations delegates => by
    -- The delegates are asked only if the resolver itself has no handler.
    rw [resolver, find?, registered, List.findSome?_cons, findAmong?_resolvers key delegates, own?]
    cases (Entries.get? key (Entries.ofList registrations)).or
      (Entries.get? key.wildcard (Entries.ofList registrations)) <;> rfl

theorem findAmong?_resolvers (key : Key) : (setups : List Setup) →
    findAmong? key (resolvers setups) = (registeredAmong setups).findSome? (own? key)
  | [] => rfl
  | setup :: rest => by
    rw [resolvers, findAmong?, registeredAmong, List.findSome?_append, find?_resolver key setup,
      findAmong?_resolvers key rest]

end

/-- The first resolver that knows a key answers for the tree. -/
theorem find?_resolver_eq_some_iff (setup : Setup) (key : Key) (handler : KeyHandler) :
    setup.resolver.find? key = some handler ↔
      ∃ before own after, setup.registered = before ++ own :: after ∧
        (∀ other ∈ before, ¬ Knows other key) ∧ Answers own key handler := by
  rw [find?_resolver, List.findSome?_eq_some_iff]
  simp only [own?_eq_some_iff, own?_eq_none_iff, and_comm (a := Answers _ _ _)]

/-- A tree has no handler for a key that none of its resolvers knows. -/
theorem find?_resolver_eq_none_iff (setup : Setup) (key : Key) :
    setup.resolver.find? key = none ↔ ∀ own ∈ setup.registered, ¬ Knows own key := by
  rw [find?_resolver, List.findSome?_eq_none_iff]
  simp only [own?_eq_none_iff]

/-! ### Places in a tree -/

/-- Two trees that differ in one place at most, where the one has `part` and the other `part'`. -/
inductive Within (part part' : Setup) : Setup → Setup → Prop
  /-- The place is the root. -/
  | root : Within part part' part part'
  /-- The place lies in a delegate. -/
  | delegate {registrations : List (Key × KeyHandler)} {front back : List Setup}
      {whole whole' : Setup} : Within part part' whole whole' →
      Within part part' (.node registrations (front ++ whole :: back))
        (.node registrations (front ++ whole' :: back))

variable {part part' whole whole' last : Setup}

/-- What a part registers stands together in what the tree registers. -/
theorem Within.registered_eq (h : Within part part' whole whole') :
    ∃ front back, whole.registered = front ++ (part.registered ++ back) ∧
      whole'.registered = front ++ (part'.registered ++ back) := by
  induction h with
  | root => exact ⟨[], [], by simp, by simp⟩
  | @delegate registrations front back whole whole' _ ih =>
    obtain ⟨before, after, hwhole, hwhole'⟩ := ih
    -- The delegates in front come between the resolver and the place, the others behind it.
    refine ⟨registrations :: registeredAmong front ++ before, after ++ registeredAmong back, ?_, ?_⟩
    · simp [registered, registeredAmong_append, registeredAmong, hwhole]
    · simp [registered, registeredAmong_append, registeredAmong, hwhole']

/-- A delegate that is added anywhere in a tree makes no difference to the keys that are known to
the resolver that it is added to. -/
theorem find?_of_within_delegate {key : Key} {handler : KeyHandler}
    (hpart : part.resolver.find? key = some handler)
    (h : Within part (part.delegate last) whole whole') :
    whole'.resolver.find? key = whole.resolver.find? key := by
  obtain ⟨front, back, hwhole, hwhole'⟩ := h.registered_eq
  rw [find?_resolver] at hpart
  -- The part answers before the new delegate is reached, and what follows is not asked.
  rw [find?_resolver, find?_resolver, hwhole, hwhole', registered_delegate]
  simp only [List.findSome?_append, hpart, Option.some_or]

/-- A tree of resolvers answers for a key with the handler of the first resolver, in depth-first
order, that registers the key or its namespace: the handler that was registered last under the key,
or under the namespace where the key is not registered. So a delegate that is added behind others
changes nothing for the keys that were known before it, whatever tree the changed resolver stands
in, and neither the keys of requests nor the standard library replace the keys of a caller. -/
theorem find?_resolver_precedence (setup : Setup) (key : Key) :
    (∀ handler, setup.resolver.find? key = some handler ↔
      ∃ before own after, setup.registered = before ++ own :: after ∧
        (∀ other ∈ before, ¬ Knows other key) ∧ Answers own key handler) ∧
    (setup.resolver.find? key = none ↔ ∀ own ∈ setup.registered, ¬ Knows own key) ∧
    (∀ last handler, setup.resolver.find? key = some handler →
      (setup.delegate last).resolver.find? key = some handler ∧
      ∀ whole whole', Within setup (setup.delegate last) whole whole' →
        whole'.resolver.find? key = whole.resolver.find? key) ∧
    ∀ keys handler, (chain keys).find? key = some handler →
      (∀ pipes conditions execs standard,
        (Library.build keys pipes conditions execs standard).keys.find? key = some handler) ∧
      ∀ config : Config, (config.engine keys).keys.find? key = some handler := by
  refine ⟨find?_resolver_eq_some_iff setup key, find?_resolver_eq_none_iff setup key, ?_, ?_⟩
  · intro last handler hfound
    refine ⟨?_, fun whole whole' h => find?_of_within_delegate hfound h⟩
    rw [find?_of_within_delegate hfound .root, hfound]
  · intro keys handler hfound
    refine ⟨fun pipes conditions execs standard => ?_, fun config => ?_⟩
    · exact findAmong?_append_of_eq_some hfound _
    · exact findAmong?_append_of_eq_some (findAmong?_append_of_eq_some hfound _) _

/-- The namespace in a delegate of the first delegate comes before the key itself in the second
delegate, where it is registered twice. A resolver that comes last, and the keys of requests, change
nothing. -/
theorem find?_resolver_precedence_nested :
    let answer (text : String) : KeyHandler := .const (.string text)
    let first : Setup := .node [] [.node [(⟨"claims", "*"⟩, answer "nested")] []]
    let second : Setup :=
      .node [(⟨"claims", "org"⟩, answer "old"), (⟨"claims", "*"⟩, answer "any"),
        (⟨"claims", "org"⟩, answer "new")] []
    let setup : Setup := .node [(⟨"env", "*"⟩, answer "env")] [first, second]
    let last : Setup := .node [(⟨"claims", "org"⟩, answer "late")] []
    let key : Key := ⟨"claims", "org"⟩
    Answers [(⟨"claims", "*"⟩, answer "nested")] key (answer "nested") ∧
      setup.resolver.find? key = some (answer "nested") ∧
      second.resolver.find? key = some (answer "new") ∧
      setup.resolver.find? ⟨"user", "org"⟩ = none ∧
      (setup.delegate last).resolver.find? key = some (answer "nested") ∧
      (Setup.node [] [first.delegate last, second]).resolver.find? key = some (answer "nested") ∧
      (({} : Config).engine [setup.resolver]).keys.find? key = some (answer "nested") := by
  intro answer first second setup last key
  have hanswers : Answers [(⟨"claims", "*"⟩, answer "nested")] key (answer "nested") :=
    .inr ⟨by decide, [], [], rfl, by decide⟩
  obtain ⟨hfind, -, happend, hengine⟩ := find?_resolver_precedence setup key
  have hfound : setup.resolver.find? key = some (answer "nested") := by
    refine (hfind _).2 ⟨[[(⟨"env", "*"⟩, answer "env")], []], _, _, rfl, ?_, hanswers⟩
    simp [Knows, Entries.keys, Key.wildcard, key]
  refine ⟨hanswers, hfound, rfl, ?_, (happend last _ hfound).1, ?_, ?_⟩
  · refine (find?_resolver_precedence setup ⟨"user", "org"⟩).2.1.2 ?_
    simp [registered, registeredAmong, Knows, Entries.keys, Key.wildcard, setup, first, second]
  · obtain ⟨-, -, hgrow, -⟩ := find?_resolver_precedence first key
    have hwithin : Within first (first.delegate last) (.node [] [first, second])
        (.node [] [first.delegate last, second]) :=
      @Within.delegate _ _ [] [] [second] _ _ .root
    exact ((hgrow last _ rfl).2 _ _ hwithin).trans rfl
  · exact (hengine [setup.resolver] _ hfound).2 {}

end Setup

end KeyResolver

end AccessPolicy
