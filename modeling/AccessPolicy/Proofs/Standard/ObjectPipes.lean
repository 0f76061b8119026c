import AccessPolicy.Proofs.Text.Pieces
import AccessPolicy.Standard.Library

/-!
# Paths that follow paths

Two paths with a point between them have the segments of both (`Path.segments_append`). So they lead
from a value to where the second path leads from where the first one leads (`Value.lookup?_append`).

A scope takes the first segment off a path and looks up the rest in the value of this variable,
which is the same as looking up the whole path in the object of all variables
(`Scope.lookup?_eq_lookup?_object`). Handlers of paths and the pipe `path` read through these two
lookups, and `Standard.paths_agree` puts them together.
-/

namespace AccessPolicy

/-! ### Segments -/

namespace Path

variable {path : String}

/-- A point between two paths ends the last segment of the first one. -/
theorem segments_append (p q : String) : segments (p ++ "." ++ q) = segments p ++ segments q := by
  have hchars : (p ++ "." ++ q).toList = p.toList ++ '.' :: q.toList := by simp
  rw [segments, hchars, List.splitOn_append_cons_self, List.map_append]
  rfl

/-- Every path has a segment, which may be empty. -/
theorem segments_ne_nil (path : String) : segments path ≠ [] :=
  mt List.map_eq_nil_iff.1 (List.splitOn_ne_nil '.' _)

/-- A cut at the first point takes the first segment off. -/
theorem segments_of_cut {name rest : List Char}
    (h : Text.cutAt? ['.'] path.toList = some (name, rest)) :
    segments path = String.ofList name :: segments (String.ofList rest) := by
  obtain ⟨hpath, hname⟩ := Text.cutAt?_singleton_eq_some_iff.1 h
  rw [segments, hpath, List.splitOn_append_cons_self_of_not_mem hname, List.map_cons, segments,
    String.toList_ofList]

/-- A path without a point is a segment. -/
theorem segments_of_uncut (h : Text.cutAt? ['.'] path.toList = none) : segments path = [path] := by
  rw [segments, List.splitOn_eq_singleton (Text.not_mem_of_cutAt?_singleton h), List.map_singleton,
    String.ofList_toList]

end Path

/-! ### Lookups -/

/-- A path leads on from where the path in front of it leads. -/
theorem Value.lookup?_append (p q : String) (v : Value) :
    v.lookup? (p ++ "." ++ q) = (v.lookup? p).bind (lookup? q) := by
  rw [lookup?, Path.segments_append, descend?_append]
  rfl

/-- No path leads anywhere from null. -/
theorem Value.lookup?_null (path : String) : Value.null.lookup? path = none := by
  rw [lookup?]
  cases hsegments : Path.segments path with
  | nil => exact absurd hsegments (Path.segments_ne_nil path)
  | cons segment rest => rfl

/-- The variables of a scope are the fields of an object. -/
theorem Scope.lookup?_eq_lookup?_object (scope : Scope) (path : String) :
    scope.lookup? path = (Value.object scope.bindings).lookup? path := by
  rw [lookup?, Value.lookup?]
  cases hcut : Text.cutAt? ['.'] path.toList with
  | some cut =>
    rw [Path.segments_of_cut hcut]
    rfl
  | none =>
    -- The only segment is the name of the variable.
    rw [Path.segments_of_uncut hcut, Value.descend?]
    exact (Option.bind_fun_some _).symm

/-! ### Handlers and the pipe -/

namespace KeyHandler

/-- A handler of paths reads a path in the object of the variables, and null if there is nothing. -/
theorem value_path_none (key : Key) (scope : Scope) :
    (path none).value key scope = ((Value.object scope.bindings).lookup? key.name).getD .null := by
  rw [← scope.lookup?_eq_lookup?_object]
  rfl

end KeyHandler

namespace Standard

/-- The handler of paths stands for the whole namespace `path`. -/
theorem find?_keys_path (name : String) : keys.find? ⟨"path", name⟩ = some (.path none) := by
  -- The name may be the one that stands for the namespace; no other name is registered by itself.
  by_cases hname : "*" = name <;>
    simp [keys, KeyResolver.find?, Entries.ofList, Entries.insertAll, Entries.insert, Entries.get?,
      Key.wildcard, hname]

/-- Anywhere but in a list, selecting is looking up. -/
theorem select_of_not_array {v : Value} (h : ∀ items, v ≠ .array items) (path : String) :
    select path v = (v.lookup? path).getD .null := by
  unfold select
  split
  next items => exact absurd rfl (h items)
  next => rfl

/-- What is selected where a path leads is what the longer path leads to. A path that leads nowhere
and one that leads to null leave nothing to select from. -/
theorem select_lookup? {v : Value} {p : String} (q : String)
    (h : ∀ items, (v.lookup? p).getD .null ≠ .array items) :
    select q ((v.lookup? p).getD .null) = (v.lookup? (p ++ "." ++ q)).getD .null := by
  rw [select_of_not_array h, Value.lookup?_append]
  cases v.lookup? p with
  | none => rw [Option.getD_none, Value.lookup?_null, Option.bind_none]
  | some w => rw [Option.getD_some, Option.bind_some]

/-- The pipe `path` reads its argument without the white space around it. -/
theorem pathPipe_cons {arg : String} (h : Text.trimmed arg ≠ "") (more : List String) :
    pathPipe (arg :: more) = .ok (.pure (select (Text.trimmed arg))) := by
  have hpath : readPath? (some arg) = some (Text.trimmed arg) := by simp [readPath?, h]
  rw [pathPipe, Pipe.optional, List.head?_cons, hpath]

/-- A lookup of two paths with a point between them is the lookup of the second one where the first
one leads, and a scope looks paths up in the object of its variables. So the standard handler of
the namespace `path` reads for the key `path:r.n` what a handler with the root `r` reads for the
name `n`, and for the key `path:p.q` what the pipe `path` with the argument `q` makes of the value
of `path:p`, unless this value is a list. -/
theorem paths_agree :
    (∀ (v : Value) (p q : String),
        v.lookup? (p ++ "." ++ q) = (v.lookup? p).bind (Value.lookup? q)) ∧
      (∀ (scope : Scope) (p : String),
        scope.lookup? p = (Value.object scope.bindings).lookup? p) ∧
      ∃ handler : KeyHandler, (∀ name, keys.find? ⟨"path", name⟩ = some handler) ∧
        (∀ root key scope, (KeyHandler.path (some root)).value key scope =
          handler.value ⟨"path", root ++ "." ++ key.name⟩ scope) ∧
        pipes.find? "path" = some pathPipe ∧
        ∀ arg more, Text.trimmed arg ≠ "" → ∃ transform, pathPipe (arg :: more) = .ok transform ∧
          ∀ scope p, (∀ items, handler.value ⟨"path", p⟩ scope ≠ .array items) →
            transform.value scope (handler.value ⟨"path", p⟩ scope) =
              handler.value ⟨"path", p ++ "." ++ Text.trimmed arg⟩ scope := by
  refine ⟨fun v p q => v.lookup?_append p q, Scope.lookup?_eq_lookup?_object, .path none,
    find?_keys_path, fun root key scope => rfl, rfl, fun arg more harg => ?_⟩
  refine ⟨_, pathPipe_cons harg more, fun scope p hp => ?_⟩
  simp only [KeyHandler.value_path_none] at hp ⊢
  exact select_lookup? _ hp

/-- The value at the first path is an object. The argument, with white space around it, begins with
an empty segment and counts an item of a list. -/
theorem paths_agree_through_list :
    let bindings : Fields := [("claims", .object [("org",
      .object [("", .object [("ids", .array [.null, .string "b"])])])])]
    let scope : Scope := { now := ⟨0, 0, by decide, by decide⟩, sample := .zero false, bindings }
    let value := (KeyHandler.path none).value ⟨"path", "claims.org"⟩ scope
    Text.trimmed " .ids.1 " ≠ "" ∧ (∀ items, value ≠ .array items) ∧
      ∃ transform, pathPipe [" .ids.1 "] = .ok transform ∧
        transform.value scope value =
          (KeyHandler.path none).value ⟨"path", "claims.org..ids.1"⟩ scope ∧
        transform.value scope value = .string "b" := by
  intro bindings scope value
  have harg : Text.trimmed " .ids.1 " ≠ "" := by decide +kernel
  have hvalue : value = .object [("", .object [("ids", .array [.null, .string "b"])])] := rfl
  have hlist : ∀ items, value ≠ .array items := by simp [hvalue]
  obtain ⟨-, -, handler, hkeys, -, -, hpipe⟩ := paths_agree
  obtain ⟨transform, htransform, hread⟩ := hpipe " .ids.1 " [] harg
  obtain rfl := Option.some.inj ((hkeys "claims.org").symm.trans (find?_keys_path "claims.org"))
  have hselected := hread scope "claims.org" hlist
  have hname : "claims.org" ++ "." ++ Text.trimmed " .ids.1 " = "claims.org..ids.1" := by
    decide +kernel
  rw [hname] at hselected
  exact ⟨harg, hlist, transform, htransform, hselected, hselected.trans rfl⟩

end Standard

end AccessPolicy
