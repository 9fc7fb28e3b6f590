import SurfaceCoverage.OrderedMap
import SurfaceCoverage.Text.Order
import SurfaceCoverage.Yaml.Value

/-!
# Method tables

A method table says which methods of the reference are tracked.  A tracked method either has a
counterpart in the target or is a known gap; a method that is not in the table is not tracked.
A set of tables says which table governs which category.

**Results.**
* `tableFor_isSome_iff`: a category is governed exactly when it is routed or there is a default.
-/

namespace SurfaceCoverage

/-- What the target has for a tracked method. -/
inductive Counterpart where
  | mapped (name : String)
  | knownGap
  deriving Repr, DecidableEq

/-- Why tables are refused. -/
inductive TableError where
  | unwritable (fault : Yaml.WriteFault)
  | keyNotName (table key : String)
  | badCounterpart (table method : String)
  | unknownTables (names : List String)

/-- What is wrong with the tables. -/
def TableError.message : TableError → String
  | .unwritable fault => fault.message
  | .keyNotName table key =>
      s!"Method table '{table}': key {key} is not a method name (quote it in YAML)"
  | .badCounterpart table method =>
      s!"Method table '{table}': '{method}' must map to a method name or null"
  | .unknownTables names =>
      "Unknown method tables referenced: " ++ ", ".intercalate names

/-- The tracked methods of a group of categories. -/
structure MethodTable where
  name : String
  entries : OrderedMap String Counterpart

namespace MethodTable

/-- The counterpart that a written value stands for: a name, or nothing. -/
def counterpart? : Yaml.Value → Option Counterpart
  | .null => some .knownGap
  | .text s => if Text.trim s = "" then none else some (.mapped (Text.trim s))
  | _ => none

/-- One entry, read from its written key and value; `depth` is how deeply nested the key of another
kind may be that is shown. -/
def entryOf (depth : Nat) (table : String) (key value : Yaml.Value) :
    Except TableError (String × Counterpart) :=
  match key with
  | .text method =>
      match counterpart? value with
      | some c => .ok (method, c)
      | none => .error (.badCounterpart table method)
  | key =>
      match key.expression depth with
      | .ok shown => .error (.keyNotName table shown)
      | .error fault => .error (.unwritable fault)

/-- The entries of a table, read from written ones; the first bad one decides the error. -/
def entriesOf (depth : Nat) (table : String) :
    List (Yaml.Value × Yaml.Value) → Except TableError (List (String × Counterpart))
  | [] => .ok []
  | (key, value) :: rest =>
      match entryOf depth table key value with
      | .error e => .error e
      | .ok entry =>
          match entriesOf depth table rest with
          | .error e => .error e
          | .ok entries => .ok (entry :: entries)

/-- The table with the written entries. -/
def ofValues (depth : Nat) (name : String) (entries : List (Yaml.Value × Yaml.Value)) :
    Except TableError MethodTable :=
  match entriesOf depth name entries with
  | .error e => .error e
  | .ok entries => .ok ⟨name, OrderedMap.ofList entries⟩

/-- Whether a method is tracked. -/
def tracks (t : MethodTable) (method : String) : Bool :=
  t.entries.contains method

/-- What the target has for a method, if it is tracked. -/
def counterpartFor (t : MethodTable) (method : String) : Option Counterpart :=
  t.entries.get? method

/-- The methods without a counterpart, in rising order. -/
def knownGaps (t : MethodTable) : List String :=
  Text.sorted ((t.entries.toList.filter fun e => e.2 = .knownGap).map Prod.fst)

/-- How many methods are tracked. -/
def size (t : MethodTable) : Nat :=
  t.entries.size

theorem tracks_eq_isSome (t : MethodTable) (method : String) :
    t.tracks method = (t.counterpartFor method).isSome :=
  rfl

end MethodTable

/-- Tables by name. -/
abbrev TablesByName := OrderedMap String MethodTable

/-- Tables, and which of them governs which category. -/
structure MethodTables where
  tables : TablesByName
  routes : OrderedMap String String
  defaultTable : Option String
  complete : ∀ n ∈ routes.values ++ defaultTable.toList, tables.contains n = true

namespace MethodTables

/-- The names that are referred to without a table. -/
def missing (tables : TablesByName) (routes : OrderedMap String String)
    (defaultTable : Option String) : List String :=
  (Text.sorted
    ((routes.values ++ defaultTable.toList).filter fun n => !tables.contains n)).eraseDups

/-- Tables with routes, unless a route leads nowhere. -/
def checked (tables : TablesByName) (routes : OrderedMap String String)
    (defaultTable : Option String) : Except TableError MethodTables :=
  if h : ∀ n ∈ routes.values ++ defaultTable.toList, tables.contains n = true then
    .ok ⟨tables, routes, defaultTable, h⟩
  else
    .error (.unknownTables (missing tables routes defaultTable))

/-- The name of the table that governs a category. -/
def routeFor (t : MethodTables) (category : String) : Option String :=
  (t.routes.get? category).or t.defaultTable

/-- The table that governs a category. -/
def tableFor (t : MethodTables) (category : String) : Option MethodTable :=
  (t.routeFor category).bind t.tables.get?

/-- The pairs of a table and a method without counterpart, in rising order. -/
def knownGaps (t : MethodTables) : List (String × String) :=
  (Text.sorted t.tables.keys).flatMap fun name =>
    match t.tables.get? name with
    | some table => table.knownGaps.map fun method => (name, method)
    | none => []

theorem tableFor_isSome_iff (t : MethodTables) (category : String) :
    (t.tableFor category).isSome = (t.routeFor category).isSome := by
  unfold tableFor
  cases h : t.routeFor category with
  | none => rfl
  | some n =>
    have hmem : n ∈ t.routes.values ++ t.defaultTable.toList := by
      unfold routeFor at h
      cases hr : t.routes.get? category with
      | none =>
        rw [hr, Option.none_or] at h
        exact List.mem_append_right _ (by simp [h])
      | some m =>
        rw [hr] at h
        have hm : m = n := by simpa using h
        subst hm
        refine List.mem_append_left _ (List.mem_map.2 ⟨(category, m), ?_, rfl⟩)
        exact (t.routes.mem_toList_iff).2 hr
    have hc := t.complete n hmem
    simpa [OrderedMap.contains] using hc

end MethodTables

end SurfaceCoverage
