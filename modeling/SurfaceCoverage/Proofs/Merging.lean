import SurfaceCoverage.Extraction

/-!
# Merging type graphs

The graph of a source root is the merge of the graphs of its files.  Merging is associative and has
the graph without types as its unit, and to take in a list of observations is to merge with their
graph.  So it does not matter where a stream of observations is cut into files, nor in which order
neighbouring graphs are merged: the outcome is that of a single pass over the stream.

**Results.**
* `TypeGraph.merge_assoc`, `TypeGraph.merge_self`: merging is associative and idempotent.
* `TypeGraph.foldl_observe`: observing one by one is merging with the graph of the observations.
* `Bracketing.graph_eq`: every bracketing of merges is a single pass.
* `Grammar.graph_eq_ofObservations`: so is the merge of the graphs of files.
* `TypeGraph.merge_idempotent_monoid`: all laws of merging, for graphs of whatever declarations.
-/

namespace SurfaceCoverage

namespace TypeGraph

instance : Std.Associative Declaration.merge :=
  ⟨Declaration.merge_assoc⟩

@[simp]
theorem merge_empty (g : TypeGraph) :
    g.merge empty = g :=
  rfl

@[simp]
theorem empty_merge (g : TypeGraph) :
    empty.merge g = g := by
  apply eq_of_keys_eq
  · rw [keys_merge]
    exact unite_eq_append_of_nodup g.declarations.keys_nodup
  · intro x
    rw [get?_merge, get?_empty, Option.merge_none_left]

theorem merge_assoc (g h k : TypeGraph) :
    (g.merge h).merge k = g.merge (h.merge k) := by
  apply eq_of_keys_eq
  · simp only [keys_merge]
    exact unite_assoc g.declarations.keys h.declarations.keys k.declarations.keys
  · intro x
    simp only [get?_merge]
    exact Std.Associative.assoc (g.get? x) (h.get? x) (k.get? x)

theorem merge_self (g : TypeGraph) :
    g.merge g = g := by
  apply eq_of_keys_eq
  · rw [keys_merge, unite_self]
  · intro x
    rw [get?_merge]
    cases g.get? x with
    | none => rfl
    | some d => rw [Option.merge_some_some, d.merge_self]

/-- The comparison of graphs looks at the declaration of each name. -/
theorem isEquiv_iff (g h : TypeGraph) :
    g.isEquiv h = true ↔ ∀ x, g.get? x = h.get? x :=
  g.declarations.isEquiv_iff h.declarations

/-- Equivalent graphs may stand for each other in a merge. -/
theorem isEquiv_merge {g g' h h' : TypeGraph} (hg : g.isEquiv g' = true)
    (hh : h.isEquiv h' = true) :
    (g.merge h).isEquiv (g'.merge h') = true := by
  rw [isEquiv_iff] at hg hh ⊢
  intro x
  calc
    (g.merge h).get? x
        = Option.merge Declaration.merge (g.get? x) (h.get? x) := get?_merge g h x
    _ = Option.merge Declaration.merge (g'.get? x) (h'.get? x) := by
        rw [hg x, hh x]
    _ = (g'.merge h').get? x := (get?_merge g' h' x).symm

/-- To observe is to merge with the graph of the single observation. -/
theorem observe_eq_merge (g : TypeGraph) (o : Observation) :
    g.observe o = g.merge (ofObservations [o]) := by
  have hsingle : ofObservations [o] = empty.observe o := rfl
  by_cases h : o.typeName = ""
  · rw [hsingle, observe_of_empty g h, observe_of_empty empty h, merge_empty]
  · rw [hsingle, observe_eq_add g h, observe_eq_add empty h]
    rfl

/-- To observe one by one is to merge with the graph of all observations. -/
theorem foldl_observe (g : TypeGraph) (os : List Observation) :
    os.foldl observe g = g.merge (ofObservations os) := by
  induction os generalizing g with
  | nil => rfl
  | cons o rest ih =>
    have hrest : ofObservations (o :: rest) = (ofObservations [o]).merge (ofObservations rest) :=
      ih (ofObservations [o])
    calc
      (o :: rest).foldl observe g
          = (g.observe o).merge (ofObservations rest) := ih (g.observe o)
      _ = (g.merge (ofObservations [o])).merge (ofObservations rest) := by
          rw [observe_eq_merge]
      _ = g.merge (ofObservations (o :: rest)) := by
          rw [merge_assoc, hrest]

theorem ofObservations_append (os os' : List Observation) :
    ofObservations (os ++ os') = (ofObservations os).merge (ofObservations os') := by
  unfold ofObservations
  rw [List.foldl_append]
  exact foldl_observe (os.foldl observe empty) os'

/-- Merging the graphs of several streams is a single pass over the streams one after another. -/
theorem mergeAll_ofObservations (streams : List (List Observation)) :
    mergeAll (streams.map ofObservations) = ofObservations streams.flatten := by
  have hfold : ∀ g : TypeGraph,
      (streams.map ofObservations).foldl merge g = g.merge (ofObservations streams.flatten) := by
    induction streams with
    | nil => intro g; rfl
    | cons os rest ih =>
      intro g
      rw [List.map_cons, List.foldl_cons, ih, List.flatten_cons, ofObservations_append,
        merge_assoc]
  rw [mergeAll, hfold, empty_merge]

end TypeGraph

/-- A way of merging the graphs of consecutive parts of a stream of observations: which
neighbours are merged first. -/
inductive Bracketing where
  | part (os : List Observation)
  | join (first second : Bracketing)

namespace Bracketing

/-- The observations of all parts, from the first to the last. -/
def stream : Bracketing → List Observation
  | part os => os
  | join first second => first.stream ++ second.stream

/-- The graph that the merges come to. -/
def graph : Bracketing → TypeGraph
  | part os => .ofObservations os
  | join first second => first.graph.merge second.graph

/-- However the parts are cut and merged, the outcome is a single pass over the stream. -/
theorem graph_eq (t : Bracketing) :
    t.graph = .ofObservations t.stream := by
  induction t with
  | part os => rfl
  | join first second ihFirst ihSecond =>
    rw [graph, stream, ihFirst, ihSecond, TypeGraph.ofObservations_append]

end Bracketing

namespace Grammar

/-- What the files of the grammar tell, from the first to the last. -/
def stream (g : Grammar) (files : List SourceFile) : List Observation :=
  (files.filter fun f => g.supports f.path).flatMap fun f => g.read f.content

theorem graph_eq_ofObservations (g : Grammar) (files : List SourceFile) :
    g.graph files = .ofObservations (g.stream files) := by
  unfold graph stream
  rw [List.flatMap_def, ← TypeGraph.mergeAll_ofObservations, List.map_map]
  rfl

end Grammar

/-- Folding file by file is one global pass: the graph of a list of files is that of all they tell
in the order of the files.  However a stream of observations is cut into parts, and in whatever
order neighbours are merged, the graph, its classification and its records are those of a single
pass over the stream. -/
theorem folding_eq_single_pass :
    (∀ (g : Grammar) (files : List SourceFile),
      g.graph files =
        .ofObservations
          ((files.filter fun f => g.supports f.path).flatMap fun f => g.read f.content))
    ∧
    (∀ t : Bracketing,
      t.graph = .ofObservations t.stream
      ∧ t.graph.classify = (TypeGraph.ofObservations t.stream).classify
      ∧ ∀ tracksInheritance : Bool,
          t.graph.records tracksInheritance =
            (TypeGraph.ofObservations t.stream).records tracksInheritance) := by
  refine ⟨fun g files => g.graph_eq_ofObservations files, ?_⟩
  intro t
  rw [t.graph_eq]
  exact ⟨rfl, rfl, fun _ => rfl⟩

/-- Merging makes the graphs an idempotent monoid, whatever their declarations are: names may differ
from the keys, methods and interfaces may be repeated, and supertypes may be empty.  What is merged
in a second time adds nothing.  The laws hold with every list in its order, and merging keeps the
comparison of graphs, which looks at the declaration of each name and not at the order of the
names. -/
theorem TypeGraph.merge_idempotent_monoid (a b c : TypeGraph) :
    (a.merge b).merge c = a.merge (b.merge c)
    ∧ empty.merge a = a
    ∧ a.merge empty = a
    ∧ a.merge a = a
    ∧ (a.merge b).merge b = a.merge b
    ∧ a.isEquiv a = true
    ∧ ∀ a' b' : TypeGraph, a.isEquiv a' = true → b.isEquiv b' = true →
        (a.merge b).isEquiv (a'.merge b') = true := by
  have hagain : (a.merge b).merge b = a.merge b := by
    rw [merge_assoc, merge_self]
  have hself : a.isEquiv a = true := (isEquiv_iff a a).2 fun _ => rfl
  exact ⟨merge_assoc a b c, empty_merge a, merge_empty a, merge_self a, hagain, hself,
    fun _ _ => isEquiv_merge⟩

/-- A graph as a caller may build it: a name that is not the key, a method and an interface that
are listed twice, and an empty supertype. -/
def TypeGraph.fen : TypeGraph :=
  ⟨.ofList [("Newt", ⟨"Eft", ["swim", "swim"], some "", ["Wet", "Wet"]⟩),
    ("Frog", ⟨"Frog", ["hop"], some "Newt", []⟩)]⟩

/-- The same graph with its names the other way round. -/
def TypeGraph.fenRelisted : TypeGraph :=
  ⟨.ofList [("Frog", ⟨"Frog", ["hop"], some "Newt", []⟩),
    ("Newt", ⟨"Eft", ["swim", "swim"], some "", ["Wet", "Wet"]⟩)]⟩

/-- More on one of the names. -/
def TypeGraph.moor : TypeGraph :=
  ⟨.ofList [("Newt", ⟨"Newt", ["hide", "swim"], some "Reptile", ["Wet", "Cold"]⟩)]⟩

theorem TypeGraph.merge_of_fen_and_moor :
    fen.isEquiv fenRelisted = true
    ∧ moor.isEquiv moor = true
    ∧ (fen.merge moor).isEquiv (fenRelisted.merge moor) = true
    ∧ (fen.merge moor).merge fenRelisted = fen.merge (moor.merge fenRelisted)
    ∧ fen.merge fen = fen
    ∧ (fen.merge moor).get? "Newt" =
        some ⟨"Eft", ["swim", "swim", "hide"], some "Reptile", ["Wet", "Wet", "Cold"]⟩ := by
  have hfen : fen.isEquiv fenRelisted = true := by decide
  have hmoor : moor.isEquiv moor = true := by decide
  obtain ⟨hassoc, -, -, hidempotent, -, -, hequiv⟩ :=
    merge_idempotent_monoid fen moor fenRelisted
  exact ⟨hfen, hmoor, hequiv fenRelisted moor hfen hmoor, hassoc, hidempotent, by decide⟩

end SurfaceCoverage
