import SurfaceCoverage.Proofs.Classification

/-!
# What a side records

The files of a source root are read one by one, so what the root tells is a list of observations for
each of its files.  Its records can be read off all of these observations: there is one for every
name that occurs, with the methods that were observed of it.  A side records what its source roots
record, each root for itself.

**Results.**
* `ObservedRoot.mem_records_iff`: the records of a root are those of the names that occur.
* `ObservedRoot.isConcrete_record_eq_false_iff`: a record is that of a base exactly when some type
  of its own root builds on it.
* `Extraction.result_sideRecords`: the records of a side are those of its roots.
-/

namespace SurfaceCoverage

/-- The name is an ancestor: an interface, or a supertype that counts. -/
def IsBase (os : List Observation) (n : String) : Prop :=
  IsInterface os n ∨ IsLastSupertype os n

/-- A type of which a method is told occurs. -/
theorem occurs_of_mem_methodsOf {os : List Observation} {x m : String} (hx : x ≠ "")
    (h : m ∈ methodsOf x os) :
    Occurs os x := by
  obtain ⟨_, o, ho, hox, _⟩ := mem_methodsOf.1 h
  exact ⟨hx, o, ho, hox⟩

/-- What was observed in a source root. -/
structure ObservedRoot where
  category : String
  files : List (List Observation)
  deriving Repr, DecidableEq

namespace ObservedRoot

/-- The observations, from the first file to the last. -/
def stream (root : ObservedRoot) : List Observation :=
  root.files.flatten

/-- The merge of the graphs of the files. -/
def graph (root : ObservedRoot) : TypeGraph :=
  .mergeAll (root.files.map .ofObservations)

/-- The records of the root. -/
def records (tracksInheritance : Bool) (root : ObservedRoot) : List ClassRecord :=
  Extraction.tagged root.category (root.graph.records tracksInheritance)

/-- The record of one name. -/
def record (tracksInheritance : Bool) (root : ObservedRoot) (x : String) : ClassRecord :=
  { name := x
    category := Category.resolve root.category x
    methods := (methodsOf x root.stream).eraseDups
    isConcrete := !tracksInheritance || root.graph.kindOf x = .concrete }

theorem graph_eq (root : ObservedRoot) :
    root.graph = .ofObservations root.stream :=
  TypeGraph.mergeAll_ofObservations root.files

theorem mem_toList_graph {root : ObservedRoot} {d : Declaration} :
    d ∈ root.graph.toList ↔
      ∃ x, Occurs root.stream x ∧ Declaration.ofObservations x root.stream = d := by
  simp only [graph_eq, TypeGraph.mem_toList_iff, TypeGraph.get?_ofObservations_eq_some_iff]

theorem mem_records_iff {tracksInheritance : Bool} {root : ObservedRoot} {r : ClassRecord} :
    r ∈ root.records tracksInheritance ↔
      ∃ x, Occurs root.stream x ∧ root.record tracksInheritance x = r := by
  simp only [records, Extraction.tagged, TypeGraph.records, List.map_map, List.mem_map,
    mem_toList_graph]
  constructor
  · rintro ⟨_, ⟨x, hx, rfl⟩, rfl⟩
    exact ⟨x, hx, rfl⟩
  · rintro ⟨x, hx, rfl⟩
    exact ⟨_, ⟨x, hx, rfl⟩, rfl⟩

theorem mem_methods_record {tracksInheritance : Bool} {root : ObservedRoot} {x m : String} :
    m ∈ (root.record tracksInheritance x).methods ↔ m ∈ methodsOf x root.stream :=
  List.mem_eraseDups

/-- Where ancestors are tracked, a record is that of a base exactly when some type of the same root
builds on it. -/
theorem isConcrete_record_eq_false_iff {root : ObservedRoot} {x : String} :
    (root.record true x).isConcrete = false ↔ IsBase root.stream x := by
  rw [IsBase, ← TypeGraph.kindOf_ofObservations, ← root.graph_eq]
  cases h : root.graph.kindOf x <;> simp [record, h]

end ObservedRoot

/-- The records of several roots. -/
def recordsOf (tracksInheritance : Bool) (layout : List ObservedRoot) : List ClassRecord :=
  layout.flatMap (ObservedRoot.records tracksInheritance)

theorem mem_recordsOf_iff {tracksInheritance : Bool} {layout : List ObservedRoot}
    {r : ClassRecord} :
    r ∈ recordsOf tracksInheritance layout ↔
      ∃ root ∈ layout, ∃ x, Occurs root.stream x ∧ root.record tracksInheritance x = r := by
  simp only [recordsOf, List.mem_flatMap, ObservedRoot.mem_records_iff]

namespace Extraction

/-- What the grammar observes in the source files of a root: in those of the grammar, in their
order. -/
def observedFiles (g : Grammar) (category : String) (files : List SourceFile) : ObservedRoot :=
  ⟨category, (files.filter fun f => g.supports f.path).map fun f => g.read f.content⟩

/-- What the grammar observes in source roots, if all of them can be reached. -/
def observedRoots (d : Files.Disk) (g : Grammar) :
    List SourceRoot → Except Files.PathError (List ObservedRoot)
  | [] => .ok []
  | root :: rest => do
      let files ← rootFiles d g.extensions root.path
      let layout ← observedRoots d g rest
      return observedFiles g root.category files :: layout

theorem records_observedFiles (g : Grammar) (category : String) (files : List SourceFile) :
    (observedFiles g category files).records g.tracksInheritance =
      tagged category ((g.graph files).records g.tracksInheritance) := by
  have hgraph : (observedFiles g category files).graph = g.graph files := by
    simp only [ObservedRoot.graph, observedFiles, List.map_map]
    rfl
  rw [ObservedRoot.records, hgraph]
  rfl

theorem observedRoots_cons_eq_ok_iff {d : Files.Disk} {g : Grammar} {root : SourceRoot}
    {rest : List SourceRoot} {layout : List ObservedRoot} :
    observedRoots d g (root :: rest) = .ok layout ↔
      ∃ files, rootFiles d g.extensions root.path = .ok files
        ∧ ∃ more, observedRoots d g rest = .ok more
          ∧ observedFiles g root.category files :: more = layout := by
  simp only [observedRoots, bind_eq_ok_iff, pure, Except.pure, Except.ok.injEq]

/-- What is observed are the files of the roots. -/
theorem mem_observedRoots_iff {d : Files.Disk} {g : Grammar} {sources : List SourceRoot}
    {layout : List ObservedRoot} (h : observedRoots d g sources = .ok layout)
    {observed : ObservedRoot} :
    observed ∈ layout ↔
      ∃ root ∈ sources, ∃ files, rootFiles d g.extensions root.path = .ok files
        ∧ observedFiles g root.category files = observed := by
  induction sources generalizing layout with
  | nil =>
    cases h
    simp
  | cons root rest ih =>
    obtain ⟨files, hfiles, more, hmore, rfl⟩ := observedRoots_cons_eq_ok_iff.1 h
    simp only [List.mem_cons, ih hmore, exists_eq_or_imp, hfiles, Except.ok.injEq,
      exists_eq_left', @eq_comm _ observed]

/-- The roots are observed exactly if each of them can be reached. -/
theorem exists_observedRoots_iff {d : Files.Disk} {g : Grammar} {sources : List SourceRoot} :
    (∃ layout, observedRoots d g sources = .ok layout) ↔
      ∀ root ∈ sources, ∃ files, rootFiles d g.extensions root.path = .ok files := by
  induction sources with
  | nil => simp [observedRoots]
  | cons root rest ih =>
    simp only [observedRoots_cons_eq_ok_iff, List.forall_mem_cons, ← ih]
    constructor
    · rintro ⟨_, files, hfiles, layout, hlayout, -⟩
      exact ⟨⟨files, hfiles⟩, layout, hlayout⟩
    · rintro ⟨⟨files, hfiles⟩, layout, hlayout⟩
      exact ⟨_, files, hfiles, layout, hlayout, rfl⟩

theorem result_rootsRecords (d : Files.Disk) (g : Grammar) (written : String)
    (sources : List SourceRoot) :
    (rootsRecords d g written sources).result =
      (observedRoots d g sources).map (recordsOf g.tracksInheritance) := by
  induction sources with
  | nil => rfl
  | cons root rest ih =>
    rw [result_rootsRecords_cons, result_rootRecords, ih, observedRoots]
    cases rootFiles d g.extensions root.path with
    | error e => rfl
    | ok files =>
      cases observedRoots d g rest with
      | error e => rfl
      | ok layout =>
        have hrecords := records_observedFiles g root.category files
        simp only [Except.map, bind_ok, pure, Except.pure, recordsOf, List.flatMap_cons, hrecords]

/-- A side whose grammar is found has the records of its source roots, unless one of them cannot be
reached. -/
theorem result_sideRecords {plugins : List Plugin} {side : Side} {g : Grammar}
    (h : Grammar.find plugins (Text.lower side.grammar) = .ok g) (d : Files.Disk) :
    (sideRecords d plugins side).result =
      ((observedRoots d g side.sources).map (recordsOf g.tracksInheritance)).mapError .root := by
  unfold sideRecords
  rw [h]
  simp only [Log.Step.result_mapError, result_rootsRecords]

/-- The records that a side has. -/
theorem result_sideRecords_eq_ok_iff {plugins : List Plugin} {side : Side} {g : Grammar}
    (h : Grammar.find plugins (Text.lower side.grammar) = .ok g) {d : Files.Disk}
    {records : List ClassRecord} :
    (sideRecords d plugins side).result = .ok records ↔
      ∃ layout, observedRoots d g side.sources = .ok layout
        ∧ recordsOf g.tracksInheritance layout = records := by
  rw [result_sideRecords h, mapError_eq_ok_iff, map_eq_ok_iff]

/-- A side has records exactly if each of its source roots can be reached. -/
theorem exists_result_sideRecords_iff {plugins : List Plugin} {side : Side} {g : Grammar}
    (h : Grammar.find plugins (Text.lower side.grammar) = .ok g) {d : Files.Disk} :
    (∃ records, (sideRecords d plugins side).result = .ok records) ↔
      ∀ root ∈ side.sources, ∃ files, rootFiles d g.extensions root.path = .ok files := by
  rw [← exists_observedRoots_iff]
  simp only [result_sideRecords_eq_ok_iff h]
  constructor
  · rintro ⟨_, layout, hlayout, _⟩
    exact ⟨layout, hlayout⟩
  · rintro ⟨layout, hlayout⟩
    exact ⟨_, layout, hlayout, rfl⟩

end Extraction

end SurfaceCoverage
