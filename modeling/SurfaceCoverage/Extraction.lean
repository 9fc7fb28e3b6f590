import SurfaceCoverage.Category
import SurfaceCoverage.Grammar
import SurfaceCoverage.Settings.Basic
import SurfaceCoverage.TypeGraph

/-!
# Extraction

The files of a source root are read one by one, and what they tell is merged into one type graph.
The records of a side are those of its source roots, each tagged with the category of the root or,
where the root leaves it open, of its name.

**Results.**
* `result_rootRecords`: the records of a source root are those of the files that are found.
-/

namespace SurfaceCoverage

namespace Grammar

/-- The graph of what one file tells. -/
def fileGraph (g : Grammar) (f : SourceFile) : TypeGraph :=
  .ofObservations (g.read f.content)

/-- The graph of what the files of the grammar tell, from the first to the last. -/
def graph (g : Grammar) (files : List SourceFile) : TypeGraph :=
  .mergeAll ((files.filter fun f => g.supports f.path).map g.fileGraph)

/-- The line about a graph. -/
def graphLine (g : Grammar) (graph : TypeGraph) : Log.Line :=
  Log.line "graph" Log.debug s!"{g.name} extractor produced {graph.size} declarations"

end Grammar

namespace Extraction

/-- The records of a graph, tagged with their categories. -/
def tagged (declared : String) (records : List ClassRecord) : List ClassRecord :=
  records.map fun r => { r with category := Category.resolve declared r.name }

/-- The lines about the graph of a source root. -/
def graphLines (g : Grammar) (written : String) (path : Files.Path) (graph : TypeGraph) :
    List Log.Line :=
  [g.graphLine graph,
    Log.line "orchestrator" Log.info
      s!"Extracted {graph.size} {written} types from {path.text}"]

/-- Why the records of a side cannot be had: its grammar is not there, or a source root cannot be
reached. -/
inductive SideError where
  | grammar (error : GrammarError)
  | root (error : Files.PathError)

/-- What is wrong with a side. -/
def SideError.message : SideError → String
  | .grammar error => error.message
  | .root error => error.message

/-- The line about a source root that is no directory. -/
def missingLine (root : SourceRoot) : Log.Line :=
  Log.line "orchestrator" Log.warning s!"Source root not found: {root.path.text}"

/-- The records of a source root that is a directory; `written` is the name of the grammar as the
settings have it. -/
def foundRecords (d : Files.Disk) (g : Grammar) (written : String) (root : SourceRoot) :
    Log.Step Files.PathError (List ClassRecord) := do
  let files ← Sources.scan d root.path g.extensions
  let graph := g.graph files
  Log.Step.say (graphLines g written root.path graph)
  return tagged root.category (graph.records g.tracksInheritance)

/-- The records of one source root; where there is no directory, there are none. -/
def rootRecords (d : Files.Disk) (g : Grammar) (written : String) (root : SourceRoot) :
    Log.Step Files.PathError (List ClassRecord) :=
  match d.seesDirectory root.path with
  | .error e => ⟨[], .error (.file e)⟩
  | .ok true => foundRecords d g written root
  | .ok false => ⟨[missingLine root], .ok []⟩

/-- The records of several source roots. -/
def rootsRecords (d : Files.Disk) (g : Grammar) (written : String) :
    List SourceRoot → Log.Step Files.PathError (List ClassRecord)
  | [] => pure []
  | root :: rest => do
      let records ← rootRecords d g written root
      let more ← rootsRecords d g written rest
      return records ++ more

/-- The records of one side. -/
def sideRecords (d : Files.Disk) (plugins : List Plugin) (side : Side) :
    Log.Step SideError (List ClassRecord) :=
  match Grammar.find plugins (Text.lower side.grammar) with
  | .error e => ⟨[], .error (.grammar e)⟩
  | .ok g => (rootsRecords d g side.grammar side.sources).mapError .root

/-- The source files of a source root; where there is no directory, there are none. -/
def rootFiles (d : Files.Disk) (extensions : List String) (root : Files.Path) :
    Except Files.PathError (List SourceFile) :=
  match d.seesDirectory root with
  | .error e => .error (.file e)
  | .ok true => (Sources.scan d root extensions).result
  | .ok false => .ok []

theorem records_graph_nil (g : Grammar) :
    (g.graph []).records g.tracksInheritance = [] := by
  have hempty : g.graph [] = .empty := rfl
  rw [hempty, TypeGraph.records, TypeGraph.toList, List.map_eq_nil_iff,
    List.filterMap_eq_nil_iff]
  exact fun name _ => TypeGraph.get?_empty name

theorem result_foundRecords (d : Files.Disk) (g : Grammar) (written : String)
    (root : SourceRoot) :
    (foundRecords d g written root).result =
      (Sources.scan d root.path g.extensions).result.map fun files =>
        tagged root.category ((g.graph files).records g.tracksInheritance) := by
  rw [foundRecords, Log.Step.result_bind]
  cases (Sources.scan d root.path g.extensions).result with
  | error e => rfl
  | ok files => rfl

/-- The records of a source root are those of the files that are found there. -/
theorem result_rootRecords (d : Files.Disk) (g : Grammar) (written : String) (root : SourceRoot) :
    (rootRecords d g written root).result =
      (rootFiles d g.extensions root.path).map fun files =>
        tagged root.category ((g.graph files).records g.tracksInheritance) := by
  unfold rootRecords rootFiles
  split
  · rfl
  · exact result_foundRecords d g written root
  · simp [Except.map, records_graph_nil, tagged]

theorem result_rootsRecords_cons (d : Files.Disk) (g : Grammar) (written : String)
    (root : SourceRoot) (rest : List SourceRoot) :
    (rootsRecords d g written (root :: rest)).result = (do
      let records ← (rootRecords d g written root).result
      let more ← (rootsRecords d g written rest).result
      return records ++ more) := by
  rw [rootsRecords, Log.Step.result_bind]
  refine congrArg _ (funext fun records => ?_)
  rw [Log.Step.result_bind]
  rfl

end Extraction

end SurfaceCoverage
