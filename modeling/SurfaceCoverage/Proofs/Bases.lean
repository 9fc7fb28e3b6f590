import SurfaceCoverage.Proofs.Records
import SurfaceCoverage.Proofs.Scoring

/-!
# Bases and source roots

Every source root is classified for itself.  So the records of a name are all marked as those of a
base exactly when the name is a base in each root where it occurs: a type of another root that
builds on it does not count.  Which names are scored depends on the roots in the same way: a name is
scored for the methods that are told of it in roots where no type builds on it.

**Results.**
* `forall_isConcrete_eq_false_iff`: all records of a name are those of a base exactly when the name
  is one in every root where it occurs.
* `Analyzer.scores_recordsOf_iff`: which names are scored.
* `forall_scores_iff_scores_iff`: when two layouts score a name alike.
-/

namespace SurfaceCoverage

namespace Analyzer

/-- The analysis has a record of a class with the given name. -/
def Scores (a : Analyzer) (reference target : List ClassRecord) (x : String) : Prop :=
  ∃ c ∈ a.analyze reference (.ofRecords target), c.name = x

theorem exists_track_of_inScope {a : Analyzer} {r : ClassRecord} (h : a.InScope r)
    (target : TargetIndex) :
    ∃ c, a.track target r = some c := by
  rw [← Option.ne_none_iff_exists']
  intro hnone
  exact not_inScope_of_track hnone h

/-- A name is scored when a class with this name is in scope. -/
theorem scores_iff {a : Analyzer} {reference target : List ClassRecord} {x : String} :
    a.Scores reference target x ↔ ∃ r ∈ reference, r.name = x ∧ a.InScope r := by
  constructor
  · rintro ⟨c, hc, rfl⟩
    obtain ⟨r, hr, htrack⟩ := (mem_analyze_iff _ _ _ _).1 hc
    obtain ⟨hscope, hcovers⟩ := covers_of_scope htrack
    exact ⟨r, hr, hcovers.name.symm, hscope⟩
  · rintro ⟨r, hr, rfl, hscope⟩
    obtain ⟨c, htrack⟩ := exists_track_of_inScope hscope (.ofRecords target)
    exact ⟨c, (mem_analyze_iff _ _ _ _).2 ⟨r, hr, htrack⟩, (covers_of_scope htrack).2.name⟩

/-- An analyzer that tracks one method, whatever the category. -/
def tracking (m : String) : Analyzer :=
  { tables :=
      { tables := .ofList [("all", ⟨"all", .ofList [(m, .knownGap)]⟩)]
        routes := .empty
        defaultTable := some "all"
        complete := by simp [OrderedMap.values, OrderedMap.empty, OrderedMap.contains,
          OrderedMap.lastValue] }
    mappings := .empty }

theorem tableFor_tracking (m category : String) :
    (tracking m).tables.tableFor category = some ⟨"all", .ofList [(m, .knownGap)]⟩ := by
  simp [tracking, MethodTables.tableFor, MethodTables.routeFor, OrderedMap.lastValue]

theorem exists_tracked_tracking_iff {m category : String} {ms : List String} :
    (∃ table, (tracking m).tables.Governs category table ∧ ∃ n ∈ ms, table.tracks n = true) ↔
      m ∈ ms := by
  have htracks : ∀ n,
      (⟨"all", .ofList [(m, .knownGap)]⟩ : MethodTable).tracks n = true ↔ m = n := by
    intro n
    by_cases h : m = n <;>
      simp [MethodTable.tracks, OrderedMap.contains, OrderedMap.lastValue, h]
  simp only [← MethodTables.tableFor_eq_some_iff, tableFor_tracking, Option.some.injEq,
    exists_eq_left', htracks, exists_eq_right']

end Analyzer

/-- All records of a name are those of a base exactly when the name is a base in every root where it
occurs. -/
theorem forall_isConcrete_eq_false_iff {layout : List ObservedRoot} {x : String} :
    (∀ r ∈ recordsOf true layout, r.name = x → r.isConcrete = false) ↔
      ∀ root ∈ layout, Occurs root.stream x → IsBase root.stream x := by
  constructor
  · intro h root hroot hx
    have hr : root.record true x ∈ recordsOf true layout :=
      mem_recordsOf_iff.2 ⟨root, hroot, x, hx, rfl⟩
    exact ObservedRoot.isConcrete_record_eq_false_iff.1 (h _ hr rfl)
  · rintro h r hr rfl
    obtain ⟨root, hroot, y, hy, rfl⟩ := mem_recordsOf_iff.1 hr
    exact ObservedRoot.isConcrete_record_eq_false_iff.2 (h root hroot hy)

/-- Some root tells of the type that it has the method, and no type of this root builds on it. -/
def ToldOfConcrete (layout : List ObservedRoot) (x m : String) : Prop :=
  ∃ root ∈ layout, m ∈ methodsOf x root.stream ∧ ¬ IsBase root.stream x

namespace Analyzer

theorem inScope_record_iff {a : Analyzer} {root : ObservedRoot} {x : String} :
    a.InScope (root.record true x) ↔
      ¬ IsBase root.stream x
        ∧ ∃ table, a.tables.Governs (Category.resolve root.category x) table
          ∧ ∃ m ∈ methodsOf x root.stream, table.tracks m = true := by
  rw [InScope, ← ObservedRoot.isConcrete_record_eq_false_iff, Bool.not_eq_false]
  simp only [ObservedRoot.mem_methods_record]
  rfl

/-- A name is scored when a tracked method is told of it where no type builds on it. -/
theorem scores_recordsOf_iff {a : Analyzer} {layout : List ObservedRoot}
    {target : List ClassRecord} {x : String} (hx : x ≠ "") :
    a.Scores (recordsOf true layout) target x ↔
      ∃ root ∈ layout, ¬ IsBase root.stream x
        ∧ ∃ table, a.tables.Governs (Category.resolve root.category x) table
          ∧ ∃ m ∈ methodsOf x root.stream, table.tracks m = true := by
  rw [scores_iff]
  constructor
  · rintro ⟨r, hr, rfl, hscope⟩
    obtain ⟨root, hroot, y, _, rfl⟩ := mem_recordsOf_iff.1 hr
    exact ⟨root, hroot, inScope_record_iff.1 hscope⟩
  · rintro ⟨root, hroot, hbase, table, hgoverns, m, hm, htracks⟩
    have hr : root.record true x ∈ recordsOf true layout :=
      mem_recordsOf_iff.2 ⟨root, hroot, x, occurs_of_mem_methodsOf hx hm, rfl⟩
    have hscope : a.InScope (root.record true x) :=
      inScope_record_iff.2 ⟨hbase, table, hgoverns, m, hm, htracks⟩
    exact ⟨_, hr, rfl, hscope⟩

theorem scores_tracking_iff {m : String} {layout : List ObservedRoot} {x : String} (hx : x ≠ "")
    (target : List ClassRecord) :
    (tracking m).Scores (recordsOf true layout) target x ↔ ToldOfConcrete layout x m := by
  simp only [scores_recordsOf_iff hx, exists_tracked_tracking_iff, ToldOfConcrete]
  exact exists_congr fun root => and_congr_right fun _ => and_comm

/-- In roots of one category, a name is scored when the table of the category tracks a method that
is told of it where no type builds on it. -/
theorem scores_recordsOf_iff_of_category {a : Analyzer} {layout : List ObservedRoot}
    {category : String} (hcategory : ∀ root ∈ layout, root.category = category)
    {target : List ClassRecord} {x : String} (hx : x ≠ "") :
    a.Scores (recordsOf true layout) target x ↔
      ∃ m, ToldOfConcrete layout x m
        ∧ ∃ table, a.tables.Governs (Category.resolve category x) table
          ∧ table.tracks m = true := by
  rw [scores_recordsOf_iff hx]
  constructor
  · rintro ⟨root, hroot, hbase, table, hgoverns, m, hm, htracks⟩
    rw [hcategory root hroot] at hgoverns
    exact ⟨m, ⟨root, hroot, hm, hbase⟩, table, hgoverns, htracks⟩
  · rintro ⟨m, ⟨root, hroot, hm, hbase⟩, table, hgoverns, htracks⟩
    rw [← hcategory root hroot] at hgoverns
    exact ⟨root, hroot, hbase, table, hgoverns, m, hm, htracks⟩

/-- A name is never scored exactly when it is a base in every root that tells of a method of it. -/
theorem forall_not_scores_iff {layout : List ObservedRoot} {x : String} (hx : x ≠ "") :
    (∀ (a : Analyzer) (target : List ClassRecord), ¬ a.Scores (recordsOf true layout) target x) ↔
      ∀ root ∈ layout, methodsOf x root.stream ≠ [] → IsBase root.stream x := by
  constructor
  · intro h root hroot hmethods
    obtain ⟨m, hm⟩ := List.exists_mem_of_ne_nil _ hmethods
    by_contra hbase
    exact h (tracking m) [] ((scores_tracking_iff hx []).2 ⟨root, hroot, hm, hbase⟩)
  · intro h a target hscores
    obtain ⟨root, hroot, hbase, _, _, m, hm, _⟩ := (scores_recordsOf_iff hx).1 hscores
    exact hbase (h root hroot (List.ne_nil_of_mem hm))

/-- Two layouts of one category score a name alike, whatever the tables, when the same methods are
told of it where no type builds on it. -/
theorem forall_scores_iff_scores_iff {layout layout' : List ObservedRoot} {category : String}
    (hcategory : ∀ root ∈ layout, root.category = category)
    (hcategory' : ∀ root ∈ layout', root.category = category) {x : String} (hx : x ≠ "") :
    (∀ (a : Analyzer) (target : List ClassRecord),
      a.Scores (recordsOf true layout) target x ↔ a.Scores (recordsOf true layout') target x) ↔
      ∀ m, ToldOfConcrete layout x m ↔ ToldOfConcrete layout' x m := by
  constructor
  · intro h m
    rw [← scores_tracking_iff hx [], ← scores_tracking_iff hx []]
    exact h (tracking m) []
  · intro h a target
    rw [scores_recordsOf_iff_of_category hcategory hx,
      scores_recordsOf_iff_of_category hcategory' hx]
    simp only [h]

end Analyzer

/-- Bases are recognised within their roots.  A side with ancestors has records exactly if each of
its source roots can be reached, and they are those of its roots.  All records of a name are marked
as those of a base exactly when the name is a base in every root where it occurs, and it is never
scored exactly when it is a base in every root that tells of a method of it.  Another layout of the
same category, such as one where a root is split into parts, scores a name alike exactly when it
tells the same methods of it in roots where no type builds on it. -/
theorem marked_iff_base_in_every_root (d : Files.Disk) {plugins : List Plugin} (side : Side)
    {g : Grammar} (hg : Grammar.find plugins (Text.lower side.grammar) = .ok g)
    (htracks : g.tracksInheritance = true) :
    ((∃ records, (Extraction.sideRecords d plugins side).result = .ok records) ↔
        ∀ root ∈ side.sources, ∃ files,
          Extraction.rootFiles d g.extensions root.path = .ok files)
    ∧ ∀ layout, Extraction.observedRoots d g side.sources = .ok layout →
      (Extraction.sideRecords d plugins side).result = .ok (recordsOf true layout)
      ∧ (∀ x : String,
          (∀ r ∈ recordsOf true layout, r.name = x → r.isConcrete = false) ↔
            ∀ root ∈ layout, Occurs root.stream x → IsBase root.stream x)
      ∧ (∀ x : String, x ≠ "" →
          ((∀ (a : Analyzer) (target : List ClassRecord),
            ¬ a.Scores (recordsOf true layout) target x) ↔
              ∀ root ∈ layout, methodsOf x root.stream ≠ [] → IsBase root.stream x))
      ∧ ∀ (other : List ObservedRoot) (category : String),
          (∀ root ∈ layout, root.category = category) →
          (∀ root ∈ other, root.category = category) →
          ∀ x : String, x ≠ "" →
            ((∀ (a : Analyzer) (target : List ClassRecord),
              a.Scores (recordsOf true layout) target x ↔
                a.Scores (recordsOf true other) target x) ↔
              ∀ m, ToldOfConcrete layout x m ↔ ToldOfConcrete other x m) := by
  refine ⟨Extraction.exists_result_sideRecords_iff hg, fun layout hlayout => ⟨?_, ?_, ?_, ?_⟩⟩
  · exact (Extraction.result_sideRecords_eq_ok_iff hg).2 ⟨layout, hlayout, by rw [htracks]⟩
  · intro x
    exact forall_isConcrete_eq_false_iff
  · intro x hx
    exact Analyzer.forall_not_scores_iff hx
  · intro other category hcategory hcategory' x hx
    exact Analyzer.forall_scores_iff_scores_iff hcategory hcategory' hx

/-- A disk with a type and one that extends it, in two directories. -/
def herdDisk : Files.Disk :=
  .unguarded (.directory
    [("a", .directory [("Mob.java", .file "class Mob{void tick(){}}".toUTF8)]),
      ("b", .directory [("Cow.java", .file "class Cow extends Mob{void tick(){}}".toUTF8)])])

/-- The side with both directories as its source roots. -/
def herdSide : Side :=
  ⟨"java", [⟨.ofString "/a", "entity"⟩, ⟨.ofString "/b", "entity"⟩]⟩

theorem find_herdSide :
    Grammar.find [] (Text.lower herdSide.grammar) = .ok .java := by
  have hlower : Text.lower herdSide.grammar = "java" := by decide +kernel
  rw [hlower]
  exact Grammar.find_java []

/-- What the two roots of the side tell. -/
def herdParts : List ObservedRoot :=
  [⟨"entity", [[⟨"Mob", "tick", none, []⟩]]⟩, ⟨"entity", [[⟨"Cow", "tick", some "Mob", []⟩]]⟩]

theorem observedRoots_herdSide :
    Extraction.observedRoots herdDisk .java herdSide.sources = .ok herdParts :=
  eq_ok_of_toOption (by decide +kernel)

/-- The type that is extended in the other root is taken for a class of its own, and scored. -/
theorem records_of_herdSide :
    Extraction.observedRoots herdDisk .java herdSide.sources = .ok herdParts
    ∧ (Extraction.sideRecords herdDisk [] herdSide).result =
        .ok [⟨"Mob", "entity", ["tick"], true⟩, ⟨"Cow", "entity", ["tick"], true⟩]
    ∧ (Analyzer.tracking "tick").Scores
        [⟨"Mob", "entity", ["tick"], true⟩, ⟨"Cow", "entity", ["tick"], true⟩] [] "Mob" := by
  have hrecords : recordsOf Grammar.java.tracksInheritance herdParts =
      [⟨"Mob", "entity", ["tick"], true⟩, ⟨"Cow", "entity", ["tick"], true⟩] := by
    decide +kernel
  refine ⟨observedRoots_herdSide, ?_, ?_⟩
  · exact (Extraction.result_sideRecords_eq_ok_iff find_herdSide).2
      ⟨herdParts, observedRoots_herdSide, hrecords⟩
  · refine Analyzer.scores_iff.2 ⟨_, List.mem_cons_self, rfl, rfl, ?_⟩
    exact Analyzer.exists_tracked_tracking_iff.2 List.mem_cons_self

/-- The same types in one file. -/
def herdDiskWhole : Files.Disk :=
  .unguarded (.directory
    [("c", .directory
      [("Herd.java",
        .file "class Mob{void tick(){}}class Cow extends Mob{void tick(){}}".toUTF8)])])

/-- The side with this file in its only source root. -/
def herdSideWhole : Side :=
  ⟨"java", [⟨.ofString "/c", "entity"⟩]⟩

/-- What this source root tells. -/
def herdWhole : List ObservedRoot :=
  [⟨"entity", [[⟨"Mob", "tick", none, []⟩, ⟨"Cow", "tick", some "Mob", []⟩]]⟩]

theorem observedRoots_herdSideWhole :
    Extraction.observedRoots herdDiskWhole .java herdSideWhole.sources = .ok herdWhole :=
  eq_ok_of_toOption (by decide +kernel)

/-- No root of the other side knows the type as a base. -/
theorem toldOfConcrete_herdParts :
    ToldOfConcrete herdParts "Mob" "tick" := by
  refine ⟨_, List.mem_cons_self, by decide, ?_⟩
  rintro (⟨o, ho, _, hi⟩ | ⟨x, _, hlast⟩)
  · cases List.mem_singleton.1 ho
    cases hi
  · obtain ⟨_, o, ho, _, hs⟩ := mem_supertypesOf.1 (List.mem_of_getLast? hlast)
    cases List.mem_singleton.1 ho
    cases hs

/-- In one root the base is recognised and never scored; a split of the root makes a difference. -/
theorem base_of_herdSideWhole :
    Grammar.find [] (Text.lower herdSideWhole.grammar) = .ok .java
    ∧ Grammar.java.tracksInheritance = true
    ∧ Extraction.observedRoots herdDisk .java herdSide.sources = .ok herdParts
    ∧ ∃ records, (Extraction.sideRecords herdDiskWhole [] herdSideWhole).result = .ok records
      ∧ (∀ r ∈ records, r.name = "Mob" → r.isConcrete = false)
      ∧ (∀ (a : Analyzer) (target : List ClassRecord), ¬ a.Scores records target "Mob")
      ∧ ¬ ∀ (a : Analyzer) (target : List ClassRecord),
          a.Scores records target "Mob" ↔ a.Scores (recordsOf true herdParts) target "Mob" := by
  obtain ⟨-, hlayout⟩ :=
    marked_iff_base_in_every_root herdDiskWhole herdSideWhole find_herdSide rfl
  obtain ⟨hresult, hmarked, hscored, halike⟩ := hlayout herdWhole observedRoots_herdSideWhole
  have hroots : ∀ root ∈ herdWhole, root.category = "entity" ∧ IsBase root.stream "Mob" := by
    intro root hroot
    rw [List.mem_singleton.1 hroot]
    exact ⟨rfl, Or.inr ⟨"Cow", by decide, by decide⟩⟩
  refine ⟨find_herdSide, rfl, observedRoots_herdSide, _, hresult, ?_, ?_, ?_⟩
  · exact (hmarked "Mob").2 fun root hroot _ => (hroots root hroot).2
  · exact (hscored "Mob" (by decide)).2 fun root hroot _ => (hroots root hroot).2
  · rw [halike herdParts "entity" (fun root hroot => (hroots root hroot).1) (by simp [herdParts])
      "Mob" (by decide)]
    intro h
    obtain ⟨root, hroot, _, hnot⟩ := (h "tick").2 toldOfConcrete_herdParts
    exact hnot (hroots root hroot).2

end SurfaceCoverage
