import SurfaceCoverage.Proofs.Records
import SurfaceCoverage.TargetIndex

/-!
# Target methods and the layout of the sources

The methods that the target index answers for a name are those that some file of some source root
tells of a type whose name folds to the same text.  Which file or root tells them does not matter,
nor how often they are told: two layouts that tell the same methods of the same types answer alike.

**Results.**
* `mem_methodsFor_recordsOf`: an answer is what the layout tells.
* `Extraction.tells_observedRoots_iff`: what a side tells is in the files of its source roots.
* `answers_iff_told`: both together, for every layout and every side.
-/

namespace SurfaceCoverage

/-- Some file of some root tells of the type that it has the method. -/
def Tells (layout : List ObservedRoot) (x m : String) : Prop :=
  ∃ root ∈ layout, ∃ file ∈ root.files, ∃ o ∈ file, o.typeName = x ∧ o.methodName = m

/-- Some type with a name that folds as `n` does is told to have the method. -/
def ToldAs (layout : List ObservedRoot) (n m : String) : Prop :=
  m ≠ "" ∧ ∃ x, x ≠ "" ∧ Text.fold x = Text.fold n ∧ Tells layout x m

theorem ObservedRoot.mem_methodsOf_stream {root : ObservedRoot} {x m : String} :
    m ∈ methodsOf x root.stream ↔
      m ≠ "" ∧ ∃ file ∈ root.files, ∃ o ∈ file, o.typeName = x ∧ o.methodName = m := by
  rw [mem_methodsOf]
  refine and_congr_right fun _ => ?_
  constructor
  · rintro ⟨o, ho, hx, hm⟩
    obtain ⟨file, hfile, hmem⟩ := List.mem_flatten.1 ho
    exact ⟨file, hfile, o, hmem, hx, hm⟩
  · rintro ⟨file, hfile, o, hmem, hx, hm⟩
    exact ⟨o, List.mem_flatten.2 ⟨file, hfile, hmem⟩, hx, hm⟩

theorem exists_mem_recordsOf_iff {tracksInheritance : Bool} {layout : List ObservedRoot}
    {key m : String} :
    (∃ r ∈ recordsOf tracksInheritance layout, Text.fold r.name = key ∧ m ∈ r.methods) ↔
      m ≠ "" ∧ ∃ x, x ≠ "" ∧ Text.fold x = key ∧ Tells layout x m := by
  constructor
  · rintro ⟨r, hr, hkey, hm⟩
    obtain ⟨root, hroot, x, hx, rfl⟩ := mem_recordsOf_iff.1 hr
    obtain ⟨hne, htold⟩ :=
      ObservedRoot.mem_methodsOf_stream.1 (ObservedRoot.mem_methods_record.1 hm)
    exact ⟨hne, x, hx.1, hkey, root, hroot, htold⟩
  · rintro ⟨hne, x, hx, hkey, root, hroot, htold⟩
    have hm : m ∈ methodsOf x root.stream := ObservedRoot.mem_methodsOf_stream.2 ⟨hne, htold⟩
    refine ⟨root.record tracksInheritance x, ?_, hkey, ObservedRoot.mem_methods_record.2 hm⟩
    exact mem_recordsOf_iff.2 ⟨root, hroot, x, occurs_of_mem_methodsOf hx hm, rfl⟩

/-- The index answers what the layout tells. -/
theorem mem_methodsFor_recordsOf {tracksInheritance : Bool} {layout : List ObservedRoot}
    {n m : String} :
    m ∈ (TargetIndex.ofRecords (recordsOf tracksInheritance layout)).methodsFor (some n) ↔
      n ≠ "" ∧ ToldAs layout n m := by
  rw [TargetIndex.mem_methodsFor_ofRecords, exists_mem_recordsOf_iff]
  rfl

/-- What a side tells is what its grammar reads in the files of its source roots. -/
theorem Extraction.tells_observedRoots_iff {d : Files.Disk} {g : Grammar}
    {sources : List SourceRoot} {layout : List ObservedRoot}
    (h : observedRoots d g sources = .ok layout) {x m : String} :
    Tells layout x m ↔
      ∃ root ∈ sources, ∃ files, rootFiles d g.extensions root.path = .ok files
        ∧ ∃ f ∈ files, g.supports f.path = true
        ∧ ∃ o ∈ g.read f.content, o.typeName = x ∧ o.methodName = m := by
  have hfiles : ∀ (category : String) (files : List SourceFile) (told : List Observation),
      told ∈ (observedFiles g category files).files ↔
        ∃ f ∈ files, g.supports f.path = true ∧ g.read f.content = told := by
    intro category files told
    simp [observedFiles, and_assoc]
  constructor
  · rintro ⟨observed, hobserved, told, htold, o, ho, hx, hm⟩
    obtain ⟨root, hroot, files, hreached, rfl⟩ := (mem_observedRoots_iff h).1 hobserved
    obtain ⟨f, hf, hsupports, rfl⟩ := (hfiles _ _ _).1 htold
    exact ⟨root, hroot, files, hreached, f, hf, hsupports, o, ho, hx, hm⟩
  · rintro ⟨root, hroot, files, hreached, f, hf, hsupports, o, ho, hx, hm⟩
    refine ⟨_, (mem_observedRoots_iff h).2 ⟨root, hroot, files, hreached, rfl⟩, _,
      (hfiles _ _ _).2 ⟨f, hf, hsupports, rfl⟩, o, ho, hx, hm⟩

/-- How the target is laid out does not matter.  However the observations are spread over files and
roots, a name that is not empty is answered with exactly the methods that are told of types whose
names fold alike; layouts that tell the same methods of the same types answer alike; and for a side
whose grammar is found and whose source roots can all be reached, that is what its source files
tell. -/
theorem answers_iff_told :
    (∀ (tracksInheritance : Bool) (layout : List ObservedRoot) (n m : String), n ≠ "" →
      (m ∈ (TargetIndex.ofRecords (recordsOf tracksInheritance layout)).methodsFor (some n) ↔
        ToldAs layout n m))
    ∧
    (∀ (tracksInheritance tracksInheritance' : Bool) (layout layout' : List ObservedRoot),
      (∀ x m : String, x ≠ "" → m ≠ "" → (Tells layout x m ↔ Tells layout' x m)) →
      ∀ n m : String,
        m ∈ (TargetIndex.ofRecords (recordsOf tracksInheritance layout)).methodsFor (some n) ↔
          m ∈ (TargetIndex.ofRecords (recordsOf tracksInheritance' layout')).methodsFor (some n))
    ∧
    (∀ (d : Files.Disk) (plugins : List Plugin) (side : Side) (g : Grammar),
      Grammar.find plugins (Text.lower side.grammar) = .ok g →
      ((∃ records, (Extraction.sideRecords d plugins side).result = .ok records) ↔
        ∀ root ∈ side.sources, ∃ files,
          Extraction.rootFiles d g.extensions root.path = .ok files)
      ∧ ∀ records, (Extraction.sideRecords d plugins side).result = .ok records →
        ∀ n m : String, n ≠ "" →
          (m ∈ (TargetIndex.ofRecords records).methodsFor (some n) ↔
            m ≠ "" ∧ ∃ x, x ≠ "" ∧ Text.fold x = Text.fold n
              ∧ ∃ root ∈ side.sources, ∃ files,
                Extraction.rootFiles d g.extensions root.path = .ok files
              ∧ ∃ f ∈ files, g.supports f.path = true
              ∧ ∃ o ∈ g.read f.content, o.typeName = x ∧ o.methodName = m)) := by
  refine ⟨?_, ?_, ?_⟩
  · intro tracksInheritance layout n m hn
    rw [mem_methodsFor_recordsOf]
    exact and_iff_right hn
  · intro tracksInheritance tracksInheritance' layout layout' hsame n m
    rw [mem_methodsFor_recordsOf, mem_methodsFor_recordsOf]
    refine and_congr_right fun _ => and_congr_right fun hm => exists_congr fun x => ?_
    exact and_congr_right fun hx => and_congr_right fun _ => hsame x m hx hm
  · intro d plugins side g hg
    refine ⟨Extraction.exists_result_sideRecords_iff hg, ?_⟩
    intro records hrecords n m hn
    obtain ⟨layout, hlayout, rfl⟩ := (Extraction.result_sideRecords_eq_ok_iff hg).1 hrecords
    rw [mem_methodsFor_recordsOf, and_iff_right hn]
    simp only [ToldAs, Extraction.tells_observedRoots_iff hlayout]

/-- Two methods of one type, in one file. -/
def ghastLayout : List ObservedRoot :=
  [⟨"entity", [[⟨"Ghast", "hit", none, []⟩, ⟨"Ghast", "run", none, []⟩]]⟩]

/-- The same methods, in files of two roots, and one of them twice. -/
def ghastLayoutSplit : List ObservedRoot :=
  [⟨"entity", [[⟨"Ghast", "run", none, []⟩], []]⟩,
    ⟨"block", [[⟨"Ghast", "hit", none, []⟩], [⟨"Ghast", "run", none, []⟩]]⟩]

/-- A disk with a source file. -/
def ghastDisk : Files.Disk :=
  .unguarded (.directory [("t", .directory [("a.rs", .file "impl Ghast{fn hit(){}}".toUTF8)])])

/-- A side with this source file, and a source root that is missing. -/
def ghastSide : Side :=
  ⟨"rust", [⟨.ofString "/s", "entity"⟩, ⟨.ofString "/t", "entity"⟩]⟩

/-- Both layouts answer alike, and the method in the source file is answered. -/
theorem answers_of_ghastLayouts :
    (∀ x m : String, x ≠ "" → m ≠ "" → (Tells ghastLayout x m ↔ Tells ghastLayoutSplit x m))
    ∧ (∀ m : String,
      m ∈ (TargetIndex.ofRecords (recordsOf false ghastLayout)).methodsFor (some "GHAST") ↔
        m ∈ (TargetIndex.ofRecords (recordsOf false ghastLayoutSplit)).methodsFor (some "GHAST"))
    ∧ "run" ∈ (TargetIndex.ofRecords (recordsOf false ghastLayoutSplit)).methodsFor (some "GHAST")
    ∧ Grammar.find [] (Text.lower ghastSide.grammar) = .ok .rust
    ∧ ∃ records, (Extraction.sideRecords ghastDisk [] ghastSide).result = .ok records
      ∧ "hit" ∈ (TargetIndex.ofRecords records).methodsFor (some "GHAST") := by
  obtain ⟨hlaid, hsame, hside⟩ := answers_iff_told
  have hlayouts : ∀ x m : String, x ≠ "" → m ≠ "" →
      (Tells ghastLayout x m ↔ Tells ghastLayoutSplit x m) := by
    intro x m _ _
    simp [Tells, ghastLayout, ghastLayoutSplit]
    tauto
  have hfold : Text.fold "Ghast" = Text.fold "GHAST" := by decide +kernel
  have hrust : Grammar.find [] (Text.lower ghastSide.grammar) = .ok .rust := by
    have hlower : Text.lower ghastSide.grammar = "rust" := by decide +kernel
    rw [hlower]
    exact Grammar.find_rust []
  have hrun : Tells ghastLayoutSplit "Ghast" "run" :=
    ⟨_, List.mem_cons_self, _, List.mem_cons_self, _, List.mem_cons_self, rfl, rfl⟩
  have hreached : ∀ root ∈ ghastSide.sources,
      (Extraction.rootFiles ghastDisk Grammar.rust.extensions root.path).toOption.isSome =
        true := by
    decide +kernel
  have hfound : ∀ root ∈ ghastSide.sources, ∃ files,
      Extraction.rootFiles ghastDisk Grammar.rust.extensions root.path = .ok files := by
    intro root hroot
    obtain ⟨files, hfiles⟩ := Option.isSome_iff_exists.1 (hreached root hroot)
    exact ⟨files, eq_ok_of_toOption hfiles⟩
  have htold : ((Extraction.rootFiles ghastDisk Grammar.rust.extensions
      (.ofString "/t")).toOption.map fun files => files.any fun f => Grammar.rust.supports f.path
        && (Grammar.rust.read f.content).any fun o =>
          o.typeName == "Ghast" && o.methodName == "hit") = some true := by
    decide +kernel
  have hhit : ∃ root ∈ ghastSide.sources, ∃ files,
      Extraction.rootFiles ghastDisk Grammar.rust.extensions root.path = .ok files
      ∧ ∃ f ∈ files, Grammar.rust.supports f.path = true
        ∧ ∃ o ∈ Grammar.rust.read f.content, o.typeName = "Ghast" ∧ o.methodName = "hit" := by
    obtain ⟨files, hfiles, hany⟩ := Option.map_eq_some_iff.1 htold
    obtain ⟨f, hf, hboth⟩ := List.any_eq_true.1 hany
    obtain ⟨hsupports, hread⟩ := Bool.and_eq_true_iff.1 hboth
    obtain ⟨o, ho, hnames⟩ := List.any_eq_true.1 hread
    rw [Bool.and_eq_true_iff, beq_iff_eq, beq_iff_eq] at hnames
    exact ⟨_, List.mem_cons_of_mem _ List.mem_cons_self, files, eq_ok_of_toOption hfiles, f, hf,
      hsupports, o, ho, hnames⟩
  obtain ⟨hreturns, hanswers⟩ := hside ghastDisk [] ghastSide .rust hrust
  obtain ⟨records, hresult⟩ := hreturns.2 hfound
  refine ⟨hlayouts, hsame false false _ _ hlayouts "GHAST", ?_, hrust, records, hresult, ?_⟩
  · exact (hlaid false ghastLayoutSplit "GHAST" "run" (by decide)).2
      ⟨by decide, "Ghast", by decide, hfold, hrun⟩
  · exact (hanswers records hresult "GHAST" "hit" (by decide)).2
      ⟨by decide, "Ghast", by decide, hfold, hhit⟩

end SurfaceCoverage
