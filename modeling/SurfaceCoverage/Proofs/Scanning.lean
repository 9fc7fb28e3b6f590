import SurfaceCoverage.Extraction
import SurfaceCoverage.Proofs.Evidence
import SurfaceCoverage.Proofs.LowerCase

/-!
# Which files are scanned

The scan of a source root yields the readable files that stand below it and have a wanted suffix.
It reads an extension with or without its dot, and in any case; a grammar compares the suffix of a
file with its extensions as they are written.  So a file may be scanned and then left out, and a
file without a suffix is never scanned, even if its grammar asks for it.

**Results.**
* `Sources.mem_below_iff`: which files stand below a directory.
* `Sources.mem_filesOf_iff`: which files are scanned.
* `Grammar.hasSuffix_of_supports`: a suffix that a grammar asks for is looked for.
* `Grammar.agrees_of_suffixFor`: the scan and a grammar agree where extensions are written as they
  are looked for.
* `Grammar.agrees_of_mem_builtIn`: so do the scan and a built-in grammar.
* `Grammar.scan_agrees_iff`: when they agree over a directory.
-/

namespace SurfaceCoverage

namespace Files.Path

/-- A suffix starts with a dot, unless there is none. -/
theorem suffix_cases (p : Path) :
    p.suffix = "" ∨ p.suffix.toList.head? = some '.' := by
  unfold suffix suffixOf
  simp only
  split
  · right
    rw [String.toList_ofList]
    rfl
  · exact Or.inl rfl

end Files.Path

namespace Sources

open Files

/-! ### Files below a directory -/

/-- The file at a path stands below the node at `p`: it is an entry of a directory there, and no
directory on the way is one of those that are left out, or cannot be listed. -/
inductive Below (d : Disk) : Path → Node → Path → Prop
  | entry {p entries entry} (hlist : d.canList p = true) (hmem : entry ∈ entries)
      (hfile : isFileEntry d p entry = true) :
      Below d p (.directory entries) (p.child entry.1)
  | inside {p entries name inner q} (hlist : d.canList p = true)
      (hmem : (name, Node.directory inner) ∈ entries) (hname : name ∉ excluded)
      (h : Below d (p.child name) (.directory inner) q) :
      Below d p (.directory entries) q

variable {d : Disk}

theorem mem_belowEach_iff {p : Path} {entries : List (String × Node)} {x : String × List Path} :
    x ∈ belowEach d p entries ↔
      ∃ inner, (x.1, Node.directory inner) ∈ entries ∧ x.1 ∉ excluded
        ∧ below d (p.child x.1) (.directory inner) = x.2 := by
  induction entries with
  | nil => simp [belowEach]
  | cons first rest ih =>
    obtain ⟨name, n⟩ := first
    cases n with
    | file content => simp [belowEach, ih]
    | link target => simp [belowEach, ih]
    | directory inner =>
      rw [belowEach]
      split
      · next hname =>
        rw [ih]
        refine exists_congr fun inner' => ?_
        simp only [List.mem_cons, Prod.mk.injEq, Node.directory.injEq]
        constructor
        · rintro ⟨hmem, hrest⟩
          exact ⟨Or.inr hmem, hrest⟩
        · rintro ⟨⟨rfl, -⟩ | hmem, hx, hbelow⟩
          · exact absurd hname hx
          · exact ⟨hmem, hx, hbelow⟩
      · next hname =>
        obtain ⟨name', files⟩ := x
        simp only [List.mem_cons, ih, Prod.mk.injEq, Node.directory.injEq]
        constructor
        · rintro (⟨rfl, rfl⟩ | ⟨inner', hmem, hrest⟩)
          · exact ⟨inner, Or.inl ⟨rfl, rfl⟩, hname, rfl⟩
          · exact ⟨inner', Or.inr hmem, hrest⟩
        · rintro ⟨inner', ⟨rfl, rfl⟩ | hmem, hx, hbelow⟩
          · exact Or.inl ⟨rfl, hbelow.symm⟩
          · exact Or.inr ⟨inner', hmem, hx, hbelow⟩

/-- One level of a directory. -/
theorem mem_below_directory_iff {p q : Path} {entries : List (String × Node)} :
    q ∈ below d p (.directory entries) ↔
      d.canList p = true
        ∧ ((∃ entry ∈ entries, isFileEntry d p entry = true ∧ p.child entry.1 = q)
          ∨ ∃ name inner, (name, Node.directory inner) ∈ entries ∧ name ∉ excluded
            ∧ q ∈ below d (p.child name) (.directory inner)) := by
  rw [below, List.mem_ite_nil_right, List.mem_append, List.mem_map, List.mem_flatMap]
  refine and_congr_right fun _ => or_congr ?_ ?_
  · constructor
    · rintro ⟨name, hname, rfl⟩
      obtain ⟨entry, hmem, hfile, rfl⟩ := (mem_ownFiles d p entries name).1 hname
      exact ⟨entry, hmem, hfile, rfl⟩
    · rintro ⟨entry, hmem, hfile, rfl⟩
      exact ⟨entry.1, (mem_ownFiles d p entries _).2 ⟨entry, hmem, hfile, rfl⟩, rfl⟩
  · simp only [List.mem_mergeSort, mem_belowEach_iff]
    constructor
    · rintro ⟨x, ⟨inner, hmem, hname, hbelow⟩, hq⟩
      exact ⟨x.1, inner, hmem, hname, hbelow ▸ hq⟩
    · rintro ⟨name, inner, hmem, hname, hq⟩
      exact ⟨⟨name, _⟩, ⟨inner, hmem, hname, rfl⟩, hq⟩

/-- By recursion over the tree. -/
theorem below_of_mem {p q : Path} : {n : Node} → q ∈ below d p n → Below d p n q
  | .file _, h => by
    rw [below_file] at h
    cases h
  | .link _, h => by
    rw [below_link] at h
    cases h
  | .directory entries, h => by
    obtain ⟨hlist, ⟨entry, hmem, hfile, rfl⟩ | ⟨name, inner, hmem, hname, hq⟩⟩ :=
      mem_below_directory_iff.1 h
    · exact .entry hlist hmem hfile
    · -- the recursion goes down to an entry of the directory
      have hsmaller : sizeOf (Node.directory inner) < sizeOf (Node.directory entries) := by
        have hentry := List.sizeOf_lt_of_mem hmem
        simp only [Prod.mk.sizeOf_spec, Node.directory.sizeOf_spec] at hentry ⊢
        omega
      exact .inside hlist hmem hname (below_of_mem hq)
termination_by n => sizeOf n
decreasing_by exact hsmaller

theorem mem_below_iff {p q : Path} {n : Node} :
    q ∈ below d p n ↔ Below d p n q := by
  refine ⟨below_of_mem, fun h => ?_⟩
  induction h with
  | entry hlist hmem hfile =>
    exact mem_below_directory_iff.2 ⟨hlist, Or.inl ⟨_, hmem, hfile, rfl⟩⟩
  | inside hlist hmem hname _ ih =>
    exact mem_below_directory_iff.2 ⟨hlist, Or.inr ⟨_, _, hmem, hname, ih⟩⟩

/-- The file can be read, and it stands below the directory at the path. -/
def Holds (d : Disk) (root : Path) (f : SourceFile) : Prop :=
  ∃ n content, d.node root = .ok n ∧ Below d root n f.path
    ∧ d.read f.path = .ok content ∧ content.toList = f.content

/-- The files that are read are those that can be. -/
theorem mem_readAll_iff {paths : List Path} {f : SourceFile} :
    f ∈ (readAll d paths).2 ↔
      f.path ∈ paths ∧ ∃ content, d.read f.path = .ok content ∧ content.toList = f.content := by
  induction paths with
  | nil => simp [readAll]
  | cons p rest ih =>
    rw [readAll]
    cases hread : d.read p with
    | error e =>
      simp only [ih, List.mem_cons]
      constructor
      · rintro ⟨hmem, hcontent⟩
        exact ⟨Or.inr hmem, hcontent⟩
      · rintro ⟨hp | hmem, content, hcontent, hbytes⟩
        · rw [hp, hread] at hcontent
          cases hcontent
        · exact ⟨hmem, content, hcontent, hbytes⟩
    | ok content =>
      simp only [ih, List.mem_cons]
      constructor
      · rintro (rfl | ⟨hmem, hcontent⟩)
        · exact ⟨Or.inl rfl, content, hread, rfl⟩
        · exact ⟨Or.inr hmem, hcontent⟩
      · rintro ⟨hp | hmem, content', hcontent, hbytes⟩
        · left
          obtain ⟨path, bytes⟩ := f
          cases hp
          obtain rfl := Except.ok.inj (hread.symm.trans hcontent)
          cases hbytes
          rfl
        · exact Or.inr ⟨hmem, content', hcontent, hbytes⟩

/-- The scan yields the files that can be read, stand below the directory and have a suffix that is
looked for. -/
theorem mem_filesOf_iff {root : Path} {extensions : List String} {f : SourceFile} :
    f ∈ (filesOf d root extensions).2 ↔
      Holds d root f ∧ hasSuffix (extensions.map suffixFor) f.path = true := by
  unfold filesOf Holds
  cases hnode : d.node root with
  | error e => simp
  | ok n =>
    simp only [mem_readAll_iff, List.mem_filter, mem_below_iff, Except.ok.injEq]
    constructor
    · rintro ⟨⟨hbelow, hsuffix⟩, content, hread, hbytes⟩
      exact ⟨⟨n, content, rfl, hbelow, hread, hbytes⟩, hsuffix⟩
    · rintro ⟨⟨n', content, rfl, hbelow, hread, hbytes⟩, hsuffix⟩
      exact ⟨⟨hbelow, hsuffix⟩, content, hread, hbytes⟩

/-- A scan fails if its root has no home directory or cannot be looked at. -/
theorem result_scan (d : Disk) (root : Path) (extensions : List String) :
    (scan d root extensions).result = (do
      let p ← d.expandHome root
      let _ ← (d.seesDirectory p).mapError .file
      return (filesOf d p extensions).2) := by
  rw [scan, Log.Step.result_bind, Log.Step.ofResult]
  cases d.expandHome root with
  | error e => rfl
  | ok p =>
    have hsees : ∀ next : Bool → Log.Step PathError (List SourceFile),
        (Log.Step.ofResult ((d.seesDirectory p).mapError .file) >>= next).result =
          (d.seesDirectory p).mapError .file >>= fun seen => (next seen).result :=
      fun next => Log.Step.result_bind _ next
    simp only [bind_ok, hsees]
    rfl

/-- A scan of a directory that can be looked at yields its files. -/
theorem result_scan_of_sees {root p : Path} (hroot : d.expandHome root = .ok p) {seen : Bool}
    (hsees : d.seesDirectory p = .ok seen) (extensions : List String) :
    (scan d root extensions).result = .ok (filesOf d p extensions).2 := by
  rw [result_scan, hroot, bind_ok, hsees]
  rfl

/-- A scan of what cannot be looked at fails. -/
theorem result_scan_of_refused {root p : Path} (hroot : d.expandHome root = .ok p) {e : FileError}
    (hsees : d.seesDirectory p = .error e) (extensions : List String) :
    (scan d root extensions).result = .error (.file e) := by
  rw [result_scan, hroot, bind_ok, hsees]
  rfl

/-! ### Suffixes -/

/-- A suffix is looked for in any case, and with a dot in front. -/
theorem hasSuffix_iff {extensions : List String} {p : Path} :
    hasSuffix (extensions.map suffixFor) p = true ↔
      ∃ e ∈ extensions, suffixFor e = Text.lower p.suffix := by
  rw [hasSuffix, List.contains_iff_mem, List.mem_map]

/-- Every suffix that is looked for begins with a dot. -/
theorem head?_suffixFor (e : String) :
    (suffixFor e).toList.head? = some '.' := by
  unfold suffixFor
  split
  · next hdot => exact Text.head?_lower_of_dot hdot
  · rw [String.toList_append]
    rfl

/-- A suffix in lower case is looked for as it is. -/
theorem suffixFor_lower {s : String} (h : s.toList.head? = some '.') :
    suffixFor (Text.lower s) = Text.lower s := by
  rw [suffixFor, if_pos (Text.head?_lower_of_dot h), Text.lower_lower]

/-- Without a suffix, a file is never scanned. -/
theorem hasSuffix_of_no_suffix {p : Path} (h : p.suffix = "") (extensions : List String) :
    hasSuffix (extensions.map suffixFor) p = false := by
  rw [Bool.eq_false_iff]
  intro hsuffix
  obtain ⟨e, -, he⟩ := hasSuffix_iff.1 hsuffix
  have hdot := head?_suffixFor e
  rw [he, h] at hdot
  cases hdot

end Sources

namespace Grammar

open Sources

variable {g : Grammar} {p : Files.Path}

theorem supports_iff :
    g.supports p = true ↔ Text.lower p.suffix ∈ g.extensions := by
  rw [supports, List.contains_iff_mem]

/-- A suffix that a grammar asks for is looked for. -/
theorem hasSuffix_of_supports (h : g.supports p = true) (hsuffix : p.suffix ≠ "") :
    hasSuffix (g.extensions.map suffixFor) p = true := by
  have hdot := p.suffix_cases.resolve_left hsuffix
  -- the extension that the grammar has is in lower case, as the suffix of the file is
  exact hasSuffix_iff.2 ⟨_, supports_iff.1 h, suffixFor_lower hdot⟩

/-- The grammar asks for a file that is not scanned only if the file has no suffix. -/
theorem supports_not_scanned_iff :
    g.supports p = true ∧ hasSuffix (g.extensions.map suffixFor) p = false ↔
      "" ∈ g.extensions ∧ p.suffix = "" := by
  constructor
  · rintro ⟨hsupports, hscan⟩
    have hsuffix : p.suffix = "" := by
      by_contra hsuffix
      rw [hasSuffix_of_supports hsupports hsuffix] at hscan
      cases hscan
    rw [supports_iff, hsuffix] at hsupports
    exact ⟨hsupports, hsuffix⟩
  · rintro ⟨hempty, hsuffix⟩
    refine ⟨supports_iff.2 ?_, hasSuffix_of_no_suffix hsuffix _⟩
    rw [hsuffix]
    exact hempty

/-! ### Agreement over a directory -/

section Directory

variable {d : Files.Disk} {root : Files.Path}

/-- When every file that is scanned is supported. -/
theorem forall_supports_iff :
    (∀ f ∈ (filesOf d root g.extensions).2, g.supports f.path = true) ↔
      ∀ f, Holds d root f → ∀ e ∈ g.extensions, suffixFor e = Text.lower f.path.suffix →
        suffixFor e ∈ g.extensions := by
  constructor
  · intro hall f hf e he hsuffix
    have hsupports := hall f (mem_filesOf_iff.2 ⟨hf, hasSuffix_iff.2 ⟨e, he, hsuffix⟩⟩)
    rw [hsuffix]
    exact supports_iff.1 hsupports
  · intro hwritten f hf
    obtain ⟨hholds, hscan⟩ := mem_filesOf_iff.1 hf
    obtain ⟨e, he, hsuffix⟩ := hasSuffix_iff.1 hscan
    rw [supports_iff, ← hsuffix]
    exact hwritten f hholds e he hsuffix

/-- When every file that is supported is scanned. -/
theorem forall_scanned_iff :
    (∀ f, Holds d root f → g.supports f.path = true → f ∈ (filesOf d root g.extensions).2) ↔
      ("" ∈ g.extensions → ∀ f, Holds d root f → f.path.suffix ≠ "") := by
  constructor
  · intro hall hempty f hf hsuffix
    obtain ⟨hsupports, hscan⟩ := supports_not_scanned_iff.2 ⟨hempty, hsuffix⟩
    rw [(mem_filesOf_iff.1 (hall f hf hsupports)).2] at hscan
    cases hscan
  · intro hnone f hf hsupports
    refine mem_filesOf_iff.2 ⟨hf, ?_⟩
    by_contra hscan
    obtain ⟨hempty, hsuffix⟩ :=
      supports_not_scanned_iff.1 ⟨hsupports, Bool.eq_false_iff.2 hscan⟩
    exact hnone hempty f hf hsuffix

/-- Files that are all of the grammar all go into its graph. -/
theorem graph_of_forall_supports {files : List SourceFile}
    (h : ∀ f ∈ files, g.supports f.path = true) :
    g.graph files = .mergeAll (files.map g.fileGraph) := by
  rw [graph, List.filter_eq_self.2 h]

/-- The scan and the grammar agree, if the extensions are written as they are looked for. -/
theorem agrees_of_suffixFor (h : ∀ e ∈ g.extensions, suffixFor e = e) :
    (∀ f ∈ (filesOf d root g.extensions).2, g.supports f.path = true)
      ∧ ∀ f, Holds d root f → g.supports f.path = true →
        f ∈ (filesOf d root g.extensions).2 := by
  refine ⟨forall_supports_iff.2 fun f _ e he _ => ?_, forall_scanned_iff.2 fun hempty => ?_⟩
  · rw [h e he]
    exact he
  · have hdot := head?_suffixFor ""
    rw [h "" hempty] at hdot
    cases hdot

/-- The scan and a built-in grammar agree. -/
theorem agrees_of_mem_builtIn (hg : g ∈ builtIn) :
    (∀ f ∈ (filesOf d root g.extensions).2, g.supports f.path = true)
      ∧ ∀ f, Holds d root f → g.supports f.path = true →
        f ∈ (filesOf d root g.extensions).2 := by
  have hplain : ∀ e ∈ builtIn.flatMap extensions, suffixFor e = e := by
    decide +kernel
  exact agrees_of_suffixFor fun e he => hplain e (List.mem_flatMap.2 ⟨g, hg, he⟩)

end Directory

/-- When the scan of a directory and the grammar agree.  No scanned file is left out exactly if
every suffix that is looked for and met is written among the extensions as it is looked for.  No
file that the grammar asks for is missed exactly if the grammar does not ask for files without a
suffix, or if there are none.  There is no scan if the system refuses to look at the root. -/
theorem scan_agrees_iff {d : Files.Disk} {g : Grammar} {root p : Files.Path}
    (hroot : d.expandHome root = .ok p) :
    (∀ e, d.seesDirectory p = .error e →
      (scan d root g.extensions).result = .error (.file e))
    ∧ ∀ seen, d.seesDirectory p = .ok seen →
      ∃ files, (scan d root g.extensions).result = .ok files
        ∧ ((∀ f ∈ files, g.supports f.path = true) ↔
          ∀ f, Holds d p f → ∀ e ∈ g.extensions, suffixFor e = Text.lower f.path.suffix →
            suffixFor e ∈ g.extensions)
        ∧ ((∀ f ∈ files, g.supports f.path = true) →
          g.graph files = .mergeAll (files.map g.fileGraph))
        ∧ ((∀ f, Holds d p f → g.supports f.path = true → f ∈ files) ↔
          ("" ∈ g.extensions → ∀ f, Holds d p f → f.path.suffix ≠ "")) := by
  refine ⟨fun e hsees => result_scan_of_refused hroot hsees g.extensions, fun seen hsees => ?_⟩
  exact ⟨_, result_scan_of_sees hroot hsees g.extensions, forall_supports_iff,
    graph_of_forall_supports, forall_scanned_iff⟩

/-- A source root with a Java file and a file without a suffix. -/
def mixedDisk : Files.Disk :=
  .unguarded (.directory [("A.java", .file ByteArray.empty), ("README", .file ByteArray.empty)])

/-- An empty file of this source root. -/
def mixedFile (name : String) : SourceFile :=
  ⟨⟨.root, [name]⟩, ByteArray.empty.toList⟩

theorem holds_mixedFile {name : String} (h : name ∈ ["A.java", "README"]) :
    Holds mixedDisk ⟨.root, []⟩ (mixedFile name) := by
  rcases List.mem_pair.1 h with rfl | rfl
  · exact ⟨mixedDisk.root, ByteArray.empty, rfl, .entry rfl (List.mem_cons_self ..) rfl,
      eq_ok_of_toOption (by decide +kernel), rfl⟩
  · exact ⟨mixedDisk.root, ByteArray.empty, rfl,
      .entry rfl (List.mem_cons_of_mem _ (List.mem_cons_self ..)) rfl,
      eq_ok_of_toOption (by decide +kernel), rfl⟩

/-- The Java file is scanned, and is of the grammar. -/
theorem java_agrees_on_mixedDisk :
    mixedDisk.expandHome ⟨.root, []⟩ = .ok ⟨.root, []⟩
      ∧ ∃ files, (scan mixedDisk ⟨.root, []⟩ java.extensions).result = .ok files
        ∧ mixedFile "A.java" ∈ files ∧ ∀ f ∈ files, java.supports f.path = true := by
  have hroot : mixedDisk.expandHome ⟨.root, []⟩ = .ok ⟨.root, []⟩ := rfl
  obtain ⟨files, hscan, hsupported, -, hscanned⟩ :=
    (@scan_agrees_iff mixedDisk java _ _ hroot).2 true rfl
  refine ⟨hroot, files, hscan, ?_, hsupported.2 fun f _ e he _ => ?_⟩
  · refine hscanned.2 (fun hempty => ?_) _ (holds_mixedFile (by decide)) (by decide +kernel)
    exact absurd hempty (by decide)
  · obtain rfl := List.mem_singleton.1 he
    decide +kernel

/-- The Java grammar with an extension in the wrong case, and one without a suffix. -/
def loudJava : Grammar :=
  { java with extensions := [".Java", ""] }

/-- The scan yields the Java file, which the grammar leaves out, and misses the other one, which the
grammar asks for. -/
theorem loudJava_disagrees :
    ∃ files, (scan mixedDisk ⟨.root, []⟩ loudJava.extensions).result = .ok files
      ∧ (∃ f ∈ files, loudJava.supports f.path = false)
      ∧ ∃ f, Holds mixedDisk ⟨.root, []⟩ f ∧ loudJava.supports f.path = true ∧ f ∉ files := by
  refine ⟨(filesOf mixedDisk ⟨.root, []⟩ loudJava.extensions).2, rfl, ?_, ?_⟩
  · refine ⟨mixedFile "A.java", mem_filesOf_iff.2 ⟨holds_mixedFile (by decide), ?_⟩, ?_⟩
    · decide +kernel
    · decide +kernel
  · refine ⟨mixedFile "README", holds_mixedFile (by decide), by decide +kernel, fun hmem => ?_⟩
    have hsuffix := (mem_filesOf_iff.1 hmem).2
    rw [hasSuffix_of_no_suffix (show (mixedFile "README").path.suffix = "" by decide +kernel)]
      at hsuffix
    cases hsuffix

end Grammar

end SurfaceCoverage
