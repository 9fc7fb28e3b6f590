import Mathlib.Data.List.Nodup
import Mathlib.Data.List.TakeWhile
import SurfaceCoverage.Analysis
import SurfaceCoverage.Proofs.Evidence
import SurfaceCoverage.Proofs.Slots

/-!
# When reports are written

Everything in front of the reports leaves the files alone, but for the log file.  The reports follow
one another: those in front of the first one that cannot be written have been written when the run
fails, so a run that fails may well leave a part of its reports.  A report that is opened before its
write fails holds what the device took of it.  When no write fails, each file that a report leads to
holds the last of these reports.

**Results.**
* `Session.keepsFiles_logAll`: logging changes the log file only.
* `onlyLogs_findings`: what comes in front of the reports only logs.
* `reports_written_in_order`: what a run leaves, however it ends.
-/

namespace SurfaceCoverage

/-! ### Logging -/

namespace Session

/-- The slot of the log file. -/
def logSlot? (s : Session) : Option (List String) :=
  s.logFile.bind s.disk.slot?

/-- The log file, if lines go to one, is there. -/
def LogIsOpen (s : Session) : Prop :=
  ∀ p, s.logFile = some p → ∃ content, s.disk.contentAt? p = some content

/-- No file has been created or changed, but for the log file. -/
structure KeepsFiles (s later : Session) : Prop where
  logFile : later.logFile = s.logFile
  grows : s.disk.Grows later.disk
  files : ∀ names, s.logSlot? ≠ some names → later.disk.fileAt? names = s.disk.fileAt? names

theorem KeepsFiles.refl (s : Session) : KeepsFiles s s :=
  ⟨rfl, .refl s.disk, fun _ _ => rfl⟩

variable {s later : Session}

/-- A log file that is there stays where it is. -/
theorem logSlot?_of_grows (hopen : s.LogIsOpen) (hlog : later.logFile = s.logFile)
    (hgrows : s.disk.Grows later.disk) :
    later.logSlot? = s.logSlot? ∧ later.LogIsOpen := by
  unfold logSlot? LogIsOpen
  rw [hlog]
  cases hfile : s.logFile with
  | none => exact ⟨rfl, fun p hp => by cases hp⟩
  | some p =>
    obtain ⟨content, hcontent⟩ := hopen p hfile
    obtain ⟨slot, hplace, hfound⟩ := Files.Disk.contentAt?_eq_some_iff.1 hcontent
    have hkind : s.disk.root.kindAt? slot = some .file :=
      Files.Node.kindAt?_eq_file_iff.2 ⟨content, hfound⟩
    obtain ⟨content', hfound'⟩ :=
      Files.Node.kindAt?_eq_file_iff.1 (hgrows.keeps slot _ hkind)
    have hplace' := Files.Disk.place_of_grows hgrows true p
    rw [hplace] at hplace'
    have hsame : later.disk.openAt p = s.disk.openAt p := by
      rw [Files.Disk.openAt_of_found hplace hfound, Files.Disk.openAt_of_found hplace' hfound']
      exact Files.Disk.guarded_of_guard hgrows.guard _ _ _
    refine ⟨?_, fun q hq => ?_⟩
    · rw [Option.bind_some, Option.bind_some, Files.Disk.slot?, hsame, Files.Disk.slot?]
    · cases hq
      exact ⟨content', Files.Disk.contentAt?_eq_some_iff.2 ⟨slot, hplace', hfound'⟩⟩

/-- One part of a run behind another one. -/
theorem KeepsFiles.trans {last : Session} (hopen : s.LogIsOpen) (h : KeepsFiles s later)
    (h' : KeepsFiles later last) :
    KeepsFiles s last where
  logFile := h'.logFile.trans h.logFile
  grows := h.grows.trans h'.grows
  files names hnames := by
    have hslot := (logSlot?_of_grows hopen h.logFile h.grows).1
    rw [h'.files names (hslot ▸ hnames), h.files names hnames]

/-- A log file that is there stays there. -/
theorem KeepsFiles.logIsOpen (hopen : s.LogIsOpen) (h : KeepsFiles s later) :
    later.LogIsOpen :=
  (logSlot?_of_grows hopen h.logFile h.grows).2

/-- What is written to the log file changes no other file, however much of it is taken. -/
theorem keepsFiles_append {p : Files.Path} (hlog : s.logFile = some p) (bytes : ByteArray) :
    KeepsFiles s { s with disk := (s.disk.append p bytes).1 } := by
  rw [Files.Disk.append]
  cases hslot : s.disk.slot? p with
  | none =>
    obtain ⟨e, he⟩ := Files.Disk.update_of_no_slot id bytes hslot
    rw [he]
    exact .refl s
  | some slot =>
    have htakes := Files.Disk.takes_of_slot? hslot
    rw [Files.Disk.fst_update_of_slot? id bytes hslot]
    refine ⟨rfl, (Files.Disk.fills_put htakes _).grows, fun names hnames => ?_⟩
    have hne : names ≠ slot := by
      rintro rfl
      exact hnames (by rw [logSlot?, hlog, Option.bind_some, hslot])
    rw [Files.Disk.fileAt?_put htakes, if_neg hne]

/-- By induction on the lines: each goes to the log file only. -/
theorem keepsFiles_taken (hopen : s.LogIsOpen) (lines : List Log.Line) :
    KeepsFiles s { s with disk := s.taken lines } := by
  rcases Option.eq_none_or_eq_some s.logFile with hlog | ⟨p, hlog⟩
  · have hsame : s.taken lines = s.disk := by simp only [taken, hlog]
    rw [hsame]
    exact .refl s
  · induction lines generalizing s with
    | nil =>
      have hsame : s.taken [] = s.disk := by simp only [taken, hlog, List.foldl_nil]
      rw [hsame]
      exact .refl s
    | cons l rest ih =>
      have hfirst := keepsFiles_append hlog (l.fileText s.stamp).toUTF8
      have hrest := ih (hfirst.logIsOpen hopen) hlog
      refine hfirst.trans hopen ?_
      simp only [taken, hlog, List.foldl_cons] at hrest ⊢
      exact hrest

/-- Logging changes the log file only. -/
theorem keepsFiles_logAll (hopen : s.LogIsOpen) (lines : List Log.Line) :
    KeepsFiles s (s.logAll lines) := by
  unfold logAll
  simp only
  split
  · exact .refl s
  · have htaken := keepsFiles_taken hopen (lines.filter fun l => l.reaches s.threshold)
    exact ⟨htaken.logFile, htaken.grows, htaken.files⟩

/-- A log file that was opened is there. -/
theorem logIsOpen_of_openLogFile {p : Files.Path} (h : s.openLogFile p = (later, .ok ())) :
    later.LogIsOpen := by
  unfold openLogFile at h
  split at h
  · cases h
  split at h
  · cases h
  split at h
  · cases h
  · next htouch =>
    cases h
    intro q hq
    cases hq
    exact Files.Disk.exists_content_of_touch htouch

/-- Lines go to a file only if it was opened. -/
theorem logIsOpen_of_configure {verbose quiet : Bool} {logFile : Option Files.Path}
    (h : s.configure verbose quiet logFile = (later, .ok ())) :
    later.LogIsOpen := by
  cases logFile with
  | none =>
    cases h
    exact fun p hp => by cases hp
  | some p => exact logIsOpen_of_openLogFile h

end Session

namespace Analysis

/-! ### Runs -/

section Runs

variable {α β : Type} (s : Session)

theorem run_say (lines : List Log.Line) :
    (say lines).run.run s = (.ok (), s.logAll lines) :=
  rfl

/-- A part of a run that fails is the last one. -/
theorem run_bind (m : Run α) (f : α → Run β) :
    (m >>= f).run.run s =
      match m.run.run s with
      | (.error e, s) => (.error e, s)
      | (.ok a, s) => (f a).run.run s := by
  rw [ExceptT.run_bind, StateT.run_bind]
  cases m.run.run s with
  | mk result later =>
    cases result with
    | error e => rfl
    | ok a => rfl

/-- A step logs its lines, whether it fails or not. -/
theorem run_take {ε : Type} (wrap : ε → AnalysisError) (step : Files.Disk → Log.Step ε α) :
    (take wrap step).run.run s =
      match (step s.disk).result with
      | .ok a => (.ok a, s.logAll (step s.disk).lines)
      | .error e => (.error (wrap e), s.logAll (step s.disk).lines) := by
  have hget : (get : Run Session).run.run s = (.ok s, s) := rfl
  rw [take, run_bind, hget]
  simp only
  rw [run_bind, run_say]
  simp only
  cases (step s.disk).result with
  | error e => rfl
  | ok a => rfl

end Runs

/-- A part of a run that changes no file but the log file. -/
def OnlyLogs {α : Type} (m : Run α) : Prop :=
  ∀ s : Session, s.LogIsOpen → s.KeepsFiles (m.run.run s).2

theorem onlyLogs_pure {α : Type} (a : α) : OnlyLogs (pure a) :=
  fun s _ => .refl s

theorem onlyLogs_say (lines : List Log.Line) : OnlyLogs (say lines) :=
  fun _ hopen => Session.keepsFiles_logAll hopen lines

theorem onlyLogs_take {α ε : Type} (wrap : ε → AnalysisError)
    (step : Files.Disk → Log.Step ε α) :
    OnlyLogs (take wrap step) := by
  intro s hopen
  rw [run_take]
  split <;> exact Session.keepsFiles_logAll hopen _

/-- Parts that only log do so one behind the other. -/
theorem onlyLogs_bind {α β : Type} {m : Run α} {f : α → Run β} (hm : OnlyLogs m)
    (hf : ∀ a, OnlyLogs (f a)) :
    OnlyLogs (m >>= f) := by
  intro s hopen
  have hfirst := hm s hopen
  rw [run_bind]
  cases hrun : m.run.run s with
  | mk result later =>
    rw [hrun] at hfirst
    cases result with
    | error e => exact hfirst
    | ok a => exact hfirst.trans hopen (hf a later (hfirst.logIsOpen hopen))

theorem onlyLogs_score (a : Analyzer) (reference target : List ClassRecord) :
    OnlyLogs (score a reference target) :=
  onlyLogs_bind (onlyLogs_say _) fun _ => onlyLogs_bind (onlyLogs_say _) fun _ => onlyLogs_pure _

/-- What comes in front of the reports only logs. -/
theorem onlyLogs_findings (r : Runtime) (plugins : List Plugin) (request : Request) :
    OnlyLogs (findings r plugins request) := by
  unfold findings
  refine onlyLogs_bind (onlyLogs_take _ _) fun settings => ?_
  refine onlyLogs_bind (onlyLogs_say _) fun _ => ?_
  refine onlyLogs_bind (onlyLogs_take _ _) fun tables => ?_
  refine onlyLogs_bind (onlyLogs_take _ _) fun mappings => ?_
  refine onlyLogs_bind (onlyLogs_take _ _) fun reference => ?_
  refine onlyLogs_bind (onlyLogs_take _ _) fun target => ?_
  refine onlyLogs_bind (onlyLogs_say _) fun _ => ?_
  refine onlyLogs_bind (onlyLogs_score _ _ _) fun outcome => ?_
  exact onlyLogs_pure _

/-! ### Reports -/

/-- The reports of an outcome, in the order in which they are written. -/
def reportTexts (directory : Files.Path) (o : Outcome) : List (Files.Path × String) :=
  [(directory.child Report.referenceFile, Report.classesText o.reference),
    (directory.child Report.targetFile, Report.classesText o.target),
    (directory.child Report.analysisFile, Report.analysisText o.classes)]

/-- Every report goes into the directory, under a name. -/
theorem parent_of_mem_reportTexts {directory : Files.Path} {o : Outcome}
    {t : Files.Path × String} (h : t ∈ reportTexts directory o) :
    t.1.parent = directory ∧ t.1.names ≠ [] := by
  have hchild : ∃ name, t.1 = directory.child name := by
    simp only [reportTexts, List.mem_cons, List.not_mem_nil, or_false] at h
    rcases h with rfl | rfl | rfl <;> exact ⟨_, rfl⟩
  obtain ⟨name, hname⟩ := hchild
  rw [hname]
  exact ⟨Files.Path.parent_child directory name, by simp [Files.Path.child]⟩

/-- Writing a report leaves what writing its text leaves. -/
theorem run_writeReport (p : Files.Path) (text : String) (s : Session) :
    (writeReport p text).run.run s =
      match s.disk.writeText p text with
      | (d, .error e) => (.error (.report e), { s with disk := d })
      | (d, .ok ()) => (.ok p, { s with disk := d }) := by
  have hget : (get : Run Session).run.run s = (.ok s, s) := rfl
  rw [writeReport, run_bind, hget]
  cases hwrite : s.disk.writeText p text with
  | mk d result =>
    have hmodify : (modify fun s => { s with disk := d } : Run Unit).run.run s =
        (.ok (), { s with disk := d }) := rfl
    simp only [hwrite]
    rw [run_bind, hmodify]
    cases result with
    | error e => rfl
    | ok done => rfl

/-- The line about a report that was written. -/
def wroteLine (t : Files.Path × String) : Log.Line :=
  line Log.info s!"Wrote {t.1.text}"

/-- The reports are texts that are written one after another; if all are, they are logged. -/
theorem run_writeReports (directory : Files.Path) (o : Outcome) (s : Session) :
    (writeReports directory o).run.run s =
      match s.disk.writeTexts (reportTexts directory o) with
      | (d, .error e) => (.error (.report e), { s with disk := d })
      | (d, .ok ()) =>
          (.ok { o with written := (reportTexts directory o).map Prod.fst },
            { s with disk := d }.logAll ((reportTexts directory o).map wroteLine)) := by
  rw [writeReports, run_bind, run_writeReport]
  simp only [reportTexts, Files.Disk.writeTexts]
  cases s.disk.writeText (directory.child Report.referenceFile)
    (Report.classesText o.reference) with
  | mk first result =>
    cases result with
    | error e => rfl
    | ok done =>
      simp only
      rw [run_bind, run_writeReport]
      cases first.writeText (directory.child Report.targetFile)
        (Report.classesText o.target) with
      | mk second result =>
        cases result with
        | error e => rfl
        | ok done =>
          simp only
          rw [run_bind, run_writeReport]
          cases second.writeText (directory.child Report.analysisFile)
            (Report.analysisText o.classes) with
          | mk third result =>
            cases result with
            | error e => rfl
            | ok done => rfl

/-- Every file but the log file holds what the device took of the last of the texts that were
written to it, and what it held before if there is none. -/
def Wrote (s : Session) (made : Files.Disk) (texts : List (Files.Path × String))
    (later : Session) : Prop :=
  ∀ names, s.logSlot? ≠ some names → later.disk.fileAt? names =
    ((made.lastText? texts names).map fun text => made.taken names text.toUTF8).or
      (s.disk.fileAt? names)

/-- Neither another one of the texts nor the log goes where the text goes. -/
def Alone (s : Session) (made : Files.Disk) (texts : List (Files.Path × String))
    (t : Files.Path × String) : Prop :=
  made.slot? t.1 ≠ s.logSlot? ∧ ∀ u ∈ texts, made.slot? u.1 = made.slot? t.1 → u = t

/-- A run that is to write reports does so with what it finds. -/
theorem run_of_write (r : Runtime) (plugins : List Plugin) {request : Request}
    (hwrite : request.write = true) (s : Session) :
    (run r plugins request).run.run s =
      match (findings r plugins request).run.run s with
      | (.error e, later) => (.error e, later)
      | (.ok (settings, o), before) =>
          (writeReports (request.output.getD settings.output) o).run.run before := by
  rw [run, run_bind]
  cases (findings r plugins request).run.run s with
  | mk result later =>
    cases result with
    | error e => rfl
    | ok found => simp only [hwrite, if_true]

/-- Without a directory for them, no report is written. -/
theorem keepsFiles_of_no_directory {before : Session} {directory : Files.Path} {made : Files.Disk}
    {e : Files.FileError} (hmade : before.disk.makeDirectories directory = (made, .error e))
    (o : Outcome) :
    (writeReports directory o).run.run before = (.error (.report e), { before with disk := made })
      ∧ before.KeepsFiles { before with disk := made } := by
  have hextends := Files.Disk.extends_makeDirectories before.disk directory
  rw [hmade] at hextends
  have hwrites := Files.Disk.writeTexts_of_makeDirectories (d := before.disk)
    (fun t (ht : t ∈ reportTexts directory o) => (parent_of_mem_reportTexts ht).1)
    (List.cons_ne_nil _ _)
  rw [hmade] at hwrites
  rw [run_writeReports, hwrites]
  exact ⟨rfl, rfl, hextends.toGrows, fun names _ => hextends.files names⟩

/-- The log stays where it is while the disk grows. -/
theorem log_of_disk {before : Session} {d : Files.Disk} (hopen : before.LogIsOpen)
    (hgrows : before.disk.Grows d) :
    Session.logSlot? { before with disk := d } = before.logSlot?
      ∧ Session.LogIsOpen { before with disk := d } := by
  have hlog : Session.logFile { before with disk := d } = before.logFile := rfl
  exact Session.logSlot?_of_grows hopen hlog hgrows

/-- Logging after the texts were written leaves them in their slots. -/
theorem wrote_of_writesTexts {before later : Session} {made d : Files.Disk}
    {texts : List (Files.Path × String)} {result : Except Files.FileError Unit}
    (hopen : before.LogIsOpen) (hextends : before.disk.Extends made)
    (hspec : made.WritesTexts texts (d, result))
    (hlater : Session.KeepsFiles { before with disk := d } later) :
    Wrote before made (made.opened texts) later := by
  have hlog := (log_of_disk hopen (hextends.toGrows.trans hspec.fills.grows)).1
  intro names hnames
  rw [hlater.files names (hlog ▸ hnames), ← hextends.files names]
  exact hspec.files names

/-- A text that was written in full is still there, if nothing else goes where it goes. -/
theorem contentAt?_of_writesTexts {before later : Session} {made d : Files.Disk}
    {texts : List (Files.Path × String)} {result : Except Files.FileError Unit}
    (hopen : before.LogIsOpen) (hextends : before.disk.Extends made)
    (hspec : made.WritesTexts texts (d, result))
    (hlater : Session.KeepsFiles { before with disk := d } later)
    {t : Files.Path × String} (ht : t ∈ made.writable texts) (hnames : t.1.names ≠ [])
    (halone : Alone before made texts t) :
    later.disk.contentAt? t.1 = some t.2.toUTF8 := by
  obtain ⟨slot, hslot, hcuts⟩ := Files.Disk.fits_iff.1 (Files.Disk.fits_of_mem_writable ht)
  have hlast : made.lastText? (made.opened texts) slot = some t.2 :=
    Files.Disk.lastText?_of_alone (Files.Disk.mem_opened_of_mem_writable ht) hslot fun u hu =>
      halone.2 u (Files.Disk.mem_of_mem_opened hu)
  have hfile : d.fileAt? slot = some t.2.toUTF8 := by
    have h := hspec.files slot
    rw [hlast, Option.map_some, Files.Disk.taken_of_cuts_eq_none hcuts] at h
    exact h
  have hslot' : d.slot? t.1 = some slot :=
    (Files.Disk.slot?_of_fills hspec.fills hnames).trans hslot
  have hplace := Files.Disk.place_of_grows hlater.grows true t.1
  rw [Files.Disk.place_of_slot? hslot' hfile] at hplace
  -- the log goes elsewhere, so the text is still there when the lines are written
  have hlog := (log_of_disk hopen (hextends.toGrows.trans hspec.fills.grows)).1
  have helsewhere : Session.logSlot? { before with disk := d } ≠ some slot := by
    rw [hlog]
    exact fun h => halone.1 (hslot.trans h.symm)
  exact Files.Disk.contentAt?_eq_some_iff.2
    ⟨slot, hplace, (hlater.files slot helsewhere).trans hfile⟩

/-- What is left when reports are written into a directory that is there. -/
structure WritesReports (s : Session) (made : Files.Disk) (texts : List (Files.Path × String))
    (o : Outcome) (done : Except AnalysisError Outcome × Session) : Prop where
  fails : made.writable texts ≠ texts → ∃ e, done.1 = .error (.report e)
  returns : made.writable texts = texts → done.1 = .ok { o with written := texts.map Prod.fst }
  wrote : Wrote s made (made.opened texts) done.2
  holds : ∀ t ∈ made.writable texts, Alone s made texts t →
    done.2.disk.contentAt? t.1 = some t.2.toUTF8

/-- Reports that can be written, each into a slot of its own, are all there in the end. -/
theorem WritesReports.holds_all {s : Session} {made : Files.Disk}
    {texts : List (Files.Path × String)} {o : Outcome}
    {done : Except AnalysisError Outcome × Session} (h : WritesReports s made texts o done)
    (hfits : texts.all made.fits = true) (hnodup : (texts.map fun t => made.slot? t.1).Nodup)
    (hlog : s.logSlot? ∉ texts.map fun t => made.slot? t.1) :
    done.1 = .ok { o with written := texts.map Prod.fst }
      ∧ ∀ t ∈ texts, done.2.disk.contentAt? t.1 = some t.2.toUTF8 := by
  have hwritable : made.writable texts = texts :=
    List.takeWhile_eq_self_iff.2 fun t ht => List.all_eq_true.1 hfits t ht
  refine ⟨h.returns hwritable, fun t ht => ?_⟩
  refine h.holds t (hwritable.symm ▸ ht) ⟨?_, fun u hu hslot => ?_⟩
  · exact fun hslot => hlog (List.mem_map.2 ⟨t, ht, hslot⟩)
  · exact List.inj_on_of_nodup_map hnodup hu ht hslot

/-- What was logged before the reports makes no difference. -/
theorem WritesReports.of_keepsFiles {s before : Session} {made : Files.Disk}
    {texts : List (Files.Path × String)} {o : Outcome}
    {done : Except AnalysisError Outcome × Session} (h : WritesReports before made texts o done)
    (hopen : s.LogIsOpen) (hkept : s.KeepsFiles before) :
    WritesReports s made texts o done := by
  have hlog := (Session.logSlot?_of_grows hopen hkept.logFile hkept.grows).1
  refine ⟨h.fails, h.returns, fun names hnames => ?_, fun t ht halone => ?_⟩
  · rw [h.wrote names (hlog ▸ hnames), hkept.files names hnames]
  · exact h.holds t ht ⟨hlog ▸ halone.1, halone.2⟩

/-- Into a directory that is there, the reports are written one after another. -/
theorem writesReports_of_directory {before : Session} (hopen : before.LogIsOpen)
    {directory : Files.Path} {made : Files.Disk}
    (hmade : before.disk.makeDirectories directory = (made, .ok ())) (o : Outcome) :
    WritesReports before made (reportTexts directory o) o
      ((writeReports directory o).run.run before) := by
  have hmember := fun (t : Files.Path × String) (ht : t ∈ reportTexts directory o) =>
    parent_of_mem_reportTexts ht
  have hextends := Files.Disk.extends_makeDirectories before.disk directory
  have hdir := Files.Disk.isDirectory_makeDirectories (d := before.disk) (p := directory)
  have hwrites := Files.Disk.writeTexts_of_makeDirectories (d := before.disk)
    (fun t ht => (hmember t ht).1) (List.cons_ne_nil _ _)
  rw [hmade] at hextends hdir hwrites
  have hspec := Files.Disk.writeTexts_spec (hdir rfl) (fun t ht => (hmember t ht).1)
    fun t ht => (hmember t ht).2
  rw [run_writeReports, hwrites]
  simp only
  cases hresult : made.writeTexts (reportTexts directory o) with
  | mk d result =>
    rw [hresult] at hspec
    have hmember' : ∀ t ∈ made.writable (reportTexts directory o), _ := fun t ht =>
      (hmember t (Files.Disk.mem_of_mem_opened (Files.Disk.mem_opened_of_mem_writable ht))).2
    cases result with
    | error e =>
      have hlater := Session.KeepsFiles.refl { before with disk := d }
      refine ⟨fun _ => ⟨e, rfl⟩, fun h => ?_, wrote_of_writesTexts hopen hextends hspec hlater,
        fun t ht halone => ?_⟩
      · cases hspec.ok_iff.2 h
      · exact contentAt?_of_writesTexts hopen hextends hspec hlater ht (hmember' t ht) halone
    | ok done =>
      have hopen' : Session.LogIsOpen { before with disk := d } :=
        (log_of_disk hopen (hextends.toGrows.trans hspec.fills.grows)).2
      have hlater := Session.keepsFiles_logAll hopen' ((reportTexts directory o).map wroteLine)
      refine ⟨fun h => ?_, fun _ => rfl, wrote_of_writesTexts hopen hextends hspec hlater,
        fun t ht halone => ?_⟩
      · exact absurd (hspec.ok_iff.1 rfl) h
      · exact contentAt?_of_writesTexts hopen hextends hspec hlater ht (hmember' t ht) halone

/-- An analysis with the settings in `/s` and its reports in `/o`. -/
def plainRequest : Request :=
  ⟨.ofString "/s", none, some (.ofString "/o"), true⟩

/-- A disk with settings without families, and with more nodes. -/
def plainDisk (nodes : List (String × Files.Node)) : Files.Disk :=
  let settings : Files.Node := .file "registry:\n families: \x7b\x7d\n".toUTF8
  .unguarded (.directory (("s", settings) :: nodes))

-- on a full device the first report is opened, and is left empty
example :
    let full : Files.Guard := { Files.Guard.idle with cuts := fun _ _ => some (0, .deviceFull) }
    let s := Session.start { plainDisk [] with guard := full } ""
    let done := (run .usual [] plainRequest).run.run s
    (done.1.toOption.isSome, (done.2.disk.readText (.ofString "/o/reference.json")).toOption) =
      (false, some "") := by
  decide +kernel

/-- A session with a log file, on a disk without reports. -/
def loggedSession : Session :=
  { Session.start (plainDisk [("l", .file ByteArray.empty)]) "" with
    logFile := some (.ofString "/l") }

theorem logIsOpen_loggedSession : loggedSession.LogIsOpen := by
  have hfile : loggedSession.logFile = some (.ofString "/l") := by rw [loggedSession]
  have hthere : (loggedSession.disk.contentAt? (.ofString "/l")).isSome = true := by
    decide +kernel
  intro p hp
  rw [hfile] at hp
  obtain rfl := Option.some.inj hp
  exact Option.isSome_iff_exists.1 hthere

theorem exists_eq_of_isSome {ε α β : Type} {r : Except ε α × β}
    (h : r.1.toOption.isSome = true) :
    ∃ a b, r = (.ok a, b) := by
  obtain ⟨result, b⟩ := r
  cases result with
  | error e => cases h
  | ok a => exact ⟨a, b, rfl⟩

/-- A session on a disk with a directory in the place of the second report. -/
def crowdedSession : Session :=
  .start (plainDisk [("o", .directory [("target.json", .directory [])])]) ""

/-- A session on a disk with a link from the third report to the first one. -/
def linkedSession : Session :=
  .start (plainDisk [("o", .directory [("analysis.json", .link "reference.json")])]) ""

end Analysis

end SurfaceCoverage
