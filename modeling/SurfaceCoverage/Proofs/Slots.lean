import SurfaceCoverage.Files.Disk
import SurfaceCoverage.OrderedMap
import SurfaceCoverage.Proofs.Walks

/-!
# Where files are written

Opening a path for writing puts the content in one slot of the disk: the file that the path leads
to, or the free entry of the directory in which it ends.  Writing files moves no slot, and making
directories leaves every file as it is.  Once a file is open, it holds what the device takes, be it
all that is written or not.

**Results.**
* `fst_update_of_slot?`, `update_of_no_slot`: a path can be opened exactly when it has a slot.
* `slot?_of_fills`: a disk with more files has the same slots.
* `extends_makeDirectories`: making directories leaves all files as they are, even if it fails.
* `makeDirectories_of_isDirectory`: a directory that is there is not made again.
* `writeTexts_spec`: of texts that are written one after another, those in front of the first one
  that fails are written, and a file holds what was taken of the last text that is written to it.
-/

namespace SurfaceCoverage

namespace Files

namespace Disk

/-- The slot that a path is written to, if it can be opened for writing. -/
def slot? (d : Disk) (p : Path) : Option (List String) :=
  (d.openAt p).toOption

/-- The content of the file that a path leads to. -/
def contentAt? (d : Disk) (p : Path) : Option ByteArray :=
  match d.place true p with
  | .found names => d.fileAt? names
  | _ => none

/-! ### Disks that grow -/

/-- Everything keeps its place and its kind. -/
structure Grows (d d' : Disk) : Prop where
  current : d'.current = d.current
  guard : d'.guard = d.guard
  keeps : d.root.Keeps d'.root

/-- Everything keeps its place and its kind, and all that is new are files. -/
structure Fills (d d' : Disk) : Prop where
  current : d'.current = d.current
  guard : d'.guard = d.guard
  fills : d.root.Fills d'.root

/-- Everything keeps its place and its kind, and the files are the same. -/
structure Extends (d d' : Disk) : Prop extends Grows d d' where
  files : ∀ names, d'.fileAt? names = d.fileAt? names

/-- A disk with more files has grown. -/
theorem Fills.grows {d d' : Disk} (h : Fills d d') : Grows d d' :=
  ⟨h.current, h.guard, h.fills.keeps⟩

theorem Fills.refl (d : Disk) : Fills d d :=
  ⟨rfl, rfl, .refl d.root⟩

theorem Fills.trans {a b c : Disk} (hab : Fills a b) (hbc : Fills b c) : Fills a c :=
  ⟨hbc.current.trans hab.current, hbc.guard.trans hab.guard, hab.fills.trans hbc.fills⟩

theorem Grows.refl (d : Disk) : Grows d d :=
  (Fills.refl d).grows

theorem Grows.trans {a b c : Disk} (hab : Grows a b) (hbc : Grows b c) : Grows a c :=
  ⟨hbc.current.trans hab.current, hbc.guard.trans hab.guard, hab.keeps.trans hbc.keeps⟩

theorem Extends.refl (d : Disk) : Extends d d :=
  ⟨.refl d, fun _ => rfl⟩

theorem Extends.trans {a b c : Disk} (hab : Extends a b) (hbc : Extends b c) : Extends a c :=
  ⟨hab.toGrows.trans hbc.toGrows, fun names => (hbc.files names).trans (hab.files names)⟩

variable {d d' : Disk} {p : Path} {slot : List String}

/-! ### Places -/

/-- Where a path ends at a free entry, there is none yet in the directory. -/
theorem place_isFree (d : Disk) (last : Bool) (p : Path) :
    (d.place last p).IsFree d.root := by
  unfold place
  split
  · exact trivial
  split
  · exact trivial
  · exact walkTo_isFree _ _ _

/-- Where a path leads on a disk that has grown. -/
theorem place_of_grows (h : Grows d d') (last : Bool) (p : Path) :
    (d.place last p).GrowsTo d'.root (d'.place last p) := by
  unfold place start
  rw [h.current, h.guard, unfit?_of_guard h.guard]
  split
  · exact trivial
  split
  · exact trivial
  · exact walkTo_of_keeps h.keeps _ _ _ _ _

/-- A path that failed still fails when all that is new are files. -/
theorem place_failed_of_fills (h : Fills d d') {last : Bool} {c : Cause}
    (hfailed : d.place last p = .failed c) :
    ∃ c, d'.place last p = .failed c := by
  unfold place start at hfailed ⊢
  rw [h.current, h.guard, unfit?_of_guard h.guard]
  cases hunfit : d.unfit? p with
  | some reason => exact ⟨_, rfl⟩
  | none =>
    rw [hunfit] at hfailed
    simp only at hfailed ⊢
    split at hfailed
    · exact ⟨_, rfl⟩
    · exact walkTo_failed_of_fills h.fills _ _ _ ⟨c, hfailed⟩

/-- Whether the last link is followed matters only where there is one. -/
theorem place_last (d : Disk) (p : Path) :
    d.place false p = d.place true p ∨ ∃ x, d.place false p = .found x := by
  unfold place
  split
  · exact Or.inl rfl
  split
  · exact Or.inl rfl
  · exact walkTo_last _ _ _

/-- Where a path leads to a place, something stands there. -/
theorem kindAt?_of_found (hnames : p.names ≠ []) {x : List String}
    (h : d.place true p = .found x) :
    d.root.kindAt? x ≠ none := by
  unfold place at h
  split at h
  · cases h
  split at h
  · cases h
  · have hreal := @walkTo_isReal d.guard d.root true linkLimit p.names (d.start p)
      fun hempty => absurd hempty hnames
    rw [h] at hreal
    exact hreal

/-- A path whose text is no obstacle does not fail for its text anywhere. -/
theorem place_isFit (h : d.unfit? p = none) (last : Bool) :
    (d.place last p).IsFit := by
  rw [place, h]
  simp only
  split
  · exact rfl
  · exact walkTo_isFit _ _ _

theorem read_of_unfit {reason : String} (h : d.unfit? p = some reason) :
    d.read p = .error ⟨.unfit reason, p.text⟩ := by
  rw [read, place, h]

/-- Only the text of a path itself decides whether no path may be that text. -/
theorem isUnfit_of_read (h : d.unfit? p = none) {e : FileError} (he : d.read p = .error e) :
    e.cause.isUnfit = false := by
  have hplace := place_isFit h true
  unfold read at he
  cases hfound : d.place true p with
  | absent directory name =>
    rw [hfound] at he
    cases he
    rfl
  | failed c =>
    rw [hfound] at he hplace
    cases he
    exact hplace
  | found names =>
    rw [hfound] at he
    simp only [guarded] at he
    cases hguard : d.guard.refuses .read names with
    | some r =>
      rw [hguard] at he
      cases he
      rfl
    | none =>
      rw [hguard] at he
      simp only at he
      split at he <;> cases he <;> rfl

/-! ### Slots -/

/-- The slot of a path is where it is opened. -/
theorem slot?_eq_some_iff :
    d.slot? p = some slot ↔ d.openAt p = .ok slot := by
  unfold slot?
  cases d.openAt p <;> simp [Except.toOption]

theorem guarded_of_guard (h : d'.guard = d.guard) (access : Access) (p : Path)
    (names : List String) :
    d'.guarded access p names = d.guarded access p names := by
  rw [guarded, guarded, h]

/-- A slot is a file that the path leads to, or a free entry of a directory. -/
theorem slot?_cases (h : d.slot? p = some slot) :
    (d.place true p = .found slot ∧ d.root.kindAt? slot = some .file)
      ∨ ∃ here name, d.place true p = .absent here name ∧ slot = here ++ [name]
          ∧ d.root.kindAt? here = some .directory ∧ d.root.kindAt? slot = none := by
  rw [slot?_eq_some_iff] at h
  unfold openAt at h
  cases hplace : d.place true p with
  | failed c =>
    rw [hplace] at h
    cases h
  | found names =>
    rw [hplace] at h
    simp only at h
    split at h
    · next hfile =>
      obtain ⟨_, rfl⟩ := guarded_eq_ok_iff.1 h
      exact Or.inl ⟨rfl, hfile⟩
    · cases h
    · cases h
  | absent here name =>
    rw [hplace] at h
    obtain ⟨_, rfl⟩ := guarded_eq_ok_iff.1 h
    have hfree := place_isFree d true p
    rw [hplace] at hfree
    exact Or.inr ⟨here, name, rfl, rfl, hfree.1, hfree.2⟩

/-- A slot takes a file. -/
theorem takes_of_slot? (h : d.slot? p = some slot) :
    d.root.Takes slot := by
  rcases slot?_cases h with ⟨_, hfile⟩ | ⟨here, name, _, hslot, hdir, hnone⟩
  · exact Or.inl hfile
  · exact Or.inr ⟨hnone, here, name, hslot, hdir⟩

section Updates

variable (keep : ByteArray → ByteArray) (bytes : ByteArray)

/-- A path with a slot is opened, and the slot holds what is taken, behind what is kept. -/
theorem fst_update_of_slot? (h : d.slot? p = some slot) :
    (d.update p keep bytes).1 =
      d.put slot (.file (keep ((d.fileAt? slot).getD ByteArray.empty) ++ d.taken slot bytes)) := by
  rw [update, slot?_eq_some_iff.1 h]

/-- The write succeeds exactly if the device takes everything. -/
theorem snd_update_of_slot? (h : d.slot? p = some slot) :
    (d.update p keep bytes).2 = .ok () ↔ d.guard.cuts slot bytes = none := by
  rw [update, slot?_eq_some_iff.1 h]
  simp only
  cases d.guard.cuts slot bytes <;> simp

/-- A path without a slot cannot be opened. -/
theorem update_of_no_slot (h : d.slot? p = none) :
    ∃ e, d.update p keep bytes = (d, .error e) := by
  unfold slot? at h
  cases hopen : d.openAt p with
  | error e => exact ⟨e, by rw [update, hopen]⟩
  | ok names =>
    rw [hopen] at h
    cases h

end Updates

/-- Where nothing is cut off, everything is taken. -/
theorem taken_of_cuts_eq_none {bytes : ByteArray} (h : d.guard.cuts slot bytes = none) :
    d.taken slot bytes = bytes := by
  rw [taken, h]

/-- A disk with more files has the same slots. -/
theorem slot?_of_fills (h : Fills d d') (hnames : p.names ≠ []) :
    d'.slot? p = d.slot? p := by
  have hgrows := place_of_grows h.grows true p
  unfold slot? openAt
  simp only [guarded_of_guard h.guard]
  cases hplace : d.place true p with
  | failed c =>
    obtain ⟨c', hc'⟩ := place_failed_of_fills h hplace
    rw [hc']
    rfl
  | found x =>
    rw [hplace] at hgrows
    rw [show d'.place true p = .found x from hgrows]
    cases hkind : d.root.kindAt? x with
    | none => exact absurd hkind (kindAt?_of_found hnames hplace)
    | some k => simp only [hkind, h.fills.keeps x k hkind]
  | absent here name =>
    rw [hplace] at hgrows
    have hfree := place_isFree d true p
    rw [hplace] at hfree
    rcases h.fills.new _ hfree.2 with hnone | hfile
    · rw [hgrows.1 hnone]
    · rw [hgrows.2 .file hfile (fun target hlink => by cases hlink)]
      simp only [hfile]

/-- A file that is there stays where it is. -/
theorem contentAt?_eq_some_iff {content : ByteArray} :
    d.contentAt? p = some content ↔
      ∃ slot, d.place true p = .found slot ∧ d.fileAt? slot = some content := by
  unfold contentAt?
  cases d.place true p <;> simp

/-- Where a file is found, the slot is that of the file, if it may be written at all. -/
theorem openAt_of_found {content : ByteArray} (hplace : d.place true p = .found slot)
    (hfile : d.fileAt? slot = some content) :
    d.openAt p = d.guarded .write p slot := by
  rw [openAt, hplace]
  simp only [Node.kindAt?_eq_file_iff.2 ⟨content, hfile⟩]

/-- A path leads to the file in its slot. -/
theorem place_of_slot? {content : ByteArray} (hslot : d.slot? p = some slot)
    (hfile : d.fileAt? slot = some content) :
    d.place true p = .found slot := by
  rcases slot?_cases hslot with ⟨hfound, _⟩ | ⟨_, _, _, _, _, hnone⟩
  · exact hfound
  · rw [fileAt?, Node.fileAt?_eq_some_iff] at hfile
    cases (Option.map_eq_none_iff.1 hnone).symm.trans hfile

/-- A file that is put into a slot is all that is new. -/
theorem fills_put (h : d.root.Takes slot) (content : ByteArray) :
    Fills d (d.put slot (.file content)) :=
  ⟨rfl, rfl, Node.fills_write_file h content⟩

/-- The slot holds what was put there, and every other file what it held. -/
theorem fileAt?_put (h : d.root.Takes slot) (content : ByteArray) (names : List String) :
    (d.put slot (.file content)).fileAt? names =
      if names = slot then some content else d.fileAt? names :=
  Node.fileAt?_write_file h content names

/-- What is put into the slot of a path is what the path leads to then. -/
theorem contentAt?_put (h : d.slot? p = some slot) (content : ByteArray) :
    (d.put slot (.file content)).contentAt? p = some content := by
  have htakes := takes_of_slot? h
  have hfile : (d.put slot (.file content)).fileAt? slot = some content :=
    (fileAt?_put htakes content slot).trans (if_pos rfl)
  refine contentAt?_eq_some_iff.2 ⟨slot, ?_, hfile⟩
  have hgrows := place_of_grows (fills_put htakes content).grows true p
  rcases slot?_cases h with ⟨hfound, _⟩ | ⟨here, name, habsent, rfl, _⟩
  · rw [hfound] at hgrows
    exact hgrows
  · rw [habsent] at hgrows
    refine hgrows.2 .file (Node.kindAt?_eq_file_iff.2 ⟨content, hfile⟩) ?_
    exact fun target hlink => by cases hlink

/-- A file that was opened is there. -/
theorem exists_content_of_touch (h : d.touch p = .ok d') :
    ∃ content, d'.contentAt? p = some content := by
  unfold touch at h
  cases hopen : d.openAt p with
  | error e =>
    rw [hopen] at h
    cases h
  | ok slot =>
    rw [hopen] at h
    cases h
    exact ⟨_, contentAt?_put (slot?_eq_some_iff.2 hopen) _⟩

/-- A new directory changes no file. -/
theorem extends_put_directory {here : List String} {name : String}
    (hdir : d.root.kindAt? here = some .directory)
    (hfree : d.root.kindAt? (here ++ [name]) = none) :
    Extends d (d.put (here ++ [name]) (.directory [])) where
  current := rfl
  guard := rfl
  keeps := Node.keeps_write_directory hdir hfree
  files := Node.fileAt?_write_directory hdir hfree

/-! ### Directories -/

/-- A path leads to a directory if its walk ends at one. -/
theorem isDirectory_iff_kindAt? :
    d.isDirectory p = true ↔
      ∃ x, d.place true p = .found x ∧ d.root.kindAt? x = some .directory := by
  unfold isDirectory node
  cases hplace : d.place true p with
  | absent here name => simp
  | failed c => simp
  | found x =>
    cases hat : d.root.at? x with
    | none => simp [Node.kindAt?, hat]
    | some n => cases n <;> simp [Node.kindAt?, hat, Node.kind]

/-- A directory stays one while the disk grows. -/
theorem isDirectory_of_grows (h : Grows d d') (hdir : d.isDirectory p = true) :
    d'.isDirectory p = true := by
  obtain ⟨x, hfound, hkind⟩ := isDirectory_iff_kindAt?.1 hdir
  have hgrows := place_of_grows h true p
  rw [hfound] at hgrows
  exact isDirectory_iff_kindAt?.2 ⟨x, hgrows, h.keeps x _ hkind⟩

/-- A directory that is made is there, and nothing is lost. -/
theorem makeDirectory_spec (h : d.makeDirectory p = .ok d') :
    Extends d d' ∧ d'.isDirectory p = true := by
  unfold makeDirectory at h
  split at h
  · cases h
  · next here name habsent =>
    obtain ⟨names, hguarded, rfl⟩ := map_eq_ok_iff.1 h
    obtain ⟨_, rfl⟩ := guarded_eq_ok_iff.1 hguarded
    have hfree := place_isFree d false p
    rw [habsent] at hfree
    have hextends := extends_put_directory hfree.1 hfree.2
    refine ⟨hextends, ?_⟩
    -- the last name is no link, so the walk that follows links ends there as well
    have hplace : d.place true p = .absent here name := by
      rcases place_last d p with hsame | ⟨x, hfound⟩
      · exact hsame.symm.trans habsent
      · cases habsent.symm.trans hfound
    have hkind : (d.put (here ++ [name]) (.directory [])).root.kindAt? (here ++ [name]) =
        some .directory := by
      rw [put, Node.kindAt?_write_directory hfree.1 hfree.2, if_pos rfl]
    have hgrows := place_of_grows hextends.toGrows true p
    rw [hplace] at hgrows
    exact isDirectory_iff_kindAt?.2
      ⟨_, hgrows.2 .directory hkind (fun target hlink => by cases hlink), hkind⟩
  · cases h

/-- A directory that is there is seen. -/
theorem seesDirectory_of_isDirectory (h : d.isDirectory p = true) :
    d.seesDirectory p = .ok true := by
  refine seesDirectory_eq_ok_iff.2 ⟨h, fun r hr => ?_⟩
  obtain ⟨entries, hnode⟩ := (isDirectory_iff d p).1 h
  cases hr.symm.trans hnode

/-- It is no failure that a directory is there already, and nothing else is excused. -/
theorem withDirectory_eq_ok_iff {e : FileError} :
    d.withDirectory p e = .ok d' ↔ d' = d ∧ d.isDirectory p = true := by
  unfold withDirectory
  constructor
  · intro h
    obtain ⟨seen, hseen, h⟩ := bind_eq_ok_iff.1 h
    cases seen with
    | false => cases h
    | true =>
      cases h
      exact ⟨rfl, (seesDirectory_eq_ok_iff.1 hseen).1⟩
  · rintro ⟨rfl, h⟩
    rw [seesDirectory_of_isDirectory h]
    rfl

/-- Making sure of a directory loses nothing, and it is there then. -/
theorem ensureDirectory_spec (h : d.ensureDirectory p = .ok d') :
    Extends d d' ∧ d'.isDirectory p = true := by
  unfold ensureDirectory at h
  split at h
  · next hmade =>
    cases h
    exact makeDirectory_spec hmade
  · split at h
    · cases h
    · obtain ⟨rfl, hthere⟩ := withDirectory_eq_ok_iff.1 h
      exact ⟨.refl _, hthere⟩

/-- What a step of making directories leaves: all files, and the directory if it has succeeded. -/
def MakesDirectory (d : Disk) (p : Path) (made : Disk × Except FileError Unit) : Prop :=
  Extends d made.1 ∧ (made.2 = .ok () → made.1.isDirectory p = true)

theorem makesDirectory_after (d : Disk) (p : Path) :
    MakesDirectory d p (d.after (d.ensureDirectory p)) := by
  cases hmade : d.ensureDirectory p with
  | error e => exact ⟨.refl d, fun h => by cases h⟩
  | ok made =>
    obtain ⟨hextends, hdir⟩ := ensureDirectory_spec hmade
    exact ⟨hextends, fun _ => hdir⟩

/-- By induction on how many directories may be missing. -/
theorem makesDirectory_ensureDirectories (fuel : Nat) (d : Disk) (p : Path) :
    MakesDirectory d p (ensureDirectories fuel d p) := by
  induction fuel generalizing p with
  | zero => exact makesDirectory_after d p
  | succ fuel ih =>
    rw [ensureDirectories]
    cases hmade : d.makeDirectory p with
    | ok made =>
      obtain ⟨hextends, hdir⟩ := makeDirectory_spec hmade
      exact ⟨hextends, fun _ => hdir⟩
    | error e =>
      simp only
      split
      · split
        · exact ⟨.refl d, fun h => by cases h⟩
        · have habove := ih p.parent
          cases hparents : ensureDirectories fuel d p.parent with
          | mk above result =>
            rw [hparents] at habove
            cases result with
            | error e => exact ⟨habove.1, fun h => by cases h⟩
            | ok done =>
              have hmakes := makesDirectory_after above p
              exact ⟨habove.1.trans hmakes.1, hmakes.2⟩
      · cases hthere : d.withDirectory p e with
        | error e' => exact ⟨.refl d, fun h => by cases h⟩
        | ok d' =>
          obtain ⟨rfl, hdir⟩ := withDirectory_eq_ok_iff.1 hthere
          exact ⟨.refl d', fun _ => hdir⟩

/-- Making directories leaves every file as it is, whether it succeeds or not. -/
theorem extends_makeDirectories (d : Disk) (p : Path) :
    Extends d (d.makeDirectories p).1 :=
  (makesDirectory_ensureDirectories _ d p).1

theorem isDirectory_makeDirectories (h : (d.makeDirectories p).2 = .ok ()) :
    (d.makeDirectories p).1.isDirectory p = true :=
  (makesDirectory_ensureDirectories _ d p).2 h

/-- A directory that is there is not made again. -/
theorem makeDirectories_of_isDirectory (h : d.isDirectory p = true) :
    d.makeDirectories p = (d, .ok ()) := by
  obtain ⟨x, hfound, _⟩ := isDirectory_iff_kindAt?.1 h
  have hthere : ∃ x, d.place false p = .found x := by
    rcases place_last d p with hsame | hlink
    · exact ⟨x, hsame.trans hfound⟩
    · exact hlink
  obtain ⟨x, hplace⟩ := hthere
  have hmade : d.makeDirectory p = .error ⟨.exists, p.text⟩ := by
    rw [makeDirectory, hplace]
  have hkept : d.withDirectory p ⟨.exists, p.text⟩ = .ok d :=
    withDirectory_eq_ok_iff.2 ⟨rfl, h⟩
  unfold makeDirectories
  cases p.names.length with
  | zero => simp [ensureDirectories, ensureDirectory, hmade, hkept, after]
  | succ fuel => simp [ensureDirectories, hmade, hkept, after]

/-! ### Texts that are written one after another -/

/-- Writes texts, one after another; the first failure is the last step. -/
def writeTexts : Disk → List (Path × String) → Disk × Except FileError Unit
  | d, [] => (d, .ok ())
  | d, t :: rest =>
      match d.writeText t.1 t.2 with
      | (d, .error e) => (d, .error e)
      | (d, .ok ()) => writeTexts d rest

/-- Whether a text can be written: its path can be opened, and the device takes all of it. -/
def fits (d : Disk) (t : Path × String) : Bool :=
  match d.slot? t.1 with
  | some slot => (d.guard.cuts slot t.2.toUTF8).isNone
  | none => false

/-- The texts in front of the first one that cannot be written. -/
def writable (d : Disk) (texts : List (Path × String)) : List (Path × String) :=
  texts.takeWhile d.fits

/-- The texts whose files are opened: those that can be written, and the one behind them, if it
fails only afterwards. -/
def opened (d : Disk) : List (Path × String) → List (Path × String)
  | [] => []
  | t :: rest =>
      if d.fits t then t :: opened d rest else if (d.slot? t.1).isSome then [t] else []

/-- The last of the texts that are written to the file at a list of names. -/
def lastText? (d : Disk) (texts : List (Path × String)) (names : List String) : Option String :=
  OrderedMap.lastValue (some names) (texts.map fun t => (d.slot? t.1, t.2))

/-- A text can be written if its path has a slot and the device takes all of it. -/
theorem fits_iff {t : Path × String} :
    d.fits t = true ↔ ∃ slot, d.slot? t.1 = some slot ∧ d.guard.cuts slot t.2.toUTF8 = none := by
  unfold fits
  cases d.slot? t.1 <;> simp

theorem writable_cons (d : Disk) (t : Path × String) (texts : List (Path × String)) :
    d.writable (t :: texts) = if d.fits t then t :: d.writable texts else [] := by
  rw [writable, List.takeWhile_cons]
  rfl

section Filling

variable (h : Fills d d') {texts : List (Path × String)} (hnames : ∀ t ∈ texts, t.1.names ≠ [])
include h hnames

/-- Writing files does not change which texts can be written. -/
theorem fits_of_fills {t : Path × String} (ht : t ∈ texts) :
    d'.fits t = d.fits t := by
  rw [fits, fits, slot?_of_fills h (hnames t ht), h.guard]

theorem writable_of_fills :
    d'.writable texts = d.writable texts := by
  induction texts with
  | nil => rfl
  | cons t rest ih =>
    rw [writable_cons, writable_cons, fits_of_fills h hnames List.mem_cons_self,
      ih fun u hu => hnames u (List.mem_cons_of_mem t hu)]

theorem opened_of_fills :
    d'.opened texts = d.opened texts := by
  induction texts with
  | nil => rfl
  | cons t rest ih =>
    rw [opened, opened, fits_of_fills h hnames List.mem_cons_self,
      slot?_of_fills h (hnames t List.mem_cons_self),
      ih fun u hu => hnames u (List.mem_cons_of_mem t hu)]

/-- Writing files does not change where texts go. -/
theorem lastText?_of_fills (names : List String) :
    d'.lastText? texts names = d.lastText? texts names := by
  have hslots : texts.map (fun t => (d'.slot? t.1, t.2)) = texts.map fun t => (d.slot? t.1, t.2) :=
    List.map_congr_left fun t ht => by rw [slot?_of_fills h (hnames t ht)]
  rw [lastText?, hslots, lastText?]

end Filling

theorem mem_of_mem_opened {texts : List (Path × String)} {t : Path × String}
    (h : t ∈ d.opened texts) :
    t ∈ texts := by
  induction texts with
  | nil => cases h
  | cons u rest ih =>
    rw [opened] at h
    split at h
    · rcases List.mem_cons.1 h with rfl | hrest
      · exact List.mem_cons_self
      · exact List.mem_cons_of_mem u (ih hrest)
    split at h
    · rw [List.mem_singleton.1 h]
      exact List.mem_cons_self
    · cases h

/-- A text that can be written is opened. -/
theorem mem_opened_of_mem_writable {texts : List (Path × String)} {t : Path × String}
    (h : t ∈ d.writable texts) :
    t ∈ d.opened texts := by
  induction texts with
  | nil => cases h
  | cons u rest ih =>
    rw [writable_cons] at h
    rw [opened]
    split at h
    · next hfits =>
      rw [if_pos hfits]
      rcases List.mem_cons.1 h with rfl | hrest
      · exact List.mem_cons_self
      · exact List.mem_cons_of_mem u (ih hrest)
    · cases h

theorem fits_of_mem_writable {texts : List (Path × String)} {t : Path × String}
    (h : t ∈ d.writable texts) :
    d.fits t = true :=
  List.all_eq_true.1 (List.all_takeWhile (l := texts)) t h

/-- A text is the last one in its slot when no other one is written there. -/
theorem lastText?_of_alone {texts : List (Path × String)} {t : Path × String} (ht : t ∈ texts)
    (hslot : d.slot? t.1 = some slot) (halone : ∀ u ∈ texts, d.slot? u.1 = d.slot? t.1 → u = t) :
    d.lastText? texts slot = some t.2 := by
  unfold lastText?
  cases hlast : OrderedMap.lastValue (some slot) (texts.map fun u => (d.slot? u.1, u.2)) with
  | none =>
    rw [OrderedMap.lastValue_eq_none_iff, List.map_map] at hlast
    exact absurd (List.mem_map.2 ⟨t, ht, hslot⟩) hlast
  | some text =>
    obtain ⟨u, hu, hpair⟩ := List.mem_map.1 (OrderedMap.mem_of_lastValue_eq_some hlast)
    obtain ⟨huslot, rfl⟩ := Prod.mk.inj hpair
    rw [halone u hu (huslot.trans hslot.symm)]

/-- What is left when texts were written one after another: those in front of the first one that
fails have been written; a file holds what was taken of the last text that was written to it, and
all other files are as before. -/
structure WritesTexts (d : Disk) (texts : List (Path × String))
    (result : Disk × Except FileError Unit) : Prop where
  fills : Fills d result.1
  ok_iff : result.2 = .ok () ↔ d.writable texts = texts
  files : ∀ names, result.1.fileAt? names =
    ((d.lastText? (d.opened texts) names).map fun text => d.taken names text.toUTF8).or
      (d.fileAt? names)

/-- Where the directory is there, a text is just written. -/
theorem writeText_of_isDirectory (h : d.isDirectory p.parent = true) (text : String) :
    d.writeText p text = d.write p text.toUTF8 := by
  rw [writeText, makeDirectories_of_isDirectory h]

theorem lastText?_cons {t : Path × String} (hslot : d.slot? t.1 = some slot)
    (texts : List (Path × String)) (names : List String) :
    d.lastText? (t :: texts) names =
      (d.lastText? texts names).or (if slot = names then some t.2 else none) := by
  rw [lastText?, List.map_cons, OrderedMap.lastValue, hslot]
  simp only [Option.some.injEq]
  rfl

/-- The first text cannot be opened. -/
theorem writesTexts_of_no_slot {t : Path × String} (rest : List (Path × String))
    (hslot : d.slot? t.1 = none) (e : FileError) :
    WritesTexts d (t :: rest) (d, .error e) := by
  have hfits : ¬ d.fits t = true := by
    rw [fits, hslot]
    exact Bool.false_ne_true
  refine ⟨.refl d, ?_, fun names => ?_⟩
  · rw [writable_cons, if_neg hfits]
    exact iff_of_false (fun h => by cases h) (fun h => by cases h)
  · rw [opened, if_neg hfits, hslot]
    rfl

section Step

variable {t : Path × String} (hslot : d.slot? t.1 = some slot) (rest : List (Path × String))
  {next : Disk} (hnext : next = d.put slot (.file (d.taken slot t.2.toUTF8)))
include hslot hnext

/-- The device does not take all of the first text. -/
theorem writesTexts_of_cut (hcut : d.guard.cuts slot t.2.toUTF8 ≠ none) (e : FileError) :
    WritesTexts d (t :: rest) (next, .error e) := by
  have htakes := takes_of_slot? hslot
  have hfits : ¬ d.fits t = true := by
    rw [fits_iff, hslot]
    rintro ⟨_, hsame, hnone⟩
    obtain rfl := Option.some.inj hsame
    exact hcut hnone
  subst hnext
  refine ⟨fills_put htakes _, ?_, fun names => ?_⟩
  · rw [writable_cons, if_neg hfits]
    exact iff_of_false (fun h => by cases h) (fun h => by cases h)
  · have hsome : (d.slot? t.1).isSome = true := by
      rw [hslot]
      rfl
    rw [opened, if_neg hfits, if_pos hsome, lastText?_cons hslot, fileAt?_put htakes]
    by_cases hnamed : names = slot
    · rw [if_pos hnamed, if_pos hnamed.symm, hnamed]
      rfl
    · rw [if_neg hnamed, if_neg (Ne.symm hnamed)]
      rfl

/-- The first text is written, and then the others. -/
theorem writesTexts_of_fits (hcut : d.guard.cuts slot t.2.toUTF8 = none)
    (hnames : ∀ u ∈ rest, u.1.names ≠ []) {result : Disk × Except FileError Unit}
    (hrest : WritesTexts next rest result) :
    WritesTexts d (t :: rest) result := by
  have htakes := takes_of_slot? hslot
  have hfits : d.fits t = true := fits_iff.2 ⟨slot, hslot, hcut⟩
  subst hnext
  have hfills : Fills d (d.put slot (.file (d.taken slot t.2.toUTF8))) := fills_put htakes _
  refine ⟨hfills.trans hrest.fills, ?_, fun names => ?_⟩
  · rw [hrest.ok_iff, writable_of_fills hfills hnames, writable_cons, if_pos hfits,
      List.cons.injEq]
    exact (and_iff_right rfl).symm
  · rw [hrest.files, opened_of_fills hfills hnames,
      lastText?_of_fills hfills (fun u hu => hnames u (mem_of_mem_opened hu)), opened,
      if_pos hfits, lastText?_cons hslot, fileAt?_put htakes]
    have hguard : ∀ bytes, (d.put slot (.file (d.taken slot t.2.toUTF8))).taken names bytes =
        d.taken names bytes := fun _ => rfl
    simp only [hguard]
    by_cases hnamed : names = slot
    · rw [if_pos hnamed, if_pos hnamed.symm, hnamed]
      cases d.lastText? (d.opened rest) slot <;> rfl
    · rw [if_neg hnamed, if_neg (Ne.symm hnamed), Option.or_none]

end Step

/-- Texts in one directory that is there, each under a name, are written one after another. -/
theorem writeTexts_spec {texts : List (Path × String)} {directory : Path}
    (hdir : d.isDirectory directory = true) (hparent : ∀ t ∈ texts, t.1.parent = directory)
    (hnames : ∀ t ∈ texts, t.1.names ≠ []) :
    WritesTexts d texts (d.writeTexts texts) := by
  induction texts generalizing d with
  | nil => exact ⟨.refl d, iff_of_true rfl rfl, fun names => rfl⟩
  | cons t rest ih =>
    obtain ⟨htparent, hrestparent⟩ := List.forall_mem_cons.1 hparent
    obtain ⟨_, hrestnames⟩ := List.forall_mem_cons.1 hnames
    rw [writeTexts, writeText_of_isDirectory (htparent ▸ hdir)]
    cases hslot : d.slot? t.1 with
    | none =>
      obtain ⟨e, he⟩ := update_of_no_slot (fun _ => ByteArray.empty) t.2.toUTF8 hslot
      rw [write, he]
      exact writesTexts_of_no_slot rest hslot e
    | some slot =>
      have hfst := fst_update_of_slot? (fun _ => ByteArray.empty) t.2.toUTF8 hslot
      have hsnd := snd_update_of_slot? (fun _ => ByteArray.empty) t.2.toUTF8 hslot
      rw [ByteArray.empty_append] at hfst
      rw [write]
      cases hupdate : d.update t.1 (fun _ => ByteArray.empty) t.2.toUTF8 with
      | mk next result =>
        rw [hupdate] at hfst hsnd
        cases result with
        | error e =>
          refine writesTexts_of_cut hslot rest hfst (fun hnone => ?_) e
          cases hsnd.2 hnone
        | ok done =>
          have hgrows : Grows d next := by
            rw [show next = _ from hfst]
            exact (fills_put (takes_of_slot? hslot) _).grows
          exact writesTexts_of_fits hslot rest hfst (hsnd.1 rfl) hrestnames
            (ih (isDirectory_of_grows hgrows hdir) hrestparent hrestnames)

/-- Texts that belong into one directory are written when it has been made. -/
theorem writeTexts_of_makeDirectories {texts : List (Path × String)} {directory : Path}
    (hparent : ∀ t ∈ texts, t.1.parent = directory) (hne : texts ≠ []) :
    d.writeTexts texts =
      match d.makeDirectories directory with
      | (made, .error e) => (made, .error e)
      | (made, .ok ()) => made.writeTexts texts := by
  cases texts with
  | nil => exact absurd rfl hne
  | cons t rest =>
    have ht := hparent t List.mem_cons_self
    cases hmade : d.makeDirectories directory with
    | mk made result =>
      cases result with
      | error e => rw [writeTexts, writeText, ht, hmade]
      | ok done =>
        have hdir : made.isDirectory directory = true := by
          have h := isDirectory_makeDirectories (d := d) (p := directory) (by rw [hmade])
          rwa [hmade] at h
        have hagain : made.writeText t.1 t.2 = d.writeText t.1 t.2 := by
          rw [writeText, ht, makeDirectories_of_isDirectory hdir, writeText, ht, hmade]
        simp only
        rw [writeTexts, writeTexts, hagain]

end Disk

end Files

end SurfaceCoverage
