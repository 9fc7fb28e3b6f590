import Mathlib.Data.List.Infix
import SurfaceCoverage.Files.Tree

/-!
# Trees that grow

A walk along a path goes by the kinds of the nodes alone.  Where a file is written into its slot,
or an empty directory is made, everything that was there keeps its place and its kind, so a walk
that ended at a node still ends there; and new files do not open new ways, since no name leads on
behind a file.

**Results.**
* `Node.look_write`: a file or an empty directory stands in its slot, and nothing else changes.
* `Node.fileAt?_write_file`: every other file holds what it held.
* `walkTo_of_keeps`: where a walk ends in a tree that has grown.
* `walkTo_failed_of_fills`: a walk that fails still fails when all that is new are files.
* `walkTo_isFree`: where a walk ends without an entry, there is a directory, and the entry is free.
* `walkTo_isFit`: a walk does not fail for its text.
-/

namespace SurfaceCoverage

namespace Files

/-! ### Nodes by their kinds -/

namespace Node

theorem fileAt?_eq_some_iff {root : Node} {names : List String} {content : ByteArray} :
    root.fileAt? names = some content ↔ root.at? names = some (.file content) := by
  unfold fileAt?
  cases root.at? names with
  | none => simp
  | some n => cases n <;> simp

theorem kindAt?_eq_file_iff {root : Node} {names : List String} :
    root.kindAt? names = some .file ↔ ∃ content, root.fileAt? names = some content := by
  unfold kindAt? fileAt?
  cases root.at? names with
  | none => simp
  | some n => cases n <;> simp [kind]

/-- The node at names behind other names. -/
theorem at?_append (names more : List String) (root : Node) :
    root.at? (names ++ more) = (root.at? names).bind (at? more) := by
  induction names generalizing root with
  | nil => rfl
  | cons name names ih =>
    cases root with
    | file content => rfl
    | link target => rfl
    | directory entries =>
      rw [List.cons_append, at?, at?]
      cases lookup name entries with
      | none => rfl
      | some node => exact ih node

/-- What stands at the last name stands in a directory, under that name. -/
theorem at?_snoc (names : List String) (name : String) (root : Node) :
    root.at? (names ++ [name]) =
      match root.at? names with
      | some (.directory entries) => lookup name entries
      | _ => none := by
  rw [at?_append]
  cases root.at? names with
  | none => rfl
  | some n =>
    cases n with
    | file content => rfl
    | link target => rfl
    | directory entries =>
      cases hentry : lookup name entries <;> simp [at?, hentry]

/-- The kinds in a directory are those of its entries. -/
theorem kindAt?_snoc {root : Node} {here : List String} {entries : List (String × Node)}
    (h : root.at? here = some (.directory entries)) (name : String) :
    root.kindAt? (here ++ [name]) = (lookup name entries).map kind := by
  rw [kindAt?, at?_snoc, h]

/-- A node stands in a directory. -/
theorem kindAt?_of_snoc {root : Node} {here : List String} {name : String} {k : Kind}
    (h : root.kindAt? (here ++ [name]) = some k) :
    root.kindAt? here = some .directory := by
  unfold kindAt? at h ⊢
  rw [at?_snoc] at h
  split at h
  · next hdir =>
    rw [hdir]
    rfl
  · cases h

/-! ### Writing a file or an empty directory -/

/-- The node without what a directory holds. -/
def bare : Node → Node
  | .directory _ => .directory []
  | n => n

/-- What stands at a list of names, without what a directory holds. -/
def look (root : Node) (names : List String) : Option Node :=
  (root.at? names).map bare

theorem kindAt?_eq_look (root : Node) (names : List String) :
    root.kindAt? names = (root.look names).map kind := by
  unfold kindAt? look
  cases root.at? names with
  | none => rfl
  | some n => cases n <;> rfl

theorem fileAt?_eq_look (root : Node) (names : List String) :
    root.fileAt? names =
      match root.look names with
      | some (.file content) => some content
      | _ => none := by
  unfold fileAt? look
  cases root.at? names with
  | none => rfl
  | some n => cases n <;> rfl

theorem at?_cons_of_bare {v : Node} (hv : v.bare = v) (name : String) (names : List String) :
    v.at? (name :: names) = none := by
  cases v with
  | file content => rfl
  | link target => rfl
  | directory entries =>
    cases hv
    rfl

theorem at?_entry (name : String) (names : List String) (entries : List (String × Node)) :
    (Node.directory entries).at? (name :: names) = (lookup name entries).bind (at? names) := by
  rw [at?]
  cases lookup name entries <;> rfl

/-- Writing an entry of a directory changes nothing else there. -/
theorem look_write_entry {v : Node} (hv : v.bare = v) {name : String}
    {entries : List (String × Node)}
    (hfree : (lookup name entries).map kind = none ∨ (lookup name entries).map kind = some .file)
    (names : List String) :
    (write v [name] (.directory entries)).look names =
      if names = [name] then some v else (Node.directory entries).look names := by
  have hwrite : write v [name] (.directory entries) = .directory (setEntry name v entries) := by
    rw [write, write]
  rw [hwrite]
  cases names with
  | nil => rfl
  | cons other rest =>
    unfold look
    rw [at?_entry, at?_entry, lookup_setEntry]
    by_cases hname : name = other
    · subst hname
      rw [if_pos rfl, Option.bind_some]
      cases rest with
      | nil => simp [at?, hv]
      | cons next more =>
        have hold : (lookup name entries).bind (at? (next :: more)) = none := by
          cases hentry : lookup name entries with
          | none => rfl
          | some n =>
            rw [hentry] at hfree
            cases n with
            | file content => rfl
            | link target => simp [kind] at hfree
            | directory others => simp [kind] at hfree
        rw [at?_cons_of_bare hv, hold]
        simp
    · have hne : other :: rest ≠ [name] := fun h => hname (List.cons.inj h).1.symm
      rw [if_neg hname, if_neg hne]

/-- What is written stands in its slot, and nothing else changes. -/
theorem look_write {v : Node} (hv : v.bare = v) {root : Node} {here : List String} {name : String}
    (hdir : root.kindAt? here = some .directory)
    (hfree : root.kindAt? (here ++ [name]) = none ∨ root.kindAt? (here ++ [name]) = some .file)
    (names : List String) :
    (write v (here ++ [name]) root).look names =
      if names = here ++ [name] then some v else root.look names := by
  induction here generalizing root names with
  | nil =>
    cases root with
    | file content => cases hdir
    | link target => cases hdir
    | directory entries =>
      have hroot : (Node.directory entries).at? [] = some (.directory entries) := rfl
      rw [kindAt?_snoc hroot] at hfree
      exact look_write_entry hv hfree names
  | cons first here ih =>
    cases root with
    | file content => cases hdir
    | link target => cases hdir
    | directory entries =>
      -- the first name leads to the directory that the rest is about
      cases hentry : lookup first entries with
      | none =>
        rw [kindAt?, at?_entry, hentry] at hdir
        cases hdir
      | some node =>
        have hbelow : ∀ more, (Node.directory entries).kindAt? (first :: more) =
            node.kindAt? more := by
          intro more
          rw [kindAt?, at?_entry, hentry]
          rfl
        rw [List.cons_append, hbelow] at hfree
        rw [hbelow] at hdir
        have hwrite : write v (first :: (here ++ [name])) (.directory entries) =
            .directory (setEntry first (write v (here ++ [name]) node) entries) := by
          rw [write, hentry]
          rfl
        rw [List.cons_append, hwrite]
        cases names with
        | nil => rfl
        | cons other rest =>
          unfold look at ih ⊢
          rw [at?_entry, at?_entry, lookup_setEntry]
          by_cases hfirst : first = other
          · subst hfirst
            rw [if_pos rfl, Option.bind_some, ih hdir hfree, hentry, Option.bind_some]
            simp only [List.cons.injEq, true_and]
          · have hne : other :: rest ≠ first :: (here ++ [name]) :=
              fun h => hfirst (List.cons.inj h).1.symm
            rw [if_neg hfirst, if_neg hne]

/-- A slot takes a file: it is a file, or a free entry of a directory. -/
def Takes (root : Node) (names : List String) : Prop :=
  root.kindAt? names = some .file
    ∨ root.kindAt? names = none
      ∧ ∃ here name, names = here ++ [name] ∧ root.kindAt? here = some .directory

/-- A file stands in its slot then, and nothing else changes. -/
theorem look_write_file {root : Node} {slot : List String} (h : root.Takes slot)
    (content : ByteArray) (names : List String) :
    (write (.file content) slot root).look names =
      if names = slot then some (.file content) else root.look names := by
  rcases List.eq_nil_or_concat slot with rfl | ⟨here, name, rfl⟩
  · -- the tree is a single file
    have hfile : ∃ old, root = .file old := by
      rcases h with hfile | ⟨hnone, _⟩
      · cases root with
        | file old => exact ⟨old, rfl⟩
        | link target => cases hfile
        | directory entries => cases hfile
      · cases hnone
    obtain ⟨old, rfl⟩ := hfile
    cases names with
    | nil => rfl
    | cons first rest => rfl
  · rw [List.concat_eq_append] at h ⊢
    rcases h with hfile | ⟨hnone, here', name', hslot, hdir⟩
    · exact look_write rfl (kindAt?_of_snoc hfile) (Or.inr hfile) names
    · obtain ⟨rfl, _⟩ := List.append_inj' hslot rfl
      exact look_write rfl hdir (Or.inl hnone) names

/-- A file holds what was written, and every other file what it held. -/
theorem fileAt?_write_file {root : Node} {slot : List String} (h : root.Takes slot)
    (content : ByteArray) (names : List String) :
    (write (.file content) slot root).fileAt? names =
      if names = slot then some content else root.fileAt? names := by
  rw [fileAt?_eq_look, look_write_file h, fileAt?_eq_look]
  by_cases hslot : names = slot
  · rw [if_pos hslot, if_pos hslot]
  · rw [if_neg hslot, if_neg hslot]

/-- Writing a file changes the kind of its slot only. -/
theorem kindAt?_write_file {root : Node} {slot : List String} (h : root.Takes slot)
    (content : ByteArray) (names : List String) :
    (write (.file content) slot root).kindAt? names =
      if names = slot then some .file else root.kindAt? names := by
  rw [kindAt?_eq_look, look_write_file h, kindAt?_eq_look]
  by_cases hslot : names = slot
  · rw [if_pos hslot, if_pos hslot]
    rfl
  · rw [if_neg hslot, if_neg hslot]

section Directory

variable {root : Node} {here : List String} {name : String}
  (hdir : root.kindAt? here = some .directory) (hfree : root.kindAt? (here ++ [name]) = none)
include hdir hfree

/-- A new directory changes no file. -/
theorem fileAt?_write_directory (names : List String) :
    (write (.directory []) (here ++ [name]) root).fileAt? names = root.fileAt? names := by
  rw [fileAt?_eq_look, look_write rfl hdir (Or.inl hfree), fileAt?_eq_look]
  by_cases hslot : names = here ++ [name]
  · have hnone : root.look (here ++ [name]) = none := by
      rw [kindAt?_eq_look] at hfree
      exact Option.map_eq_none_iff.1 hfree
    rw [if_pos hslot, hslot, hnone]
  · rw [if_neg hslot]

/-- A new directory changes the kind of its own place only. -/
theorem kindAt?_write_directory (names : List String) :
    (write (.directory []) (here ++ [name]) root).kindAt? names =
      if names = here ++ [name] then some .directory else root.kindAt? names := by
  rw [kindAt?_eq_look, look_write rfl hdir (Or.inl hfree), kindAt?_eq_look]
  by_cases hslot : names = here ++ [name]
  · rw [if_pos hslot, if_pos hslot]
    rfl
  · rw [if_neg hslot, if_neg hslot]

end Directory

/-! ### Trees that grow -/

/-- Whatever stands in the one tree stands in the other, and is of the same kind there. -/
def Keeps (root grown : Node) : Prop :=
  ∀ names k, root.kindAt? names = some k → grown.kindAt? names = some k

/-- The other tree has more files, and nothing else that is new. -/
structure Fills (root grown : Node) : Prop where
  keeps : root.Keeps grown
  new : ∀ names, root.kindAt? names = none →
    grown.kindAt? names = none ∨ grown.kindAt? names = some .file

theorem Keeps.trans {a b c : Node} (hab : a.Keeps b) (hbc : b.Keeps c) : a.Keeps c :=
  fun names k hk => hbc names k (hab names k hk)

theorem Fills.refl (a : Node) : a.Fills a :=
  ⟨fun _ _ hk => hk, fun _ hnone => Or.inl hnone⟩

theorem Fills.trans {a b c : Node} (hab : a.Fills b) (hbc : b.Fills c) : a.Fills c := by
  refine ⟨hab.keeps.trans hbc.keeps, fun names hnone => ?_⟩
  rcases hab.new names hnone with hb | hb
  · exact hbc.new names hb
  · exact Or.inr (hbc.keeps names _ hb)

/-- A file that is written is all that is new. -/
theorem fills_write_file {root : Node} {slot : List String} (h : root.Takes slot)
    (content : ByteArray) :
    root.Fills (write (.file content) slot root) := by
  constructor
  · intro names k hk
    rw [kindAt?_write_file h]
    by_cases hslot : names = slot
    · rw [if_pos hslot]
      rcases h with hfile | ⟨hnone, _⟩
      · exact hfile.symm.trans (hslot ▸ hk)
      · rw [hslot, hnone] at hk
        cases hk
    · rw [if_neg hslot, hk]
  · intro names hnone
    rw [kindAt?_write_file h]
    by_cases hslot : names = slot
    · exact Or.inr (if_pos hslot)
    · exact Or.inl (by rw [if_neg hslot, hnone])

/-- A new directory leaves everything in its place. -/
theorem keeps_write_directory {root : Node} {here : List String} {name : String}
    (hdir : root.kindAt? here = some .directory) (hfree : root.kindAt? (here ++ [name]) = none) :
    root.Keeps (write (.directory []) (here ++ [name]) root) := by
  intro names k hk
  rw [kindAt?_write_directory hdir hfree]
  by_cases hslot : names = here ++ [name]
  · rw [hslot, hfree] at hk
    cases hk
  · rw [if_neg hslot, hk]

end Node

/-! ### Walks, name by name -/

section Steps

variable {guard : Guard} {root : Node} {last : Bool} {here : List String} {name : String}
  {isLast : Bool}

/-- In a directory, dots and refusals come first, and then the entries. -/
theorem stepAt_of_directory (h : root.kindAt? here = some .directory) :
    stepAt guard root last here name isLast =
      (dotStep guard here name).getD (entryStep guard root last here name isLast) := by
  rw [stepAt, h]

/-- Where there is no directory, no name leads on. -/
theorem stepAt_of_not_directory (h : root.kindAt? here ≠ some .directory) :
    ∃ c, stepAt guard root last here name isLast = .stop (.failed c) := by
  unfold stepAt
  split
  · next hdir => exact absurd hdir h
  · exact ⟨_, rfl⟩
  · exact ⟨_, rfl⟩

/-- A dot leads to the directory itself or to the one above it, unless the search is refused. -/
theorem dotStep_cases {step : WalkStep} (h : dotStep guard here name = some step) :
    (step = .on here ∨ step = .on here.dropLast) ∨ ∃ c, step = .stop (.failed c) := by
  unfold dotStep at h
  split at h
  · exact Or.inl (Or.inl (Option.some.inj h).symm)
  split at h
  · exact Or.inr ⟨_, (Option.some.inj h).symm⟩
  split at h
  · exact Or.inl (Or.inl (Option.some.inj h).symm)
  split at h
  · exact Or.inl (Or.inr (Option.some.inj h).symm)
  · cases h

end Steps

/-! ### Walks in trees that grow -/

/-- Where a walk ends in the grown tree, given where it ended before: a node is found again, and
what was missing is found if it is there now. -/
def Place.GrowsTo (grown : Node) : Place → Place → Prop
  | .found names, q => q = .found names
  | .absent here name, q =>
      (grown.kindAt? (here ++ [name]) = none → q = .absent here name)
        ∧ ∀ k, grown.kindAt? (here ++ [name]) = some k → (∀ target, k ≠ .link target) →
          q = .found (here ++ [name])
  | .failed _, _ => True

/-- What a step of the grown tree may be, given what it was before: the same, unless it led
nowhere. -/
def WalkStep.GrowsTo (grown : Node) (here : List String) (name : String) (isLast : Bool)
    (step step' : WalkStep) : Prop :=
  (step' = step ∧ ∀ p, step = .stop p → p.GrowsTo grown p)
    ∨ (∃ c, step = .stop (.failed c))
    ∨ (isLast = true ∧ step = .stop (.absent here name)
        ∧ ∃ k, grown.kindAt? (here ++ [name]) = some k
          ∧ ((∀ target, k ≠ .link target) → step' = .on (here ++ [name])))

section Growing

variable {root grown : Node} (h : root.Keeps grown) (guard : Guard) (last : Bool)
include h

/-- How an entry of a directory is met in the tree that has grown. -/
theorem entryStep_of_keeps (here : List String) (name : String) (isLast : Bool) :
    (entryStep guard root last here name isLast).GrowsTo grown here name isLast
      (entryStep guard grown last here name isLast) := by
  unfold entryStep
  cases hentry : root.kindAt? (here ++ [name]) with
  | none =>
    cases isLast with
    | false => exact Or.inr (Or.inl ⟨_, rfl⟩)
    | true =>
      cases hnew : grown.kindAt? (here ++ [name]) with
      | none =>
        refine Or.inl ⟨rfl, fun p hp => ?_⟩
        cases hp
        refine ⟨fun _ => rfl, fun k hk => ?_⟩
        rw [hnew] at hk
        cases hk
      | some k =>
        refine Or.inr (Or.inr ⟨rfl, rfl, k, hnew, fun hlink => ?_⟩)
        cases k with
        | link target => exact absurd rfl (hlink target)
        | file => rfl
        | directory => rfl
  | some k =>
    rw [h _ k hentry]
    refine Or.inl ⟨rfl, fun p hp => ?_⟩
    cases k with
    | file => cases hp
    | directory => cases hp
    | link target =>
      simp only at hp
      split at hp
      · cases hp
        exact rfl
      split at hp
      · cases hp
        exact trivial
      · cases hp

/-- A step is the same in the grown tree, unless it led nowhere. -/
theorem stepAt_of_keeps (here : List String) (name : String) (isLast : Bool) :
    (stepAt guard root last here name isLast).GrowsTo grown here name isLast
      (stepAt guard grown last here name isLast) := by
  by_cases hdir : root.kindAt? here = some .directory
  · rw [stepAt_of_directory hdir, stepAt_of_directory (h here _ hdir)]
    cases hdot : dotStep guard here name with
    | none => exact entryStep_of_keeps h guard last here name isLast
    | some step =>
      refine Or.inl ⟨rfl, fun p hp => ?_⟩
      rw [Option.getD_some] at hp
      rcases dotStep_cases hdot with (hon | hon) | ⟨c, hc⟩
      · cases hon.symm.trans hp
      · cases hon.symm.trans hp
      · cases hc.symm.trans hp
        exact trivial
  · exact Or.inr (Or.inl (stepAt_of_not_directory hdir))

/-- By induction on the names that are left. -/
theorem walkNames_of_keeps {follow follow' : List String → List String → Place}
    (hfollow : ∀ here names, (follow here names).GrowsTo grown (follow' here names))
    (names here : List String) :
    (walkNames guard root last follow here names).GrowsTo grown
      (walkNames guard grown last follow' here names) := by
  induction names generalizing here with
  | nil => exact rfl
  | cons name rest ih =>
    rw [walkNames, walkNames]
    rcases stepAt_of_keeps h guard last here name rest.isEmpty with
      ⟨hsame, hstop⟩ | ⟨c, hfailed⟩ | ⟨hlast, habsent, k, hk, hon⟩
    · rw [hsame]
      cases hstep : stepAt guard root last here name rest.isEmpty with
      | on next => exact ih next
      | follow target => exact hfollow _ _
      | stop p => exact hstop p hstep
    · rw [hfailed]
      exact trivial
    · rw [habsent]
      cases rest with
      | cons next more => cases hlast
      | nil =>
        refine ⟨fun hnone => ?_, fun k' hk' hlink => ?_⟩
        · rw [hk] at hnone
          cases hnone
        · rw [hon (Option.some.inj (hk.symm.trans hk') ▸ hlink)]
          rfl

/-- Where a walk ends in a tree that has grown. -/
theorem walkTo_of_keeps (links : Nat) (here names : List String) :
    (walkTo guard root last links here names).GrowsTo grown
      (walkTo guard grown last links here names) := by
  induction links generalizing here names with
  | zero =>
    refine walkNames_of_keeps h guard last ?_ names here
    exact fun _ _ => trivial
  | succ links ih => exact walkNames_of_keeps h guard last ih names here

end Growing

section Filling

variable {root grown : Node} (h : root.Fills grown) {guard : Guard} {last : Bool}
include h

/-- A new file leads no further: an entry that led nowhere still does, or it is a file with names
left behind it. -/
theorem entryStep_failed_of_fills {here : List String} {name : String} {isLast : Bool} {c : Cause}
    (hfailed : entryStep guard root last here name isLast = .stop (.failed c)) :
    (∃ c, entryStep guard grown last here name isLast = .stop (.failed c))
      ∨ (isLast = false ∧ grown.kindAt? (here ++ [name]) = some .file
          ∧ entryStep guard grown last here name isLast = .on (here ++ [name])) := by
  unfold entryStep at hfailed ⊢
  cases hentry : root.kindAt? (here ++ [name]) with
  | some k =>
    rw [hentry] at hfailed
    rw [h.keeps _ k hentry]
    exact Or.inl ⟨c, hfailed⟩
  | none =>
    rw [hentry] at hfailed
    cases isLast with
    | true => cases hfailed
    | false =>
      rcases h.new _ hentry with hnone | hfile
      · rw [hnone]
        exact Or.inl ⟨_, rfl⟩
      · rw [hfile]
        exact Or.inr ⟨rfl, rfl, rfl⟩

/-- No new file is a directory. -/
theorem not_directory_of_fills {names : List String} (hdir : root.kindAt? names ≠ some .directory) :
    grown.kindAt? names ≠ some .directory := by
  intro hgrown
  cases hnames : root.kindAt? names with
  | none =>
    rcases h.new names hnames with hnone | hfile
    · cases hnone.symm.trans hgrown
    · cases hfile.symm.trans hgrown
  | some k => exact hdir (hnames.trans ((h.keeps names k hnames).symm.trans hgrown))

/-- A step that failed still fails, or goes on to a file with names left. -/
theorem stepAt_failed_of_fills {here : List String} {name : String} {isLast : Bool} {c : Cause}
    (hfailed : stepAt guard root last here name isLast = .stop (.failed c)) :
    (∃ c, stepAt guard grown last here name isLast = .stop (.failed c))
      ∨ (isLast = false ∧ grown.kindAt? (here ++ [name]) = some .file
          ∧ stepAt guard grown last here name isLast = .on (here ++ [name])) := by
  by_cases hdir : root.kindAt? here = some .directory
  · rw [stepAt_of_directory hdir] at hfailed
    rw [stepAt_of_directory (h.keeps here _ hdir)]
    cases hdot : dotStep guard here name with
    | none =>
      rw [hdot] at hfailed
      exact entryStep_failed_of_fills h hfailed
    | some step =>
      rw [hdot] at hfailed
      exact Or.inl ⟨c, hfailed⟩
  · exact Or.inl (stepAt_of_not_directory (not_directory_of_fills h hdir))

/-- By induction on the names that are left, given the same of what follows a link. -/
theorem walkNames_failed_of_fills {follow follow' : List String → List String → Place}
    (hfollow : ∀ here names, (∃ c, follow here names = .failed c) →
      ∃ c, follow' here names = .failed c)
    (names here : List String)
    (hfailed : ∃ c, walkNames guard root last follow here names = .failed c) :
    ∃ c, walkNames guard grown last follow' here names = .failed c := by
  induction names generalizing here with
  | nil =>
    obtain ⟨c, hc⟩ := hfailed
    cases hc
  | cons name rest ih =>
    rw [walkNames] at hfailed ⊢
    rcases stepAt_of_keeps h.keeps guard last here name rest.isEmpty with
      ⟨hsame, _⟩ | ⟨c, hstop⟩ | ⟨_, habsent, _⟩
    · rw [hsame]
      cases hstep : stepAt guard root last here name rest.isEmpty with
      | on next =>
        rw [hstep] at hfailed
        exact ih next hfailed
      | follow target =>
        rw [hstep] at hfailed
        exact hfollow _ _ hfailed
      | stop p =>
        rw [hstep] at hfailed
        exact hfailed
    · rcases stepAt_failed_of_fills h hstop with ⟨c, hc⟩ | ⟨hlast, hfile, hon⟩
      · exact ⟨c, by rw [hc]⟩
      · rw [hon]
        cases rest with
        | nil => cases hlast
        | cons next more =>
          have hdir : grown.kindAt? (here ++ [name]) ≠ some .directory := by
            rw [hfile]
            exact fun hk => by cases hk
          obtain ⟨c, hc⟩ := @stepAt_of_not_directory guard grown last _ next more.isEmpty hdir
          exact ⟨c, by simp only [walkNames, hc]⟩
    · rw [habsent] at hfailed
      obtain ⟨c, hc⟩ := hfailed
      cases hc

/-- New files do not open new ways. -/
theorem walkTo_failed_of_fills (links : Nat) (here names : List String)
    (hfailed : ∃ c, walkTo guard root last links here names = .failed c) :
    ∃ c, walkTo guard grown last links here names = .failed c := by
  induction links generalizing here names with
  | zero => exact walkNames_failed_of_fills h (fun _ _ hc => hc) names here hfailed
  | succ links ih => exact walkNames_failed_of_fills h ih names here hfailed

end Filling

/-! ### Where walks end -/

section Ends

variable {guard : Guard} {root : Node} {last : Bool}

/-- Where a walk ends without an entry, there is a directory, and the entry is free. -/
def Place.IsFree (root : Node) : Place → Prop
  | .absent here name =>
      root.kindAt? here = some .directory ∧ root.kindAt? (here ++ [name]) = none
  | _ => True

theorem entryStep_isFree {here : List String} {name : String} {isLast : Bool} {p : Place}
    (hdir : root.kindAt? here = some .directory)
    (h : entryStep guard root last here name isLast = .stop p) :
    p.IsFree root := by
  unfold entryStep at h
  split at h
  · next hentry =>
    cases isLast with
    | true =>
      cases h
      exact ⟨hdir, hentry⟩
    | false =>
      cases h
      exact trivial
  · split at h
    · cases h
      exact trivial
    split at h
    · cases h
      exact trivial
    · cases h
  · cases h

/-- A step that stops at a free entry stands in a directory. -/
theorem stepAt_isFree {here : List String} {name : String} {isLast : Bool} {p : Place}
    (h : stepAt guard root last here name isLast = .stop p) :
    p.IsFree root := by
  by_cases hdir : root.kindAt? here = some .directory
  · rw [stepAt_of_directory hdir] at h
    cases hdot : dotStep guard here name with
    | none =>
      rw [hdot] at h
      exact entryStep_isFree hdir h
    | some step =>
      rw [hdot, Option.getD_some] at h
      rcases dotStep_cases hdot with (hon | hon) | ⟨c, hc⟩
      · cases hon.symm.trans h
      · cases hon.symm.trans h
      · cases hc.symm.trans h
        exact trivial
  · obtain ⟨c, hc⟩ := stepAt_of_not_directory hdir
    cases hc.symm.trans h
    exact trivial

theorem walkNames_isFree {follow : List String → List String → Place}
    (hfollow : ∀ here names, (follow here names).IsFree root) (names here : List String) :
    (walkNames guard root last follow here names).IsFree root := by
  induction names generalizing here with
  | nil => exact trivial
  | cons name rest ih =>
    rw [walkNames]
    cases hstep : stepAt guard root last here name rest.isEmpty with
    | on next => exact ih next
    | follow target => exact hfollow _ _
    | stop p => exact stepAt_isFree hstep

/-- A walk that ends at a free entry stands in a directory. -/
theorem walkTo_isFree (links : Nat) (here names : List String) :
    (walkTo guard root last links here names).IsFree root := by
  induction links generalizing here names with
  | zero =>
    refine walkNames_isFree ?_ names here
    exact fun _ _ => trivial
  | succ links ih => exact walkNames_isFree ih names here

/-- How an entry is met depends on the last link only where it stops there. -/
theorem entryStep_last (here : List String) (name : String) (isLast : Bool) :
    entryStep guard root false here name isLast = entryStep guard root true here name isLast
      ∨ ∃ x, entryStep guard root false here name isLast = .stop (.found x) := by
  unfold entryStep
  split
  · exact Or.inl rfl
  · cases isLast with
    | true => exact Or.inr ⟨_, rfl⟩
    | false => exact Or.inl rfl
  · exact Or.inl rfl

/-- A step does not depend on the last link, unless it stops there. -/
theorem stepAt_last (here : List String) (name : String) (isLast : Bool) :
    stepAt guard root false here name isLast = stepAt guard root true here name isLast
      ∨ ∃ x, stepAt guard root false here name isLast = .stop (.found x) := by
  by_cases hdir : root.kindAt? here = some .directory
  · rw [stepAt_of_directory hdir, stepAt_of_directory hdir]
    cases dotStep guard here name with
    | none => exact entryStep_last here name isLast
    | some step => exact Or.inl rfl
  · left
    unfold stepAt
    split
    · next h => exact absurd h hdir
    · rfl
    · rfl

theorem walkNames_last {follow follow' : List String → List String → Place}
    (hfollow : ∀ here names, follow' here names = follow here names
      ∨ ∃ x, follow' here names = .found x)
    (names here : List String) :
    walkNames guard root false follow' here names = walkNames guard root true follow here names
      ∨ ∃ x, walkNames guard root false follow' here names = .found x := by
  induction names generalizing here with
  | nil => exact Or.inl rfl
  | cons name rest ih =>
    rw [walkNames, walkNames]
    rcases @stepAt_last guard root here name rest.isEmpty with hsame | ⟨x, hx⟩
    · rw [hsame]
      cases stepAt guard root true here name rest.isEmpty with
      | on next => exact ih next
      | follow target => exact hfollow _ _
      | stop p => exact Or.inl rfl
    · rw [hx]
      exact Or.inr ⟨x, rfl⟩

/-- A walk does not depend on the last link, unless it ends there. -/
theorem walkTo_last (links : Nat) (here names : List String) :
    walkTo guard root false links here names = walkTo guard root true links here names
      ∨ ∃ x, walkTo guard root false links here names = .found x := by
  induction links generalizing here names with
  | zero =>
    refine walkNames_last ?_ names here
    exact fun _ _ => Or.inl rfl
  | succ links ih => exact walkNames_last ih names here

/-- A place is not one where a walk failed for its text. -/
def Place.IsFit : Place → Prop
  | .failed c => c.isUnfit = false
  | _ => True

theorem dotStep_isFit {here : List String} {name : String} {p : Place}
    (h : dotStep guard here name = some (.stop p)) :
    p.IsFit := by
  unfold dotStep at h
  split at h
  · cases h
  split at h
  · cases h
    exact rfl
  split at h
  · cases h
  split at h <;> cases h

theorem entryStep_isFit {here : List String} {name : String} {isLast : Bool} {p : Place}
    (h : entryStep guard root last here name isLast = .stop p) :
    p.IsFit := by
  unfold entryStep at h
  split at h
  · cases h
    cases isLast
    · exact rfl
    · exact trivial
  · split at h
    · cases h
      exact trivial
    split at h <;> cases h
    exact rfl
  · cases h

/-- A step does not fail for the text of the path. -/
theorem stepAt_isFit {here : List String} {name : String} {isLast : Bool} {p : Place}
    (h : stepAt guard root last here name isLast = .stop p) :
    p.IsFit := by
  unfold stepAt at h
  split at h
  · cases hdot : dotStep guard here name with
    | none =>
      rw [hdot] at h
      exact entryStep_isFit h
    | some step =>
      rw [hdot] at h
      cases h
      exact dotStep_isFit hdot
  · cases h
    exact rfl
  · cases h
    exact rfl

theorem walkNames_isFit {follow : List String → List String → Place}
    (hfollow : ∀ here names, (follow here names).IsFit) (here names : List String) :
    (walkNames guard root last follow here names).IsFit := by
  induction names generalizing here with
  | nil => exact trivial
  | cons name rest ih =>
    rw [walkNames]
    cases hstep : stepAt guard root last here name rest.isEmpty with
    | on next => exact ih next
    | follow target => exact hfollow _ _
    | stop place => exact stepAt_isFit hstep

/-- A walk does not fail for its text. -/
theorem walkTo_isFit (links : Nat) (here names : List String) :
    (walkTo guard root last links here names).IsFit := by
  induction links generalizing here names with
  | zero =>
    refine walkNames_isFit (fun _ _ => ?_) here names
    exact rfl
  | succ links ih => exact walkNames_isFit ih here names

/-- Where a walk ends at a node, there is one. -/
def Place.IsReal (root : Node) : Place → Prop
  | .found names => root.kindAt? names ≠ none
  | _ => True

/-- Above a directory there is another one, or the root again. -/
theorem kindAt?_dropLast {here : List String} (h : root.kindAt? here = some .directory) :
    root.kindAt? here.dropLast = some .directory := by
  rcases List.eq_nil_or_concat here with rfl | ⟨above, name, rfl⟩
  · exact h
  · rw [List.concat_eq_append] at h ⊢
    rw [List.dropLast_concat]
    exact Node.kindAt?_of_snoc h

/-- A step goes on from a node, or from where it stands. -/
def WalkStep.IsReal (root : Node) (here : List String) : WalkStep → Prop
  | .on next => root.kindAt? next ≠ none
  | .follow _ => root.kindAt? here ≠ none
  | .stop place => place.IsReal root

theorem entryStep_isReal {here : List String} (hhere : root.kindAt? here ≠ none) (name : String)
    (isLast : Bool) :
    (entryStep guard root last here name isLast).IsReal root here := by
  unfold entryStep
  cases hentry : root.kindAt? (here ++ [name]) with
  | none => cases isLast <;> exact trivial
  | some k =>
    have hthere : root.kindAt? (here ++ [name]) ≠ none := by
      rw [hentry]
      exact Option.some_ne_none _
    cases k with
    | file => exact hthere
    | directory => exact hthere
    | link target =>
      simp only
      split
      · exact hthere
      split
      · exact trivial
      · exact hhere

/-- A step goes on from nodes that are there. -/
theorem stepAt_isReal (here : List String) (name : String) (isLast : Bool) :
    (stepAt guard root last here name isLast).IsReal root here := by
  by_cases hdir : root.kindAt? here = some .directory
  · rw [stepAt_of_directory hdir]
    have hhere : root.kindAt? here ≠ none := by
      rw [hdir]
      exact Option.some_ne_none _
    cases hdot : dotStep guard here name with
    | none => exact entryStep_isReal hhere name isLast
    | some step =>
      rw [Option.getD_some]
      rcases dotStep_cases hdot with (rfl | rfl) | ⟨c, rfl⟩
      · exact hhere
      · rw [WalkStep.IsReal, kindAt?_dropLast hdir]
        exact Option.some_ne_none _
      · exact trivial
  · obtain ⟨c, hc⟩ := @stepAt_of_not_directory guard root last _ name isLast hdir
    rw [hc]
    exact trivial

theorem walkNames_isReal {follow : List String → List String → Place}
    (hfollow : ∀ here names, root.kindAt? here ≠ none → (follow here names).IsReal root)
    (names here : List String) (hhere : names = [] → root.kindAt? here ≠ none) :
    (walkNames guard root last follow here names).IsReal root := by
  induction names generalizing here with
  | nil => exact hhere rfl
  | cons name rest ih =>
    rw [walkNames]
    have hreal := @stepAt_isReal guard root last here name rest.isEmpty
    cases hstep : stepAt guard root last here name rest.isEmpty with
    | on next =>
      rw [hstep] at hreal
      exact ih next fun _ => hreal
    | follow target =>
      rw [hstep] at hreal
      refine hfollow _ _ ?_
      split
      · exact fun h => by cases h
      · exact hreal
    | stop p =>
      rw [hstep] at hreal
      exact hreal

/-- A walk that ends at a place ends at a node, if it has a name to go by or starts from one. -/
theorem walkTo_isReal (links : Nat) (names here : List String)
    (hhere : names = [] → root.kindAt? here ≠ none) :
    (walkTo guard root last links here names).IsReal root := by
  induction links generalizing here names with
  | zero =>
    refine walkNames_isReal ?_ names here hhere
    exact fun _ _ _ => trivial
  | succ links ih =>
    exact walkNames_isReal (fun _ _ h => ih _ _ fun _ => h) names here hhere

end Ends

end Files

end SurfaceCoverage
