import Mathlib.Data.List.Nodup
import SurfaceCoverage.Proofs.Gaps
import SurfaceCoverage.Proofs.Scanning
import SurfaceCoverage.Proofs.Slots

/-!
# The order of source files

A traversal goes through the own files of a directory by name, and then through its directories by
name.  So the names that lead to the files are in a strict order, which leaves no room for a file to
come twice; and since that order is one of names alone, it does not matter how the directories are
listed.

**Results.**
* `ListedBefore.asymm`: no file comes both before and behind another one.
* `Sources.mem_below_iff_at?`: what a traversal meets, by the names that lead there.
* `Sources.below_metBefore`: a traversal meets the files in that order.
* `Sources.scan_of_relists`: a scan does not depend on how directories are listed.
* `Sources.scan_sources`: what a scan yields, and in which order.
-/

namespace SurfaceCoverage

namespace Files

/-! ### Paths below a path -/

namespace Path

theorem descend_nil (p : Path) :
    p.descend [] = p := by
  rw [descend, List.append_nil]

/-- Paths below one path differ by the names that lead there. -/
theorem descend_inj {p : Path} {x y : List String} (h : p.descend x = p.descend y) :
    x = y :=
  List.append_cancel_left (congrArg names h)

theorem descend_child (p : Path) (name : String) (x : List String) :
    (p.child name).descend x = p.descend (name :: x) := by
  rw [child, descend, descend, List.append_assoc, List.singleton_append]

theorem child_descend (p : Path) (x : List String) (name : String) :
    (p.descend x).child name = p.descend (x ++ [name]) := by
  rw [child, descend, descend, List.append_assoc]

end Path

/-! ### Trees whose directories are listed in another order -/

namespace Node

/-- No directory of the tree lists a name twice. -/
def NamesDistinct (root : Node) : Prop :=
  ∀ names entries, root.at? names = some (.directory entries) → (entries.map Prod.fst).Nodup

/-- The same stands everywhere in both trees, up to the order in which directories list it. -/
def Relists (root other : Node) : Prop :=
  ∀ names, root.look names = other.look names

/-- However directories are listed, the same kinds of nodes stand at the same names. -/
theorem Relists.kindAt? {root other : Node} (h : root.Relists other) (names : List String) :
    root.kindAt? names = other.kindAt? names := by
  rw [kindAt?_eq_look, kindAt?_eq_look, h]

theorem kind_bare (n : Node) :
    n.bare.kind = n.kind := by
  cases n <;> rfl

theorem lookup_eq_orderedMap_lookup (name : String) (entries : List (String × Node)) :
    lookup name entries = OrderedMap.lookup name entries := by
  induction entries with
  | nil => rfl
  | cons e rest ih => rw [lookup, OrderedMap.lookup, ih]

/-- Where names are distinct, an entry is found by its name. -/
theorem lookup_eq_some_iff {entries : List (String × Node)}
    (h : (entries.map Prod.fst).Nodup) {name : String} {n : Node} :
    lookup name entries = some n ↔ (name, n) ∈ entries := by
  rw [lookup_eq_orderedMap_lookup, OrderedMap.lookup_eq_some_iff h]

theorem NamesDistinct.entries {entries : List (String × Node)}
    (h : (Node.directory entries).NamesDistinct) :
    (entries.map Prod.fst).Nodup :=
  h [] entries rfl

/-- The trees below a tree have distinct names as well. -/
theorem NamesDistinct.of_at? {root n : Node} {names : List String} (h : root.NamesDistinct)
    (hn : root.at? names = some n) :
    n.NamesDistinct := by
  intro more entries hmore
  refine h (names ++ more) entries ?_
  rw [at?_append, hn, Option.bind_some, hmore]

theorem NamesDistinct.of_mem {entries : List (String × Node)} {name : String} {n : Node}
    (h : (Node.directory entries).NamesDistinct) (hmem : (name, n) ∈ entries) :
    n.NamesDistinct := by
  have hlookup := (lookup_eq_some_iff h.entries).2 hmem
  have hat : (Node.directory entries).at? [name] = some n := by
    rw [at?_entry, hlookup]
    rfl
  exact h.of_at? hat

/-- A node without entries has no names to confuse. -/
theorem namesDistinct_of_not_directory {n : Node} (h : n.kind ≠ .directory) :
    n.NamesDistinct := by
  intro names entries hat
  cases names with
  | nil =>
    cases hat
    exact absurd rfl h
  | cons name rest =>
    cases n with
    | directory others => exact absurd rfl h
    | file content => cases hat
    | link target => cases hat

/-- The names in a tree are distinct if they are in its root and in everything below it. -/
theorem namesDistinct_directory {entries : List (String × Node)}
    (hnames : (entries.map Prod.fst).Nodup) (hinner : ∀ e ∈ entries, e.2.NamesDistinct) :
    (directory entries).NamesDistinct := by
  intro names inner hat
  cases names with
  | nil =>
    cases hat
    exact hnames
  | cons name rest =>
    rw [at?_entry] at hat
    obtain ⟨n, hlookup, hat⟩ := Option.bind_eq_some_iff.1 hat
    exact hinner _ ((lookup_eq_some_iff hnames).1 hlookup) rest inner hat

/-- A directory may list its entries in any order. -/
theorem relists_of_perm {entries entries' : List (String × Node)}
    (hnames : (entries.map Prod.fst).Nodup) (h : entries.Perm entries') :
    (directory entries).Relists (directory entries') := by
  have hnames' : (entries'.map Prod.fst).Nodup := ((h.map Prod.fst).nodup_iff).1 hnames
  have hlookup : ∀ name, lookup name entries = lookup name entries' := by
    intro name
    refine Option.ext fun n => ?_
    rw [lookup_eq_some_iff hnames, lookup_eq_some_iff hnames', h.mem_iff]
  intro names
  cases names with
  | nil => rfl
  | cons name rest => rw [look, look, at?_entry, at?_entry, hlookup]

end Node

/-! ### Disks whose directories are listed in another order -/

namespace Disk

/-- The disks hold the same, up to the order in which directories are listed. -/
structure Relists (d d' : Disk) : Prop where
  root : d.root.Relists d'.root
  current : d.current = d'.current
  home : d.home = d'.home
  homes : d.homes = d'.homes
  guard : d.guard = d'.guard

end Disk

/-- One step of a walk does not depend on how directories are listed. -/
theorem stepAt_congr {root other : Node} (h : root.Relists other) (guard : Guard) (last : Bool)
    (here : List String) (name : String) (isLast : Bool) :
    stepAt guard root last here name isLast = stepAt guard other last here name isLast := by
  rw [stepAt, stepAt, entryStep, entryStep, h.kindAt?, h.kindAt?]

theorem walkNames_congr {root other : Node} (h : root.Relists other) (guard : Guard) (last : Bool)
    {follow follow' : List String → List String → Place}
    (hfollow : ∀ here names, follow here names = follow' here names) (here names : List String) :
    walkNames guard root last follow here names =
      walkNames guard other last follow' here names := by
  induction names generalizing here with
  | nil => rfl
  | cons name rest ih =>
    rw [walkNames, walkNames, stepAt_congr h]
    cases stepAt guard other last here name rest.isEmpty with
    | on next => exact ih next
    | follow target => exact hfollow _ _
    | stop place => rfl

/-- A walk does not depend on how directories are listed. -/
theorem walkTo_congr {root other : Node} (h : root.Relists other) (guard : Guard) (last : Bool)
    (links : Nat) (here names : List String) :
    walkTo guard root last links here names = walkTo guard other last links here names := by
  induction links generalizing here names with
  | zero => exact walkNames_congr h guard last (fun _ _ => rfl) here names
  | succ links ih => exact walkNames_congr h guard last ih here names

namespace Disk

variable {d d' : Disk}

theorem Relists.symm (h : d.Relists d') :
    d'.Relists d :=
  ⟨fun names => (h.root names).symm, h.current.symm, h.home.symm, h.homes.symm, h.guard.symm⟩

/-- A path leads to the same place, however directories are listed. -/
theorem Relists.place (h : d.Relists d') (last : Bool) (p : Path) :
    d.place last p = d'.place last p := by
  rw [Disk.place, Disk.place, unfit?_of_guard h.guard, start, start, h.current, h.guard,
    walkTo_congr h.root]

theorem Relists.canList (h : d.Relists d') (p : Path) :
    d.canList p = d'.canList p := by
  rw [Disk.canList, Disk.canList, h.place, h.guard]

/-- The same stands at some names, up to what a directory lists. -/
theorem Relists.at? (h : d.Relists d') (names : List String) :
    (d.root.at? names).map Node.bare = (d'.root.at? names).map Node.bare :=
  h.root names

/-- Paths lead to the same, up to what a directory lists. -/
theorem Relists.node (h : d.Relists d') (p : Path) :
    (d.node p).map Node.bare = (d'.node p).map Node.bare := by
  rw [Disk.node, Disk.node, h.place]
  cases d'.place true p with
  | absent here name => rfl
  | failed c => rfl
  | found x =>
    have hlook := h.root x
    unfold Node.look at hlook
    cases hat : d.root.at? x with
    | none =>
      rw [hat] at hlook
      simp only [hat, Option.map_eq_none_iff.1 hlook.symm]
    | some n =>
      rw [hat] at hlook
      obtain ⟨n', hat', hbare⟩ := Option.map_eq_some_iff.1 hlook.symm
      simp only [hat, hat', Except.map, hbare]

/-- Whether there is a directory shows without what it holds. -/
theorem isDirectory_eq_bare (d : Disk) (p : Path) :
    d.isDirectory p =
      match (d.node p).map Node.bare with
      | .ok (.directory _) => true
      | _ => false := by
  unfold isDirectory
  cases d.node p with
  | error c => rfl
  | ok n => cases n <;> rfl

theorem Relists.isDirectory (h : d.Relists d') (p : Path) :
    d.isDirectory p = d'.isDirectory p := by
  rw [isDirectory_eq_bare, isDirectory_eq_bare, h.node]

theorem Relists.seesDirectory (h : d.Relists d') (p : Path) :
    d.seesDirectory p = d'.seesDirectory p := by
  have hnode := h.node p
  unfold Disk.seesDirectory look
  cases hd : d.node p with
  | error c =>
    rw [hd] at hnode
    obtain ⟨c', hc'⟩ : ∃ c', d'.node p = .error c' := by
      cases hd' : d'.node p with
      | error c' => exact ⟨c', rfl⟩
      | ok n' =>
        rw [hd'] at hnode
        cases hnode
    rw [hc'] at hnode ⊢
    cases hnode
    rfl
  | ok n =>
    rw [hd] at hnode
    cases hd' : d'.node p with
    | error c' =>
      rw [hd'] at hnode
      cases hnode
    | ok n' =>
      rw [hd'] at hnode
      have hkind : n.kind = n'.kind := by
        rw [← Node.kind_bare n, ← Node.kind_bare n']
        exact congrArg Node.kind (Except.ok.inj hnode)
      simp only [Except.map, Option.any_some, hkind]

/-- A path reads as the same bytes, however directories are listed. -/
theorem Relists.read (h : d.Relists d') (p : Path) :
    d.read p = d'.read p := by
  have hguarded : ∀ names, d.guarded .read p names = d'.guarded .read p names := by
    intro names
    rw [guarded, guarded, h.guard]
  unfold Disk.read
  rw [h.place]
  cases d'.place true p with
  | absent here name => rfl
  | failed c => rfl
  | found names =>
    simp only [hguarded]
    cases d'.guarded .read p names with
    | error e => rfl
    | ok names =>
      have hat := h.at? names
      cases hd : d.root.at? names with
      | none =>
        rw [hd] at hat
        simp only [hd, Option.map_eq_none_iff.1 hat.symm]
      | some n =>
        rw [hd] at hat
        obtain ⟨n', hd', hbare⟩ := Option.map_eq_some_iff.1 hat.symm
        simp only [hd, hd']
        cases n <;> cases n' <;> cases hbare <;> rfl

theorem Relists.expandHome (h : d.Relists d') (p : Path) :
    d.expandHome p = d'.expandHome p := by
  have hhome : d.homeOf = d'.homeOf := by
    funext name
    rw [homeOf, homeOf, h.home, h.homes]
  unfold Disk.expandHome
  rw [hhome]

end Disk

end Files

/-! ### The order of a traversal -/

/-- The order of a traversal, on the names that lead to files: in every directory its own files come
first, by name, and then its directories, by name. -/
inductive ListedBefore : List String → List String → Prop
  | files {a b : String} (h : a < b) : ListedBefore [a] [b]
  | fileFirst {a b c : String} {rest : List String} : ListedBefore [a] (b :: c :: rest)
  | directories {a b c e : String} {rest rest' : List String} (h : a < b) :
      ListedBefore (a :: c :: rest) (b :: e :: rest')
  | inside {a : String} {x y : List String} (h : ListedBefore x y) :
      ListedBefore (a :: x) (a :: y)

namespace ListedBefore

theorem ne_nil {x y : List String} (h : ListedBefore x y) :
    x ≠ [] ∧ y ≠ [] := by
  cases h <;> simp

/-- No file is listed both before and behind another one. -/
theorem asymm {x y : List String} (h : ListedBefore x y) :
    ¬ ListedBefore y x := by
  intro h'
  induction h with
  | files hab =>
    cases h' with
    | files hba => exact String.lt_asymm hab hba
    | inside hnil => exact hnil.ne_nil.1 rfl
  | fileFirst =>
    cases h' with
    | inside hnil => exact hnil.ne_nil.2 rfl
  | directories hab =>
    cases h' with
    | directories hba => exact String.lt_asymm hab hba
    | inside _ => exact String.lt_irrefl _ hab
  | inside hxy ih =>
    cases h' with
    | files hlt => exact String.lt_irrefl _ hlt
    | fileFirst => exact hxy.ne_nil.2 rfl
    | directories hlt => exact String.lt_irrefl _ hlt
    | inside hyx => exact ih hyx

end ListedBefore

namespace Sources

open Files

/-- A traversal of the directory at a path meets the first file before the second one. -/
def MetBefore (p q q' : Path) : Prop :=
  ∃ x y, q = p.descend x ∧ q' = p.descend y ∧ ListedBefore x y

theorem MetBefore.asymm {p q q' : Path} (h : MetBefore p q q') :
    ¬ MetBefore p q' q := by
  obtain ⟨x, y, rfl, rfl, hxy⟩ := h
  rintro ⟨y', x', hy, hx, hyx⟩
  rw [← Path.descend_inj hx, ← Path.descend_inj hy] at hyx
  exact hxy.asymm hyx

theorem MetBefore.ne {p q q' : Path} (h : MetBefore p q q') :
    q ≠ q' := by
  rintro rfl
  exact h.asymm h

/-- What is met in order inside a directory is met in that order from outside. -/
theorem MetBefore.inside {p q q' : Path} {name : String} (h : MetBefore (p.child name) q q') :
    MetBefore p q q' := by
  obtain ⟨x, y, rfl, rfl, hxy⟩ := h
  exact ⟨name :: x, name :: y, Path.descend_child p name x, Path.descend_child p name y, hxy.inside⟩

/-- Lists that a traversal meets in order are equal if they have the same members. -/
theorem eq_of_metBefore {p : Path} {l l' : List Path} (h : l.Pairwise (MetBefore p))
    (h' : l'.Pairwise (MetBefore p)) (hmem : ∀ q, q ∈ l ↔ q ∈ l') :
    l = l' := by
  have hperm := (List.perm_ext_iff_of_nodup (h.imp MetBefore.ne) (h'.imp MetBefore.ne)).2 hmem
  exact hperm.eq_of_pairwise (fun _ _ _ _ hab hba => absurd hba hab.asymm) h h'

variable {d : Disk}

/-! ### What a traversal meets -/

/-- The directory at a path can be listed, and so can all on the way down along some names. -/
def ListsDown (d : Disk) (p : Path) (dirs : List String) : Prop :=
  ∀ above, above <+: dirs → d.canList (p.descend above) = true

theorem listsDown_nil {p : Path} :
    ListsDown d p [] ↔ d.canList p = true := by
  simp [ListsDown, Path.descend_nil]

/-- A way down can be gone if its first directory can be listed, and the rest from there on. -/
theorem listsDown_cons {p : Path} {name : String} {dirs : List String} :
    ListsDown d p (name :: dirs) ↔ d.canList p = true ∧ ListsDown d (p.child name) dirs := by
  constructor
  · intro h
    refine ⟨?_, fun above habove => ?_⟩
    · have hp := h [] List.nil_prefix
      rwa [Path.descend_nil] at hp
    · rw [Path.descend_child]
      exact h _ ((List.prefix_cons_inj name).2 habove)
  · rintro ⟨hp, h⟩ above habove
    cases above with
    | nil => rwa [Path.descend_nil]
    | cons first above =>
      obtain ⟨rfl, hrest⟩ := List.cons_prefix_cons.1 habove
      rw [← Path.descend_child]
      exact h above hrest

/-- What stands below a directory, by the names that lead there. -/
def StandsBelow (d : Disk) (p : Path) (n : Node) (q : Path) : Prop :=
  ∃ dirs name entry, n.at? (dirs ++ [name]) = some entry ∧ (∀ x ∈ dirs, x ∉ excluded)
    ∧ ListsDown d p dirs ∧ isFileEntry d (p.descend dirs) (name, entry) = true
    ∧ q = p.descend (dirs ++ [name])

/-- What a traversal meets stands below the directory, and the way there can be gone. -/
theorem standsBelow_of_below {p q : Path} {n : Node} (hn : n.NamesDistinct)
    (h : Below d p n q) :
    StandsBelow d p n q := by
  induction h with
  | @entry p entries entry hlist hmem hfile =>
    refine ⟨[], entry.1, entry.2, ?_, fun x hx => (List.not_mem_nil hx).elim,
      listsDown_nil.2 hlist, ?_, rfl⟩
    · rw [List.nil_append, Node.at?_entry, (Node.lookup_eq_some_iff hn.entries).2 hmem]
      rfl
    · rw [Path.descend_nil]
      exact hfile
  | @inside p entries name inner q hlist hmem hname _ ih =>
    obtain ⟨dirs, last, entry, hat, hdirs, hdown, hfile, rfl⟩ := ih (hn.of_mem hmem)
    refine ⟨name :: dirs, last, entry, ?_, List.forall_mem_cons.2 ⟨hname, hdirs⟩,
      listsDown_cons.2 ⟨hlist, hdown⟩, ?_, ?_⟩
    · rw [List.cons_append, Node.at?_entry, (Node.lookup_eq_some_iff hn.entries).2 hmem]
      exact hat
    · rw [← Path.descend_child]
      exact hfile
    · rw [List.cons_append, ← Path.descend_child]

/-- A file that stands below a directory, on a way that can be gone, is met. -/
theorem below_of_at? {n : Node} (hn : n.NamesDistinct) {p : Path} {dirs : List String}
    {name : String} {entry : Node} (hat : n.at? (dirs ++ [name]) = some entry)
    (hdirs : ∀ x ∈ dirs, x ∉ excluded) (hdown : ListsDown d p dirs)
    (hfile : isFileEntry d (p.descend dirs) (name, entry) = true) :
    Below d p n (p.descend (dirs ++ [name])) := by
  induction dirs generalizing n p with
  | nil =>
    cases n with
    | file content => cases hat
    | link target => cases hat
    | directory entries =>
      rw [List.nil_append, Node.at?_entry] at hat
      obtain ⟨n, hlookup, hn'⟩ := Option.bind_eq_some_iff.1 hat
      cases hn'
      rw [Path.descend_nil] at hfile
      exact .entry (listsDown_nil.1 hdown) ((Node.lookup_eq_some_iff hn.entries).1 hlookup) hfile
  | cons first dirs ih =>
    cases n with
    | file content => cases hat
    | link target => cases hat
    | directory entries =>
      rw [List.cons_append, Node.at?_entry] at hat
      obtain ⟨next, hlookup, hat⟩ := Option.bind_eq_some_iff.1 hat
      have hmem := (Node.lookup_eq_some_iff hn.entries).1 hlookup
      obtain ⟨hfirst, hrest⟩ := List.forall_mem_cons.1 hdirs
      obtain ⟨hlist, hbeneath⟩ := listsDown_cons.1 hdown
      rw [← Path.descend_child] at hfile
      have hbelow := ih (hn.of_mem hmem) hat hrest hbeneath hfile
      rw [List.cons_append, ← Path.descend_child]
      -- only a directory has anything below it
      cases next with
      | file content => cases hbelow
      | link target => cases hbelow
      | directory inner => exact .inside hlist hmem hfirst hbelow

/-- A traversal meets exactly the files that stand below its directory on a way that can be gone. -/
theorem mem_below_iff_at? {p q : Path} {n : Node} (hn : n.NamesDistinct) :
    q ∈ below d p n ↔ StandsBelow d p n q := by
  rw [mem_below_iff]
  refine ⟨standsBelow_of_below hn, ?_⟩
  rintro ⟨dirs, name, entry, hat, hdirs, hdown, hfile, rfl⟩
  exact below_of_at? hn hat hdirs hdown hfile

/-- Below a directory, the names that lead to a file are more than none. -/
theorem exists_descend_of_mem_below {p q : Path} {n : Node} (hn : n.NamesDistinct)
    (h : q ∈ below d p n) :
    ∃ name rest, q = p.descend (name :: rest) := by
  obtain ⟨dirs, name, -, -, -, -, -, rfl⟩ := (mem_below_iff_at? hn).1 h
  cases dirs with
  | nil => exact ⟨name, [], rfl⟩
  | cons first dirs => exact ⟨first, dirs ++ [name], rfl⟩

/-! ### In which order it is met -/

theorem nameFirst_trans (a b c : String × List Path) (hab : nameFirst a b = true)
    (hbc : nameFirst b c = true) :
    nameFirst a c = true :=
  Text.precedes_trans hab hbc

/-- The directories that are gone into are among the entries. -/
theorem belowEach_names_sublist (d : Disk) (p : Path) (entries : List (String × Node)) :
    ((belowEach d p entries).map Prod.fst).Sublist (entries.map Prod.fst) := by
  induction entries with
  | nil => exact List.Sublist.refl _
  | cons first rest ih =>
    obtain ⟨name, n⟩ := first
    cases n with
    | file content =>
      rw [belowEach]
      exact ih.cons name
    | link target =>
      rw [belowEach]
      exact ih.cons name
    | directory inner =>
      rw [belowEach]
      split
      · exact ih.cons name
      · exact ih.cons_cons name

/-- The directories of a directory are met by name. -/
theorem belowEach_rising {p : Path} {entries : List (String × Node)}
    (h : (entries.map Prod.fst).Nodup) :
    ((belowEach d p entries).mergeSort nameFirst).Pairwise fun a b => a.1 < b.1 := by
  have hsorted := List.pairwise_mergeSort nameFirst_trans
    (fun a b => Text.precedes_total a.1 b.1) (belowEach d p entries)
  have hnodup : (((belowEach d p entries).mergeSort nameFirst).map Prod.fst).Nodup :=
    (((List.mergeSort_perm _ nameFirst).map Prod.fst).nodup_iff).2
      (h.sublist (belowEach_names_sublist d p entries))
  refine (hsorted.and (List.pairwise_map.1 hnodup)).imp ?_
  rintro a b ⟨hle, hne⟩
  exact String.not_le.1 fun hge => hne (String.le_antisymm (of_decide_eq_true hle) hge)

/-- The own files of a directory come by name. -/
theorem ownFiles_rising {p : Path} {entries : List (String × Node)}
    (h : (entries.map Prod.fst).Nodup) :
    (ownFiles d p entries).Pairwise (· < ·) :=
  Text.sorted_rising (h.sublist (List.filter_sublist.map Prod.fst))

/-- One level of a directory is met in order, if what stands below its entries is. -/
theorem below_directory_metBefore {p : Path} {entries : List (String × Node)}
    (hn : (Node.directory entries).NamesDistinct)
    (hinner : ∀ name inner, (name, Node.directory inner) ∈ entries →
      (below d (p.child name) (.directory inner)).Pairwise (MetBefore (p.child name))) :
    (below d p (.directory entries)).Pairwise (MetBefore p) := by
  -- what stands below an entry has the name of the entry first, and more names behind it
  have hdeep : ∀ x ∈ belowEach d p entries, ∀ q ∈ x.2,
      ∃ c rest, q = p.descend (x.1 :: c :: rest) := by
    intro x hx q hq
    obtain ⟨inner, hmem, -, hbelow⟩ := mem_belowEach_iff.1 hx
    rw [← hbelow] at hq
    obtain ⟨c, rest, rfl⟩ := exists_descend_of_mem_below (hn.of_mem hmem) hq
    exact ⟨c, rest, Path.descend_child p x.1 (c :: rest)⟩
  rw [below]
  split
  case isFalse => exact List.Pairwise.nil
  rw [List.pairwise_append]
  refine ⟨?_, ?_, ?_⟩
  · refine List.pairwise_map.2 ((ownFiles_rising hn.entries).imp ?_)
    exact fun {a b} hlt => ⟨[a], [b], rfl, rfl, .files hlt⟩
  · refine List.pairwise_flatMap.2 ⟨?_, ?_⟩
    · intro x hx
      obtain ⟨inner, hmem, -, hbelow⟩ := mem_belowEach_iff.1 (List.mem_mergeSort.1 hx)
      rw [← hbelow]
      exact (hinner x.1 inner hmem).imp fun h => h.inside
    · refine (belowEach_rising hn.entries).imp_of_mem ?_
      intro x y hx hy hlt q hq q' hq'
      obtain ⟨c, rest, rfl⟩ := hdeep x (List.mem_mergeSort.1 hx) q hq
      obtain ⟨e, rest', rfl⟩ := hdeep y (List.mem_mergeSort.1 hy) q' hq'
      exact ⟨_, _, rfl, rfl, .directories hlt⟩
  · intro q hq q' hq'
    obtain ⟨a, -, rfl⟩ := List.mem_map.1 hq
    obtain ⟨x, hx, hq'⟩ := List.mem_flatMap.1 hq'
    obtain ⟨c, rest, rfl⟩ := hdeep x (List.mem_mergeSort.1 hx) q' hq'
    exact ⟨[a], _, rfl, rfl, .fileFirst⟩

/-- A traversal meets the files in order. -/
theorem below_metBefore {p : Path} :
    {n : Node} → n.NamesDistinct → (below d p n).Pairwise (MetBefore p)
  | .file content, _ => by
    rw [below_file]
    exact List.Pairwise.nil
  | .link target, _ => by
    rw [below_link]
    exact List.Pairwise.nil
  | .directory entries, hn => by
    refine below_directory_metBefore hn fun name inner hmem => ?_
    -- the recursion goes down to an entry of the directory
    have hsmaller : sizeOf (Node.directory inner) < sizeOf (Node.directory entries) := by
      have hentry := List.sizeOf_lt_of_mem hmem
      simp only [Prod.mk.sizeOf_spec, Node.directory.sizeOf_spec] at hentry ⊢
      omega
    exact below_metBefore (hn.of_mem hmem)
termination_by n => sizeOf n
decreasing_by exact hsmaller

/-! ### The scan as a whole -/

/-- A readable file below a directory that has one of the suffixes: it is no directory itself, and
neither a link nor an excluded directory is on the way to it. -/
structure IsSource (d : Disk) (root : Path) (extensions : List String) (f : SourceFile) :
    Prop where
  stands : ∃ n dirs name entry, d.node root = .ok n ∧ n.at? (dirs ++ [name]) = some entry
    ∧ entry.kind ≠ .directory ∧ (∀ x ∈ dirs, x ∉ excluded)
    ∧ f.path = root.descend (dirs ++ [name])
  suffix : ∃ e ∈ extensions, suffixFor e = Text.lower f.path.suffix
  readable : ∃ content, d.read f.path = .ok content ∧ content.toList = f.content

/-- Every directory on the way to the file, from the one at the path on, can be listed. -/
def IsListed (d : Disk) (p q : Path) : Prop :=
  ∀ above rest, rest ≠ [] → q = p.descend (above ++ rest) → d.canList (p.descend above) = true

/-- A file is listed if each directory on the way to it can be. -/
theorem isListed_iff {p : Path} {dirs : List String} {name : String} :
    IsListed d p (p.descend (dirs ++ [name])) ↔ ListsDown d p dirs := by
  constructor
  · rintro h above ⟨rest, rfl⟩
    refine h above (rest ++ [name]) (by simp) ?_
    rw [List.append_assoc]
  · intro h above rest hne heq
    have hnames : dirs ++ [name] = above ++ rest := Path.descend_inj heq
    rcases List.eq_nil_or_concat rest with rfl | ⟨rest, last, rfl⟩
    · exact absurd rfl hne
    · rw [List.concat_eq_append, ← List.append_assoc] at hnames
      obtain ⟨rfl, -⟩ := List.append_inj' hnames rfl
      exact h above (List.prefix_append above rest)

/-- What can be read is a file, if it is no directory. -/
theorem isFileEntry_of_read {p : Path} {name : String} {entry : Node} {content : ByteArray}
    (hkind : entry.kind ≠ .directory) (hread : d.read (p.child name) = .ok content) :
    isFileEntry d p (name, entry) = true := by
  cases entry with
  | file bytes => rfl
  | directory entries => exact absurd rfl hkind
  | link target =>
    have hno : d.isDirectory (p.child name) = false := by
      rw [Bool.eq_false_iff]
      intro hdir
      obtain ⟨entries, hnode⟩ := (Disk.isDirectory_iff d (p.child name)).1 hdir
      obtain ⟨x, hplace, hat⟩ := Disk.node_eq_ok_iff.1 hnode
      obtain ⟨x', hplace', -, hat'⟩ := Disk.read_eq_ok_iff.1 hread
      cases hplace.symm.trans hplace'
      cases hat.symm.trans hat'
    simp only [isFileEntry, hno, Bool.not_false]

/-- An entry that counts as a file is no directory. -/
theorem kind_ne_directory_of_isFileEntry {p : Path} {name : String} {entry : Node}
    (h : isFileEntry d p (name, entry) = true) :
    entry.kind ≠ .directory := by
  cases entry with
  | directory entries => cases h
  | file content => exact fun hkind => by cases hkind
  | link target => exact fun hkind => by cases hkind

/-- Where names are distinct in a tree, they are below every path. -/
theorem namesDistinct_of_node (hd : d.root.NamesDistinct) {p : Path} {n : Node}
    (h : d.node p = .ok n) :
    n.NamesDistinct := by
  obtain ⟨x, -, hat⟩ := Disk.node_eq_ok_iff.1 h
  exact hd.of_at? hat

/-- The scan yields the sources that are listed. -/
theorem mem_filesOf_iff_isSource (hd : d.root.NamesDistinct) {root : Path}
    {extensions : List String} {f : SourceFile} :
    f ∈ (filesOf d root extensions).2 ↔
      IsSource d root extensions f ∧ IsListed d root f.path := by
  rw [mem_filesOf_iff, hasSuffix_iff]
  constructor
  · rintro ⟨⟨n, content, hnode, hbelow, hread, hbytes⟩, hsuffix⟩
    obtain ⟨dirs, name, entry, hat, hdirs, hdown, hfile, hpath⟩ :=
      standsBelow_of_below (namesDistinct_of_node hd hnode) hbelow
    refine ⟨⟨⟨n, dirs, name, entry, hnode, hat, kind_ne_directory_of_isFileEntry hfile, hdirs,
      hpath⟩, hsuffix, ⟨content, hread, hbytes⟩⟩, ?_⟩
    rw [hpath]
    exact isListed_iff.2 hdown
  · rintro ⟨⟨⟨n, dirs, name, entry, hnode, hat, hkind, hdirs, hpath⟩, hsuffix, content, hread,
      hbytes⟩, hlisted⟩
    refine ⟨⟨n, content, hnode, ?_, hread, hbytes⟩, hsuffix⟩
    rw [hpath] at hlisted ⊢
    rw [hpath, ← Path.child_descend] at hread
    exact below_of_at? (namesDistinct_of_node hd hnode) hat hdirs (isListed_iff.1 hlisted)
      (isFileEntry_of_read hkind hread)

/-- The files that are read are among those that are met, in their order. -/
theorem readAll_paths_sublist (d : Disk) (paths : List Path) :
    ((readAll d paths).2.map SourceFile.path).Sublist paths := by
  induction paths with
  | nil => exact List.Sublist.refl _
  | cons p rest ih =>
    rw [readAll]
    cases d.read p with
    | error e => exact ih.cons p
    | ok content => exact ih.cons_cons p

/-- The scan yields the files in the order of the traversal. -/
theorem filesOf_metBefore (hd : d.root.NamesDistinct) (root : Path) (extensions : List String) :
    ((filesOf d root extensions).2.map SourceFile.path).Pairwise (MetBefore root) := by
  unfold filesOf
  cases hnode : d.node root with
  | error e => exact List.Pairwise.nil
  | ok n =>
    exact (below_metBefore (namesDistinct_of_node hd hnode)).sublist
      ((readAll_paths_sublist d _).trans List.filter_sublist)

/-! ### Other listings -/

section Listing

variable {d' : Disk} (h : d.Relists d')
include h

/-- Whether an entry counts as a file does not depend on how directories are listed. -/
theorem isFileEntry_of_relists {p : Path} {name : String} {entry entry' : Node}
    (hbare : entry.bare = entry'.bare) :
    isFileEntry d p (name, entry) = isFileEntry d' p (name, entry') := by
  cases entry <;> cases entry' <;> cases hbare
  · rfl
  · simp only [isFileEntry, h.isDirectory]
  · rfl

/-- What stands below a directory does not depend on how directories are listed. -/
theorem standsBelow_of_relists {p q : Path} {n n' : Node} (hn : n.Relists n')
    (hq : StandsBelow d p n q) :
    StandsBelow d' p n' q := by
  obtain ⟨dirs, name, entry, hat, hdirs, hdown, hfile, hpath⟩ := hq
  have hlook := hn (dirs ++ [name])
  rw [Node.look, hat] at hlook
  obtain ⟨entry', hat', hbare⟩ := Option.map_eq_some_iff.1 hlook.symm
  refine ⟨dirs, name, entry', hat', hdirs, fun above habove => ?_,
    isFileEntry_of_relists h hbare.symm ▸ hfile, hpath⟩
  rw [← h.canList]
  exact hdown above habove

theorem readAll_of_relists (paths : List Path) :
    readAll d paths = readAll d' paths := by
  induction paths with
  | nil => rfl
  | cons p rest ih => rw [readAll, readAll, ih, h.read]

end Listing

/-- What a path leads to in one listing is what it leads to in the other. -/
theorem exists_node_of_relists {d' : Disk} (h : d.Relists d') {p : Path} {n : Node}
    (hnode : d.node p = .ok n) :
    ∃ n', d'.node p = .ok n' ∧ n.Relists n' := by
  obtain ⟨x, hplace, hat⟩ := Disk.node_eq_ok_iff.1 hnode
  have hlook := h.root x
  rw [Node.look, hat] at hlook
  obtain ⟨n', hat', -⟩ := Option.map_eq_some_iff.1 hlook.symm
  refine ⟨n', ?_, fun names => ?_⟩
  · rw [Disk.node, ← h.place, hplace]
    simp only [hat']
  · have hbelow := h.root (x ++ names)
    rw [Node.look, Node.look, Node.at?_append, Node.at?_append, hat, hat'] at hbelow
    exact hbelow

/-- A traversal does not depend on how directories are listed. -/
theorem below_of_relists {d' : Disk} (h : d.Relists d') {p : Path} {n n' : Node}
    (hn : n.NamesDistinct) (hn' : n'.NamesDistinct) (hrelists : n.Relists n') :
    below d p n = below d' p n' := by
  refine eq_of_metBefore (below_metBefore hn) (below_metBefore hn') fun q => ?_
  rw [mem_below_iff_at? hn, mem_below_iff_at? hn']
  exact ⟨standsBelow_of_relists h hrelists,
    standsBelow_of_relists h.symm fun names => (hrelists names).symm⟩

/-- The source files below a directory do not depend on how directories are listed. -/
theorem filesOf_of_relists {d' : Disk} (h : d.Relists d') (hd : d.root.NamesDistinct)
    (hd' : d'.root.NamesDistinct) (root : Path) (extensions : List String) :
    filesOf d root extensions = filesOf d' root extensions := by
  unfold filesOf
  cases hnode : d.node root with
  | ok n =>
    obtain ⟨n', hnode', hrelists⟩ := exists_node_of_relists h hnode
    have hbelow := below_of_relists h (p := root) (namesDistinct_of_node hd hnode)
      (namesDistinct_of_node hd' hnode') hrelists
    simp only [hnode', hbelow, readAll_of_relists h]
  | error c =>
    have hnode' : d'.node root = .error c := by
      cases hother : d'.node root with
      | ok n' =>
        obtain ⟨n, hn, -⟩ := exists_node_of_relists h.symm hother
        cases hnode.symm.trans hn
      | error c' =>
        have hbare := h.node root
        rw [hnode, hother] at hbare
        exact hbare.symm
    simp only [hnode']

/-- A scan does not depend on how directories are listed, and neither do its log lines. -/
theorem scan_of_relists {d' : Disk} (h : d.Relists d') (hd : d.root.NamesDistinct)
    (hd' : d'.root.NamesDistinct) (root : Path) (extensions : List String) :
    scan d root extensions = scan d' root extensions := by
  unfold scan
  rw [h.expandHome]
  refine congrArg _ (funext fun p => ?_)
  rw [h.seesDirectory, filesOf_of_relists h hd hd']

/-- A source root with a directory whose files come last, an excluded one, one that cannot be
listed, a link to a directory, a link that leads nowhere and a file that cannot be read; its entries
are listed in the given order. -/
def delta (entries : List (String × Node)) : Disk :=
  { Disk.unguarded (.directory entries) with
    guard := (Guard.idle.denying .read ["Locked.java"]).denying .list ["shut"] }

/-- The entries of the source root. -/
def deltaEntries : List (String × Node) :=
  [("shut", .directory [("Clam.java", .file ByteArray.empty)]),
    ("river", .directory [("Cod.java", .file ByteArray.empty)]),
    ("target", .directory [("Old.java", .file ByteArray.empty)]),
    ("Sand.java", .file ByteArray.empty),
    ("mouth", .link "/river"),
    ("Gone.java", .link "/nowhere"),
    ("Reed.JAVA", .file ByteArray.empty),
    ("Locked.java", .file ByteArray.empty)]

theorem namesDistinct_deltaEntries :
    (Node.directory deltaEntries).NamesDistinct := by
  have hfile : (Node.file ByteArray.empty).NamesDistinct :=
    Node.namesDistinct_of_not_directory (by simp [Node.kind])
  have hlink : ∀ target, (Node.link target).NamesDistinct :=
    fun target => Node.namesDistinct_of_not_directory (by simp [Node.kind])
  have hinner : ∀ name, (Node.directory [(name, .file ByteArray.empty)]).NamesDistinct := by
    intro name
    refine Node.namesDistinct_directory (by simp) fun e he => ?_
    rw [List.mem_singleton.1 he]
    exact hfile
  refine Node.namesDistinct_directory (by decide) fun e he => ?_
  simp only [deltaEntries, List.mem_cons, List.not_mem_nil, or_false] at he
  rcases he with rfl | rfl | rfl | rfl | rfl | rfl | rfl | rfl
  · exact hinner _
  · exact hinner _
  · exact hinner _
  · exact hfile
  · exact hlink _
  · exact hlink _
  · exact hfile
  · exact hfile

/-- Of the directories on this disk, one cannot be listed. -/
theorem canList_delta :
    (delta deltaEntries).canList ⟨.root, []⟩ = true
      ∧ (delta deltaEntries).canList ⟨.root, ["river"]⟩ = true
      ∧ (delta deltaEntries).canList ⟨.root, ["shut"]⟩ = false := by
  decide +kernel

/-- The files of the source root come first, by name. -/
theorem below_deltaEntries :
    below (delta deltaEntries) ⟨.root, []⟩ (.directory deltaEntries) =
      [⟨.root, ["Gone.java"]⟩, ⟨.root, ["Locked.java"]⟩, ⟨.root, ["Reed.JAVA"]⟩,
        ⟨.root, ["Sand.java"]⟩, ⟨.root, ["river", "Cod.java"]⟩] := by
  obtain ⟨hroot, hriver, hshut⟩ := canList_delta
  have hown : ownFiles (delta deltaEntries) ⟨.root, []⟩ deltaEntries =
      ["Gone.java", "Locked.java", "Reed.JAVA", "Sand.java"] := by
    have hfiles : (deltaEntries.filter (isFileEntry (delta deltaEntries) ⟨.root, []⟩)).map
        Prod.fst = ["Sand.java", "Gone.java", "Reed.JAVA", "Locked.java"] := by
      decide +kernel
    have hperm : ["Sand.java", "Gone.java", "Reed.JAVA", "Locked.java"].Perm
        ["Gone.java", "Locked.java", "Reed.JAVA", "Sand.java"] := by
      decide
    rw [ownFiles, hfiles, Text.sorted_eq_of_perm hperm]
    exact List.mergeSort_of_pairwise (by decide +kernel)
  have hdeep : belowEach (delta deltaEntries) ⟨.root, []⟩ deltaEntries =
      [("shut", []), ("river", [⟨.root, ["river", "Cod.java"]⟩])] := by
    generalize hdelta : delta deltaEntries = d at hriver hshut ⊢
    simp [deltaEntries, belowEach, below, excluded, ownFiles, List.filter, isFileEntry,
      Text.sorted, Path.child, hriver, hshut]
  have hsort : [("shut", []), ("river", [⟨.root, ["river", "Cod.java"]⟩])].mergeSort nameFirst =
      [("river", [(⟨.root, ["river", "Cod.java"]⟩ : Path)]), ("shut", [])] := by
    simp [List.mergeSort, nameFirst, Text.precedes]
  rw [below, if_pos hroot, hown, hdeep, hsort]
  rfl

end Sources

end SurfaceCoverage
