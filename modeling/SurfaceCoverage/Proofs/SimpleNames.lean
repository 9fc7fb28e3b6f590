import SurfaceCoverage.ClassMapping

/-!
# Looking up classes by simple names

The simple name of a class is its last segment: what stands behind its last dot, if it has one.  A
class that is not mapped itself is answered by the smallest mapped class with the same last segment.
The same answer comes from an index of last segments in which the mapped classes are entered in
rising order, and the first one keeps its place.

**Results.**
* `isLastSegment_iff`: the last segment of a name, by what stands in front of it.
* `get?_simpleIndex`: the index answers with the class of the smallest mapped name.
* `resolve_eq_some_iff`, `resolve_eq_none_iff`: what a look-up answers, and when it has no answer.
* `resolve_by_least_name`: looking up classes as a whole.
-/

namespace SurfaceCoverage

/-! ### Last segments -/

/-- The segment has no dot, and it is the whole name or stands behind the last dot of it. -/
def IsLastSegment (name segment : String) : Prop :=
  '.' ∉ segment.toList
  ∧ (name = segment ∨ ∃ qualifier : String, name = qualifier ++ "." ++ segment)

/-- The names have one last segment. -/
def ShareSegment (a b : String) : Prop :=
  ∃ segment, IsLastSegment a segment ∧ IsLastSegment b segment

/-- The characters behind the last dot, from the front. -/
def lastRun (cs : List Char) : List Char :=
  (cs.reverse.takeWhile (· ≠ '.')).reverse

/-- Nothing behind the last dot is a dot. -/
theorem dot_not_mem_lastRun (cs : List Char) :
    '.' ∉ lastRun cs := by
  intro h
  have hall := List.all_takeWhile (p := fun c => decide (c ≠ '.')) (l := cs.reverse)
  have hdot := List.all_eq_true.1 hall '.' (List.mem_reverse.1 h)
  simp at hdot

/-- A name is its last segment, or ends in it behind a dot. -/
theorem lastRun_cases (cs : List Char) :
    lastRun cs = cs ∨ ∃ qualifier, cs = qualifier ++ '.' :: lastRun cs := by
  have hsplit : cs.reverse.takeWhile (· ≠ '.') ++ cs.reverse.dropWhile (· ≠ '.') = cs.reverse :=
    List.takeWhile_append_dropWhile
  cases hrest : cs.reverse.dropWhile (· ≠ '.') with
  | nil =>
    rw [hrest, List.append_nil] at hsplit
    exact Or.inl (by rw [lastRun, hsplit, List.reverse_reverse])
  | cons c before =>
    have hhead := List.head?_dropWhile_not (fun c => decide (c ≠ '.')) cs.reverse
    rw [hrest] at hhead
    have hc : c = '.' := by simpa using hhead
    rw [hrest, hc] at hsplit
    refine Or.inr ⟨before.reverse, ?_⟩
    have hreverse := congrArg List.reverse hsplit
    rw [List.reverse_append, List.reverse_cons, List.reverse_reverse, List.append_assoc] at hreverse
    exact hreverse.symm

theorem takeWhile_reverse_append {segment : List Char} (h : '.' ∉ segment) (rest : List Char) :
    (segment.reverse ++ rest).takeWhile (· ≠ '.') =
      segment.reverse ++ rest.takeWhile (· ≠ '.') := by
  apply List.takeWhile_append_of_pos
  intro c hc
  refine decide_eq_true ?_
  rintro rfl
  exact h (List.mem_reverse.1 hc)

theorem lastRun_of_not_mem {cs : List Char} (h : '.' ∉ cs) :
    lastRun cs = cs := by
  have hrun := takeWhile_reverse_append h []
  rw [List.append_nil, List.takeWhile_nil, List.append_nil] at hrun
  rw [lastRun, hrun, List.reverse_reverse]

/-- The last segment stands behind the last dot. -/
theorem lastRun_append {segment : List Char} (h : '.' ∉ segment) (qualifier : List Char) :
    lastRun (qualifier ++ '.' :: segment) = segment := by
  rw [lastRun, List.reverse_append, List.reverse_cons, List.append_assoc,
    takeWhile_reverse_append h, List.singleton_append, List.takeWhile_cons_of_neg (by simp),
    List.append_nil, List.reverse_reverse]

/-- A name has one last segment, which is its simple name. -/
theorem isLastSegment_iff {name segment : String} :
    IsLastSegment name segment ↔ simpleName name = segment := by
  have hsimple : simpleName name = String.ofList (lastRun name.toList) := rfl
  rw [hsimple]
  constructor
  · rintro ⟨hdot, rfl | ⟨qualifier, rfl⟩⟩
    · rw [lastRun_of_not_mem hdot, String.ofList_toList]
    · have hchars : (qualifier ++ "." ++ segment).toList =
          qualifier.toList ++ '.' :: segment.toList := by
        simp
      rw [hchars, lastRun_append hdot, String.ofList_toList]
  · rintro rfl
    refine ⟨by rw [String.toList_ofList]; exact dot_not_mem_lastRun _, ?_⟩
    rcases lastRun_cases name.toList with hwhole | ⟨qualifier, hname⟩
    · exact Or.inl (by rw [hwhole, String.ofList_toList])
    · refine Or.inr ⟨String.ofList qualifier, ?_⟩
      apply String.toList_injective
      simpa using hname

/-- Names share their last segment if it is the same. -/
theorem shareSegment_iff {a b : String} :
    ShareSegment a b ↔ simpleName a = simpleName b := by
  simp only [ShareSegment, isLastSegment_iff]
  constructor
  · rintro ⟨segment, ha, hb⟩
    exact ha.trans hb.symm
  · intro h
    exact ⟨_, h, rfl⟩

/-! ### The answer -/

namespace ClassMapping

/-- The mapped class answers for a name: it has the last segment of the name, and no smaller
mapped class has. -/
structure Represents (m : ClassMapping) (name key : String) : Prop where
  mapped : m.entries.contains key = true
  segment : ShareSegment key name
  least : ∀ k, m.entries.contains k = true → ShareSegment k name → key ≤ k

/-- The entry that stands for a name has the least key with its last segment. -/
theorem representative?_eq_some_iff {m : ClassMapping} {name key : String} :
    m.representative? (simpleName name) = some key ↔ m.Represents name key := by
  rw [representative?, leastName?_eq_some_iff]
  simp only [List.mem_filter, decide_eq_true_eq, ← m.entries.contains_iff, ← shareSegment_iff]
  constructor
  · rintro ⟨⟨hmapped, hsegment⟩, hleast⟩
    exact ⟨hmapped, hsegment, fun k hk hshare => hleast k ⟨hk, hshare⟩⟩
  · rintro ⟨hmapped, hsegment, hleast⟩
    exact ⟨⟨hmapped, hsegment⟩, fun k hk => hleast k hk.1 hk.2⟩

theorem representative?_eq_none_iff {m : ClassMapping} {name : String} :
    m.representative? (simpleName name) = none ↔
      ∀ key, m.entries.contains key = true → ¬ ShareSegment key name := by
  rw [representative?, leastName?_eq_none_iff, List.filter_eq_nil_iff]
  simp only [decide_eq_true_eq, ← m.entries.contains_iff, shareSegment_iff]

/-- A name is resolved by its own entry, or else by the one that stands for it. -/
theorem resolve_eq_some_iff {m : ClassMapping} {name target : String} :
    m.resolve name = some target ↔
      m.entries.get? name = some target
      ∨ (m.entries.contains name = false
        ∧ ∃ key, m.Represents name key ∧ m.entries.get? key = some target) := by
  simp only [resolve, OrderedMap.contains, ← representative?_eq_some_iff]
  cases m.entries.get? name with
  | some t => simp
  | none => simp [Option.bind_eq_some_iff]

/-- A name is not resolved if no key has its last segment. -/
theorem resolve_eq_none_iff {m : ClassMapping} {name : String} :
    m.resolve name = none ↔
      ∀ key, m.entries.contains key = true → ¬ ShareSegment key name := by
  rw [← representative?_eq_none_iff, resolve]
  cases hname : m.entries.get? name with
  | some t =>
    -- a mapped name has its own last segment
    have hmapped : m.entries.contains name = true := by rw [OrderedMap.contains, hname]; rfl
    simp only [reduceCtorEq, false_iff, representative?_eq_none_iff]
    exact fun h => h name hmapped (shareSegment_iff.2 rfl)
  | none =>
    refine ⟨fun h => ?_, fun h => by rw [h, Option.bind_none]⟩
    cases hkey : m.representative? (simpleName name) with
    | none => rfl
    | some key =>
      have hmapped := (representative?_eq_some_iff.1 hkey).mapped
      simp only [hkey, Option.bind_some] at h
      rw [OrderedMap.contains, h] at hmapped
      cases hmapped

/-! ### The index of last segments -/

/-- Enters a mapped class under its last segment, unless a class is there. -/
def enter (m : ClassMapping) (index : OrderedMap String String) (key : String) :
    OrderedMap String String :=
  match m.entries.get? key with
  | none => index
  | some target =>
      if index.contains (simpleName key) then index else index.insert (simpleName key) target

/-- The index of last segments, in which the mapped classes are entered in rising order. -/
def simpleIndex (m : ClassMapping) : OrderedMap String String :=
  (Text.sorted m.entries.keys).foldl m.enter .empty

/-- An entry counts for its last segment unless an earlier one does. -/
theorem get?_enter (m : ClassMapping) (index : OrderedMap String String) (key simple : String) :
    (m.enter index key).get? simple =
      (index.get? simple).or (if simpleName key = simple then m.entries.get? key else none) := by
  unfold enter
  cases m.entries.get? key with
  | none => simp
  | some target =>
    by_cases hsimple : simpleName key = simple
    · subst hsimple
      cases hold : index.get? (simpleName key) with
      | none => simp [OrderedMap.contains, hold]
      | some old => simp [OrderedMap.contains, hold]
    · simp only [if_neg hsimple, Option.or_none]
      split
      · rfl
      · rw [OrderedMap.get?_insert, if_neg hsimple]

/-- Under a segment the index has the class that came first. -/
theorem get?_foldl_enter (m : ClassMapping) (keys : List String)
    (hkeys : ∀ key ∈ keys, m.entries.contains key = true) (index : OrderedMap String String)
    (simple : String) :
    (keys.foldl m.enter index).get? simple =
      (index.get? simple).or
        (((keys.filter fun k => simpleName k = simple).head?).bind m.entries.get?) := by
  induction keys generalizing index with
  | nil => rw [List.foldl_nil, List.filter_nil, List.head?_nil, Option.bind_none, Option.or_none]
  | cons key rest ih =>
    have hrest : ∀ k ∈ rest, m.entries.contains k = true :=
      fun k hk => hkeys k (List.mem_cons_of_mem key hk)
    rw [List.foldl_cons, ih hrest, get?_enter]
    by_cases hsimple : simpleName key = simple
    · obtain ⟨target, htarget⟩ :=
        Option.isSome_iff_exists.1 (hkeys key List.mem_cons_self)
      rw [if_pos hsimple, List.filter_cons_of_pos (by simpa using hsimple), List.head?_cons,
        Option.bind_some, htarget]
      cases index.get? simple <;> rfl
    · rw [if_neg hsimple, Option.or_none, List.filter_cons_of_neg (by simpa using hsimple)]

/-- The first name of a rising list is its smallest one. -/
theorem head?_eq_leastName? {l : List String}
    (h : l.Pairwise fun a b => Text.precedes a b = true) :
    l.head? = leastName? l := by
  cases l with
  | nil => rfl
  | cons a rest =>
    rw [List.head?_cons, eq_comm, leastName?_eq_some_iff]
    refine ⟨List.mem_cons_self, fun b hb => ?_⟩
    rcases List.mem_cons.1 hb with rfl | hrest
    · exact String.le_refl b
    · exact of_decide_eq_true ((List.pairwise_cons.1 h).1 b hrest)

/-- The index answers for a segment with the target of the smallest mapped class that has it. -/
theorem get?_simpleIndex (m : ClassMapping) (simple : String) :
    m.simpleIndex.get? simple = (m.representative? simple).bind m.entries.get? := by
  have hkeys : ∀ key ∈ Text.sorted m.entries.keys, m.entries.contains key = true :=
    fun key hkey => m.entries.contains_iff.2 (Text.mem_sorted.1 hkey)
  have hrising := (Text.sorted_pairwise m.entries.keys).filter fun k => simpleName k = simple
  rw [simpleIndex, get?_foldl_enter m _ hkeys, OrderedMap.get?_empty, Option.none_or,
    head?_eq_leastName? hrising, representative?]
  congr 1
  apply leastName?_congr
  simp only [List.mem_filter, Text.mem_sorted, implies_true]

theorem contains_eq_of_equiv {m m' : ClassMapping} (h : m.entries.Equiv m'.entries)
    (key : String) :
    m.entries.contains key = m'.entries.contains key := by
  rw [OrderedMap.contains, OrderedMap.contains, h key]

/-- Which entry stands for a name does not depend on the order of entries. -/
theorem represents_iff_of_equiv {m m' : ClassMapping} (h : m.entries.Equiv m'.entries)
    {name key : String} :
    m.Represents name key ↔ m'.Represents name key := by
  constructor
  · rintro ⟨hmapped, hsegment, hleast⟩
    simp only [contains_eq_of_equiv h] at hmapped hleast
    exact ⟨hmapped, hsegment, hleast⟩
  · rintro ⟨hmapped, hsegment, hleast⟩
    simp only [← contains_eq_of_equiv h] at hmapped hleast
    exact ⟨hmapped, hsegment, hleast⟩

end ClassMapping

/-- Looking up a class: its own target if it is mapped, otherwise that of the smallest mapped class
with its last segment, and nothing if there is no such class.  This is the answer of the index of
last segments that is filled in rising order of names, and it is the same for every mapping of the
same classes, in whatever order they were entered. -/
theorem resolve_by_least_name (m : ClassMapping) :
    (∀ name target : String, m.resolve name = some target ↔
      m.entries.get? name = some target
      ∨ (m.entries.contains name = false
        ∧ ∃ key, m.Represents name key ∧ m.entries.get? key = some target))
    ∧
    (∀ name : String, m.resolve name = none ↔
      ∀ key, m.entries.contains key = true → ¬ ShareSegment key name)
    ∧
    (∀ name segment : String, IsLastSegment name segment →
      m.resolve name = (m.entries.get? name).or (m.simpleIndex.get? segment))
    ∧
    (∀ m' : ClassMapping, m.entries.Equiv m'.entries →
      ∀ name : String, m'.resolve name = m.resolve name) := by
  refine ⟨fun _ _ => ClassMapping.resolve_eq_some_iff,
    fun _ => ClassMapping.resolve_eq_none_iff, ?_, ?_⟩
  · intro name segment hsegment
    rw [ClassMapping.get?_simpleIndex, ← isLastSegment_iff.1 hsegment, ClassMapping.resolve]
    cases m.entries.get? name <;> rfl
  · intro m' hequiv name
    apply Option.ext
    intro target
    rw [ClassMapping.resolve_eq_some_iff, ClassMapping.resolve_eq_some_iff,
      ← ClassMapping.contains_eq_of_equiv hequiv]
    simp only [ClassMapping.represents_iff_of_equiv hequiv, hequiv _]

/-- Three classes with one last segment, and one whose name ends with a dot. -/
def barrels : ClassMapping :=
  ⟨.ofList [("net.b.Barrel", "B"), ("Barrel", "Plain"), ("net.a.Barrel", "A"), ("Chest.", "C")]⟩

/-- The same classes, entered in another order. -/
def barrelsReordered : ClassMapping :=
  ⟨.ofList [("Chest.", "C"), ("net.a.Barrel", "A"), ("net.b.Barrel", "B"), ("Barrel", "Plain")]⟩

/-- A mapped class answers for itself, and for another one with its last segment the smallest. -/
theorem resolve_barrels :
    IsLastSegment "org.Barrel" "Barrel"
    ∧ barrels.entries.Equiv barrelsReordered.entries
    ∧ barrels.resolve "org.Barrel" = (barrels.entries.get? "org.Barrel").or
        (barrels.simpleIndex.get? "Barrel")
    ∧ barrelsReordered.resolve "org.Barrel" = barrels.resolve "org.Barrel"
    ∧ barrels.resolve "org.Barrel" = some "Plain"
    ∧ barrels.resolve "net.b.Barrel" = some "B"
    ∧ barrels.resolve "" = some "C" := by
  have hsegment : IsLastSegment "org.Barrel" "Barrel" :=
    ⟨by decide, Or.inr ⟨"org", by decide⟩⟩
  have hequiv : barrels.entries.Equiv barrelsReordered.entries :=
    (OrderedMap.isEquiv_iff _ _).1 (by decide +kernel)
  obtain ⟨_, _, hindex, horder⟩ := resolve_by_least_name barrels
  refine ⟨hsegment, hequiv, hindex _ _ hsegment, horder _ hequiv _, ?_, ?_, ?_⟩
  · decide +kernel
  · decide +kernel
  · decide +kernel

end SurfaceCoverage
