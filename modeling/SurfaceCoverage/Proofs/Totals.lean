import Mathlib.Data.List.Basic
import SurfaceCoverage.Proofs.Scoring
import SurfaceCoverage.Summary

/-!
# Totals

A summary may be counted in one pass over the records, or category by category: both ways every
record is counted in one place.  So nothing is lost and nothing is counted twice, however the
records are mixed, and neither their order nor a cut between them matters.

**Results.**
* `Category.inReportOrder_congr`: the order of a report only depends on which categories occur.
* `total_over_categories`: sums over the categories are sums over all records.
* `get?_tally`: in one pass, a category has the sums over its records.
* `summarize_eq_tally`: summaries may be counted in one pass.
* `countIn_summarize`: a summary of a category counts the records of the category.
* `summaries_add_up`: the summaries as a whole.
-/

namespace SurfaceCoverage

/-! ### The order of categories -/

/-- Without its repetitions, a list in rising order rises strictly. -/
theorem Text.eraseDups_rising {l : List String} (h : l.Pairwise fun a b => precedes a b = true) :
    l.eraseDups.Pairwise (· < ·) := by
  match l with
  | [] => exact List.Pairwise.nil
  | a :: rest =>
    obtain ⟨hfirst, hrest⟩ := List.pairwise_cons.1 h
    rw [List.eraseDups_cons, List.pairwise_cons]
    refine ⟨?_, eraseDups_rising (hrest.sublist List.filter_sublist)⟩
    intro b hb
    obtain ⟨hmem, hne⟩ := List.mem_filter.1 (List.mem_eraseDups.1 hb)
    refine String.not_le.1 fun hle => ?_
    have heq : b = a := String.le_antisymm hle (of_decide_eq_true (hfirst b hmem))
    simp [heq] at hne
termination_by l.length
decreasing_by
  exact Nat.lt_succ_of_le (List.length_filter_le _ _)

/-- Lists that rise strictly are equal if they have the same members. -/
theorem Text.eq_of_rising {l l' : List String} (h : l.Pairwise (· < ·)) (h' : l'.Pairwise (· < ·))
    (hmem : ∀ a, a ∈ l ↔ a ∈ l') :
    l = l' := by
  have hnodup : l.Nodup := h.imp fun hlt => String.ne_of_lt hlt
  have hnodup' : l'.Nodup := h'.imp fun hlt => String.ne_of_lt hlt
  refine List.Perm.eq_of_pairwise ?_ h h' ((List.perm_ext_iff_of_nodup hnodup hnodup').2 hmem)
  intro a b _ _ hab hba
  exact absurd hba (String.lt_asymm hab)

namespace Category

/-- The known ones of some categories, in the order of reports. -/
def knownAmong (categories : List String) : List String :=
  reportOrder.filter fun c => categories.contains c

/-- The other ones of some categories, in rising order. -/
def othersAmong (categories : List String) : List String :=
  (Text.sorted categories).eraseDups.filter fun c => !reportOrder.contains c

/-- Known categories come first, in a fixed order, and then the other ones. -/
theorem inReportOrder_eq_append (categories : List String) :
    inReportOrder categories = knownAmong categories ++ othersAmong categories :=
  rfl

/-- Unknown categories come by name. -/
theorem othersAmong_rising (categories : List String) :
    (othersAmong categories).Pairwise (· < ·) :=
  (Text.eraseDups_rising (Text.sorted_pairwise categories)).sublist List.filter_sublist

theorem not_mem_reportOrder_of_mem_othersAmong {categories : List String} {c : String}
    (h : c ∈ othersAmong categories) :
    c ∉ reportOrder := by
  simpa using (List.mem_filter.1 h).2

/-- No category comes twice. -/
theorem nodup_inReportOrder (categories : List String) :
    (inReportOrder categories).Nodup := by
  have hknown : reportOrder.Nodup := by decide
  rw [inReportOrder_eq_append, List.nodup_append]
  refine ⟨hknown.sublist List.filter_sublist,
    (othersAmong_rising categories).imp fun hlt => String.ne_of_lt hlt, ?_⟩
  rintro c hc c' hc' rfl
  exact not_mem_reportOrder_of_mem_othersAmong hc' (List.mem_filter.1 hc).1

/-- The order of a report only depends on which categories occur. -/
theorem inReportOrder_congr {categories categories' : List String}
    (h : ∀ c, c ∈ categories ↔ c ∈ categories') :
    inReportOrder categories = inReportOrder categories' := by
  have hknown : knownAmong categories = knownAmong categories' := by
    refine List.filter_congr fun c _ => ?_
    simp only [List.contains_eq_mem, h]
  have hothers : othersAmong categories = othersAmong categories' := by
    refine Text.eq_of_rising (othersAmong_rising _) (othersAmong_rising _) fun c => ?_
    simp only [othersAmong, List.mem_filter, List.mem_eraseDups, Text.mem_sorted, h]
  rw [inReportOrder_eq_append, inReportOrder_eq_append, hknown, hothers]

end Category

/-! ### Sums -/

theorem total_append (ns ms : List Nat) :
    total (ns ++ ms) = total ns + total ms := by
  induction ns with
  | nil => exact (Nat.zero_add _).symm
  | cons n rest ih => rw [List.cons_append, total, total, ih, Nat.add_assoc]

/-- A total does not depend on the order. -/
theorem total_eq_of_perm {ns ms : List Nat} (h : ns.Perm ms) :
    total ns = total ms := by
  induction h with
  | nil => rfl
  | cons n _ ih => rw [total, total, ih]
  | swap n m rest => simp only [total, Nat.add_left_comm]
  | trans _ _ ih ih' => exact ih.trans ih'

/-- A total of sums is the sum of the totals. -/
theorem total_map_add {α : Type} (f g : α → Nat) (l : List α) :
    total (l.map fun x => f x + g x) = total (l.map f) + total (l.map g) := by
  induction l with
  | nil => rfl
  | cons x rest ih =>
    simp only [List.map_cons, total, ih]
    omega

/-- A total grows with what is added up. -/
theorem total_map_le {α : Type} {f g : α → Nat} {l : List α} (h : ∀ x ∈ l, f x ≤ g x) :
    total (l.map f) ≤ total (l.map g) := by
  induction l with
  | nil => exact Nat.le_refl 0
  | cons x rest ih =>
    obtain ⟨hx, hrest⟩ := List.forall_mem_cons.1 h
    exact Nat.add_le_add hx (ih hrest)

/-- A part is no more than the total. -/
theorem le_total_of_mem {n : Nat} {ns : List Nat} (h : n ∈ ns) :
    n ≤ total ns := by
  induction ns with
  | nil => cases h
  | cons m rest ih =>
    rw [total]
    rcases List.mem_cons.1 h with rfl | hrest
    · exact Nat.le_add_right n _
    · exact Nat.le_trans (ih hrest) (Nat.le_add_left _ m)

/-- What is counted for one member of a list, and nothing for the others. -/
theorem total_map_single {cs : List String} (hcs : cs.Nodup) (c : String) (n : Nat) :
    total (cs.map fun c' => if c = c' then n else 0) = if c ∈ cs then n else 0 := by
  induction cs with
  | nil => rfl
  | cons first rest ih =>
    obtain ⟨hfirst, hrest⟩ := List.nodup_cons.1 hcs
    rw [List.map_cons, total, ih hrest]
    by_cases h : c = first
    · subst h
      rw [if_pos rfl, if_neg hfirst, if_pos List.mem_cons_self, Nat.add_zero]
    · simp only [h, if_false, Nat.zero_add, List.mem_cons, false_or]

/-- The records of a category. -/
def recordsIn (c : String) (records : List CoverageRecord) : List CoverageRecord :=
  records.filter fun r => r.category = c

theorem recordsIn_cons (c : String) (r : CoverageRecord) (rest : List CoverageRecord) :
    recordsIn c (r :: rest) =
      if r.category = c then r :: recordsIn c rest else recordsIn c rest := by
  by_cases h : r.category = c
  · rw [if_pos h]
    exact List.filter_cons_of_pos (by simpa using h)
  · rw [if_neg h]
    exact List.filter_cons_of_neg (by simpa using h)

/-- A category without records does not occur. -/
theorem recordsIn_eq_nil_iff {c : String} {records : List CoverageRecord} :
    recordsIn c records = [] ↔ c ∉ records.map CoverageRecord.category := by
  simp [recordsIn, List.filter_eq_nil_iff]

/-- Every record is counted for one category. -/
theorem total_over_categories {cs : List String} (hcs : cs.Nodup) (share : CoverageRecord → Nat)
    {records : List CoverageRecord} (hall : ∀ r ∈ records, r.category ∈ cs) :
    total (cs.map fun c => total ((recordsIn c records).map share)) =
      total (records.map share) := by
  induction records with
  | nil =>
    have hzero := total_map_single hcs "" 0
    simp only [ite_self] at hzero
    exact hzero
  | cons r rest ih =>
    obtain ⟨hr, hrest⟩ := List.forall_mem_cons.1 hall
    have hstep : ∀ c, total ((recordsIn c (r :: rest)).map share) =
        (if r.category = c then share r else 0) + total ((recordsIn c rest).map share) := by
      intro c
      rw [recordsIn_cons]
      by_cases h : r.category = c
      · rw [if_pos h, if_pos h]
        rfl
      · rw [if_neg h, if_neg h, Nat.zero_add]
    simp only [hstep, total_map_add]
    rw [ih hrest, total_map_single hcs, if_pos hr]
    rfl

/-! ### Counting in one pass -/

/-- The summary with one more record. -/
def CategorySummary.add (s : CategorySummary) (r : CoverageRecord) : CategorySummary :=
  { category := s.category
    classes := s.classes + 1
    implemented := s.implemented + r.implementedCount
    tracked := s.tracked + r.trackedCount }

/-- The summaries by category with one more record; that of a new category starts at zero. -/
def tallyRecord (known : OrderedMap String CategorySummary) (r : CoverageRecord) :
    OrderedMap String CategorySummary :=
  known.insert r.category (((known.get? r.category).getD ⟨r.category, 0, 0, 0⟩).add r)

/-- The summaries by category, counted in one pass over the records. -/
def tally (records : List CoverageRecord) : OrderedMap String CategorySummary :=
  records.foldl tallyRecord OrderedMap.empty

/-- Records are added to a summary one by one. -/
theorem foldl_add_ofRecords (c : String) (counted records : List CoverageRecord) :
    records.foldl CategorySummary.add (.ofRecords c counted) =
      .ofRecords c (counted ++ records) := by
  induction records generalizing counted with
  | nil => rw [List.append_nil, List.foldl_nil]
  | cons r rest ih =>
    have hadd : (CategorySummary.ofRecords c counted).add r = .ofRecords c (counted ++ [r]) := by
      simp [CategorySummary.add, CategorySummary.ofRecords, total_append, total]
    rw [List.foldl_cons, hadd, ih, List.append_assoc, List.singleton_append]

/-- A tally has, for each category, the records that are in it added up one after another. -/
theorem get?_foldl_tallyRecord (known : OrderedMap String CategorySummary)
    (records : List CoverageRecord) (c : String) :
    (records.foldl tallyRecord known).get? c =
      if recordsIn c records = [] then known.get? c
      else some ((recordsIn c records).foldl CategorySummary.add
        ((known.get? c).getD ⟨c, 0, 0, 0⟩)) := by
  induction records generalizing known with
  | nil => rfl
  | cons r rest ih =>
    rw [List.foldl_cons, ih, recordsIn_cons]
    by_cases h : r.category = c
    · subst h
      simp only [tallyRecord, OrderedMap.get?_insert, if_true, Option.getD_some, List.foldl_cons,
        reduceCtorEq, if_false]
      by_cases hrest : recordsIn r.category rest = []
      · rw [if_pos hrest, hrest, List.foldl_nil]
      · rw [if_neg hrest]
    · simp only [tallyRecord, OrderedMap.get?_insert, h, if_false]

/-- In one pass, a category that occurs has the sums over its records. -/
theorem get?_tally (records : List CoverageRecord) (c : String) :
    (tally records).get? c =
      if c ∈ records.map CoverageRecord.category then some (.ofRecords c (recordsIn c records))
      else none := by
  have hstart : (⟨c, 0, 0, 0⟩ : CategorySummary) = .ofRecords c [] := rfl
  rw [tally, get?_foldl_tallyRecord, OrderedMap.get?_empty, Option.getD_none, hstart,
    foldl_add_ofRecords, List.nil_append]
  by_cases h : c ∈ records.map CoverageRecord.category
  · rw [if_pos h, if_neg (mt recordsIn_eq_nil_iff.1 (not_not_intro h))]
  · rw [if_neg h, if_pos (recordsIn_eq_nil_iff.2 h)]

/-- Summaries may be counted in one pass, and put in order afterwards. -/
theorem summarize_eq_tally (records : List CoverageRecord) :
    summarize records =
      (Category.inReportOrder (tally records).keys).filterMap (tally records).get? := by
  have hkeys : ∀ c, c ∈ (tally records).keys ↔ c ∈ records.map CoverageRecord.category := by
    intro c
    rw [← OrderedMap.contains_iff, OrderedMap.contains, get?_tally]
    split
    · next h => exact iff_of_true rfl h
    · next h => exact iff_of_false Bool.false_ne_true h
  rw [Category.inReportOrder_congr hkeys, summarize, ← List.filterMap_eq_map]
  refine List.filterMap_congr fun c hc => ?_
  rw [get?_tally, if_pos ((Category.mem_inReportOrder _ c).1 hc)]
  rfl

/-! ### What summaries count -/

/-- The count of a summary adds up what every record contributes to it. -/
def Counts (count : CategorySummary → Nat) (share : CoverageRecord → Nat) : Prop :=
  ∀ c records, count (.ofRecords c records) = total (records.map share)

theorem counts_classes :
    Counts CategorySummary.classes fun _ => 1 := by
  intro c records
  induction records with
  | nil => rfl
  | cons r rest ih =>
    rw [List.map_cons, total, ← ih, Nat.add_comm]
    rfl

theorem counts_implemented :
    Counts CategorySummary.implemented CoverageRecord.implementedCount :=
  fun _ _ => rfl

theorem counts_tracked :
    Counts CategorySummary.tracked CoverageRecord.trackedCount :=
  fun _ _ => rfl

/-- There is one summary for each category, in the order of the report. -/
theorem map_category_summarize (records : List CoverageRecord) :
    (summarize records).map CategorySummary.category =
      Category.inReportOrder (records.map CoverageRecord.category) := by
  rw [summarize, List.map_map]
  exact List.map_id _

/-- The summary of a category is that of the records in it. -/
theorem mem_summarize_iff {records : List CoverageRecord} {s : CategorySummary} :
    s ∈ summarize records ↔
      ∃ c ∈ records.map CoverageRecord.category, .ofRecords c (recordsIn c records) = s := by
  rw [summarize, List.mem_map]
  simp only [Category.mem_inReportOrder, recordsIn]

/-- What the summaries of a category count, and nothing if it has none. -/
def countIn (count : CategorySummary → Nat) (c : String) (summaries : List CategorySummary) : Nat :=
  total (summaries.map fun s => if s.category = c then count s else 0)

/-- What is counted for a category is what its records contribute. -/
theorem countIn_summarize {count : CategorySummary → Nat} {share : CoverageRecord → Nat}
    (h : Counts count share) (c : String) (records : List CoverageRecord) :
    countIn count c (summarize records) = total ((recordsIn c records).map share) := by
  have hcategory : ∀ c' ∈ Category.inReportOrder (records.map CoverageRecord.category),
      (if c' = c then count (.ofRecords c' (recordsIn c' records)) else 0) =
        if c = c' then total ((recordsIn c records).map share) else 0 := by
    intro c' _
    by_cases heq : c' = c
    · rw [if_pos heq, if_pos heq.symm, h, heq]
    · rw [if_neg heq, if_neg (Ne.symm heq)]
  rw [countIn, summarize, List.map_map]
  refine (congrArg total (List.map_congr_left hcategory)).trans ?_
  rw [total_map_single (Category.nodup_inReportOrder _)]
  split
  · rfl
  · next hnot =>
    rw [recordsIn_eq_nil_iff.2 (mt (Category.mem_inReportOrder _ c).2 hnot)]
    rfl

/-- The counts of all summaries together are those of all records. -/
theorem total_summarize {count : CategorySummary → Nat} {share : CoverageRecord → Nat}
    (h : Counts count share) (records : List CoverageRecord) :
    total ((summarize records).map count) = total (records.map share) := by
  rw [summarize, List.map_map]
  have hcount : ∀ cs : List String,
      cs.map (count ∘ fun c => CategorySummary.ofRecords c
        (records.filter fun r => r.category = c)) =
      cs.map fun c => total ((recordsIn c records).map share) :=
    fun cs => List.map_congr_left fun c _ => h c _
  rw [hcount]
  refine total_over_categories (Category.nodup_inReportOrder _) share fun r hr => ?_
  exact (Category.mem_inReportOrder _ _).2 (List.mem_map_of_mem hr)

/-- Summaries do not depend on the order of the records. -/
theorem summarize_eq_of_perm {records records' : List CoverageRecord}
    (h : records.Perm records') :
    summarize records = summarize records' := by
  have hcategories := Category.inReportOrder_congr fun c =>
    (h.map CoverageRecord.category).mem_iff (a := c)
  rw [summarize, summarize, hcategories]
  refine List.map_congr_left fun c _ => ?_
  have hperm := h.filter fun r => decide (r.category = c)
  simp only [CategorySummary.ofRecords, hperm.length_eq,
    total_eq_of_perm (hperm.map CoverageRecord.implementedCount),
    total_eq_of_perm (hperm.map CoverageRecord.trackedCount)]

/-- Counts add up when records are appended. -/
theorem countIn_summarize_append {count : CategorySummary → Nat} {share : CoverageRecord → Nat}
    (h : Counts count share) (c : String) (records later : List CoverageRecord) :
    countIn count c (summarize (records ++ later)) =
      countIn count c (summarize records) + countIn count c (summarize later) := by
  rw [countIn_summarize h, countIn_summarize h, countIn_summarize h, recordsIn,
    List.filter_append, List.map_append, total_append]
  rfl

/-! ### Counts of an analysis -/

/-- A class that is scored has a tracked method. -/
theorem Analyzer.trackedCount_pos {a : Analyzer} {reference : List ClassRecord}
    {target : TargetIndex} {r : CoverageRecord} (h : r ∈ a.analyze reference target) :
    0 < r.trackedCount := by
  obtain ⟨c, -, htrack⟩ := (mem_analyze_iff a reference target r).1 h
  obtain ⟨table, hscope, rfl⟩ := Option.map_eq_some_iff.1 htrack
  obtain ⟨-, -, m, hm, htracks⟩ := scope_eq_some_iff.1 hscope
  rw [CoverageRecord.trackedCount, List.length_map]
  exact List.length_pos_of_mem (mem_trackedMethods.2 ⟨hm, htracks⟩)

/-- A summary of records that all have tracked methods has some as well, and no more of them are
implemented than are tracked. -/
theorem counts_of_mem_summarize {records : List CoverageRecord} {s : CategorySummary}
    (hs : s ∈ summarize records) (hpos : ∀ r ∈ records, 0 < r.trackedCount) :
    s.implemented ≤ s.tracked ∧ 0 < s.tracked := by
  obtain ⟨c, hc, rfl⟩ := mem_summarize_iff.1 hs
  obtain ⟨r, hr, rfl⟩ := List.mem_map.1 hc
  refine ⟨total_map_le fun r _ => r.implementedCount_le, ?_⟩
  have hmem : r ∈ recordsIn r.category records := List.mem_filter.2 ⟨hr, decide_eq_true rfl⟩
  exact Nat.lt_of_lt_of_le (hpos r hr) (le_total_of_mem (List.mem_map_of_mem hmem))

/-- Summaries of records: one for each category that occurs, the known categories in the order of
reports and then the others in rising order, each with the sums over the records of its category. -/
structure Summarizes (records : List CoverageRecord) (summaries : List CategorySummary) : Prop where
  occur : ∀ c, c ∈ summaries.map CategorySummary.category ↔ ∃ r ∈ records, r.category = c
  once : (summaries.map CategorySummary.category).Nodup
  ordered : ∃ known others, summaries.map CategorySummary.category = known ++ others
    ∧ known.Sublist Category.reportOrder
    ∧ (∀ c ∈ others, c ∉ Category.reportOrder) ∧ others.Pairwise (· < ·)
  classes : ∀ s ∈ summaries, s.classes = (recordsIn s.category records).length
  implemented : ∀ s ∈ summaries,
    s.implemented = total ((recordsIn s.category records).map CoverageRecord.implementedCount)
  tracked : ∀ s ∈ summaries,
    s.tracked = total ((recordsIn s.category records).map CoverageRecord.trackedCount)
  allClasses : total (summaries.map CategorySummary.classes) = records.length
  allImplemented : total (summaries.map CategorySummary.implemented) =
    total (records.map CoverageRecord.implementedCount)
  allTracked : total (summaries.map CategorySummary.tracked) =
    total (records.map CoverageRecord.trackedCount)

/-- The summaries say what is to be said of the records. -/
theorem summarizes_summarize (records : List CoverageRecord) :
    Summarizes records (summarize records) := by
  have hsums : ∀ s ∈ summarize records,
      s = .ofRecords s.category (recordsIn s.category records) := by
    intro s hs
    obtain ⟨c, -, rfl⟩ := mem_summarize_iff.1 hs
    rfl
  have hlength : total (records.map fun _ => 1) = records.length := (counts_classes "" records).symm
  refine
    { occur := category_mem_summarize records
      once := ?_
      ordered := ?_
      classes := fun s hs => congrArg CategorySummary.classes (hsums s hs)
      implemented := fun s hs => congrArg CategorySummary.implemented (hsums s hs)
      tracked := fun s hs => congrArg CategorySummary.tracked (hsums s hs)
      allClasses := (total_summarize counts_classes records).trans hlength
      allImplemented := total_summarize counts_implemented records
      allTracked := total_summarize counts_tracked records }
  · rw [map_category_summarize]
    exact Category.nodup_inReportOrder _
  · rw [map_category_summarize]
    exact ⟨_, _, Category.inReportOrder_eq_append _, List.filter_sublist,
      fun _ hc => Category.not_mem_reportOrder_of_mem_othersAmong hc,
      Category.othersAmong_rising _⟩

/-- The summaries of any records add up: there is one for each category that occurs, in the order of
reports, with the sums over its records, and one pass over the records counts the same.  The order
of the records does not matter, and the counts of two lists of records are added category by
category.  In an analysis every record and every summary has tracked methods, of which no more than
all are implemented, so that no share is a share of nothing. -/
theorem summaries_add_up :
    (∀ records, Summarizes records (summarize records)
      ∧ summarize records =
        (Category.inReportOrder (tally records).keys).filterMap (tally records).get?)
    ∧ (∀ records records' : List CoverageRecord, records.Perm records' →
      summarize records = summarize records')
    ∧ (∀ (records later : List CoverageRecord) (c : String),
      ∀ count ∈ [CategorySummary.classes, CategorySummary.implemented, CategorySummary.tracked],
        countIn count c (summarize (records ++ later)) =
          countIn count c (summarize records) + countIn count c (summarize later))
    ∧ (∀ (a : Analyzer) (reference : List ClassRecord) (target : TargetIndex),
      (∀ r ∈ a.analyze reference target,
        r.implementedCount ≤ r.trackedCount ∧ 0 < r.trackedCount)
      ∧ ∀ s ∈ summarize (a.analyze reference target),
        s.implemented ≤ s.tracked ∧ 0 < s.tracked) := by
  refine ⟨fun records => ⟨summarizes_summarize records, summarize_eq_tally records⟩,
    fun _ _ => summarize_eq_of_perm, ?_, ?_⟩
  · intro records later c count hcount
    simp only [List.mem_cons, List.not_mem_nil, or_false] at hcount
    rcases hcount with rfl | rfl | rfl
    · exact countIn_summarize_append counts_classes c records later
    · exact countIn_summarize_append counts_implemented c records later
    · exact countIn_summarize_append counts_tracked c records later
  · intro a reference target
    have hpos : ∀ r ∈ a.analyze reference target, 0 < r.trackedCount :=
      fun r hr => Analyzer.trackedCount_pos hr
    exact ⟨fun r hr => ⟨r.implementedCount_le, hpos r hr⟩,
      fun s hs => counts_of_mem_summarize hs hpos⟩

/-- Records of a known and of two unknown categories, mixed. -/
def reefRecords : List CoverageRecord :=
  [⟨"Kelp", "plant", [⟨"grow", .implemented⟩, ⟨"tick", .notImplemented⟩]⟩,
    ⟨"Cod", "entity", [⟨"tick", .implemented⟩]⟩,
    ⟨"Fan", "coral", [⟨"fade", .notImplemented⟩]⟩,
    ⟨"Moss", "plant", [⟨"grow", .implemented⟩]⟩]

/-- The order of the records does not matter, what is counted before and behind a cut adds up, and
the class of a small analysis has a tracked method. -/
theorem summaries_of_reefRecords :
    reefRecords.Perm reefRecords.reverse
    ∧ summarize reefRecords = [⟨"entity", 1, 1, 1⟩, ⟨"coral", 1, 0, 1⟩, ⟨"plant", 2, 2, 3⟩]
    ∧ summarize reefRecords.reverse =
        [⟨"entity", 1, 1, 1⟩, ⟨"coral", 1, 0, 1⟩, ⟨"plant", 2, 2, 3⟩]
    ∧ CategorySummary.tracked ∈
        [CategorySummary.classes, CategorySummary.implemented, CategorySummary.tracked]
    ∧ countIn CategorySummary.tracked "plant" (summarize (reefRecords ++ reefRecords)) = 3 + 3
    ∧ (⟨"Ore", "block", [⟨"use", .notImplemented⟩, ⟨"tick", .implemented⟩]⟩ : CoverageRecord) ∈
        Analyzer.analyze ⟨oreTables, .empty⟩ oreReference (.ofRecords oreTarget)
    ∧ (⟨"block", 1, 1, 2⟩ : CategorySummary) ∈
        summarize (Analyzer.analyze ⟨oreTables, .empty⟩ oreReference (.ofRecords oreTarget))
    ∧ 1 ≤ 2 ∧ 0 < 2 := by
  obtain ⟨hsummarize, hperm, happend, hanalyze⟩ := summaries_add_up
  have hreverse : reefRecords.Perm reefRecords.reverse := (List.reverse_perm _).symm
  have hsorted : Text.sorted (reefRecords.map CoverageRecord.category) =
      ["coral", "entity", "plant", "plant"] :=
    (Text.sorted_eq_of_perm (by decide +kernel)).trans
      (List.mergeSort_of_pairwise (by decide +kernel))
  have hcategories : Category.inReportOrder (reefRecords.map CoverageRecord.category) =
      ["entity", "coral", "plant"] := by
    rw [Category.inReportOrder, hsorted]
    decide +kernel
  have hsummaries : summarize reefRecords =
      [⟨"entity", 1, 1, 1⟩, ⟨"coral", 1, 0, 1⟩, ⟨"plant", 2, 2, 3⟩] := by
    rw [summarize, hcategories]
    decide +kernel
  have hmember : CategorySummary.tracked ∈
      [CategorySummary.classes, CategorySummary.implemented, CategorySummary.tracked] := by
    simp
  have hrecord : (⟨"Ore", "block", [⟨"use", .notImplemented⟩, ⟨"tick", .implemented⟩]⟩ :
      CoverageRecord) ∈
        Analyzer.analyze ⟨oreTables, .empty⟩ oreReference (.ofRecords oreTarget) := by
    decide +kernel
  have hsummary : (⟨"block", 1, 1, 2⟩ : CategorySummary) ∈
      summarize (Analyzer.analyze ⟨oreTables, .empty⟩ oreReference (.ofRecords oreTarget)) := by
    decide +kernel
  refine ⟨hreverse, hsummaries, (hperm _ _ hreverse).symm.trans hsummaries, hmember, ?_, hrecord,
    hsummary, (hanalyze _ _ _).2 _ hsummary⟩
  rw [happend _ _ _ _ hmember, hsummaries]
  rfl

end SurfaceCoverage
