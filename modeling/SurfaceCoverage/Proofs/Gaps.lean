import SurfaceCoverage.Proofs.Scoring

/-!
# Known gaps

The known gaps of the tables are listed without looking at any target.  They are exactly what no
target can have: a tracked method is a known gap when it is reported as not implemented whatever the
target is.  Where the category has a class mapping, a method may also be out of reach because its
class is not mapped; a known gap is out of reach there all the same.

**Results.**
* `MethodTables.knownGaps_rising`: the list of gaps rises by table and method.
* `MethodTables.mem_knownGaps_iff`: it has the methods that their table marks as gaps.
* `Analyzer.reports_iff`: what is reported of a tracked method is its status.
* `Analyzer.forall_reports_notImplemented_iff`: a method is never implemented when it is a gap.
-/

namespace SurfaceCoverage

theorem Text.sorted_rising {l : List String} (hl : l.Nodup) :
    (Text.sorted l).Pairwise (· < ·) := by
  have hnodup : (Text.sorted l).Nodup := (Text.sorted_perm l).nodup_iff.2 hl
  refine (List.Pairwise.and (Text.sorted_pairwise l) hnodup).imp ?_
  rintro a b ⟨hle, hne⟩
  exact String.not_le.1 fun hge => hne (String.le_antisymm (of_decide_eq_true hle) hge)

/-! ### The list of gaps -/

namespace MethodTable

theorem mem_knownGaps_iff {t : MethodTable} {method : String} :
    method ∈ t.knownGaps ↔ t.counterpartFor method = some .knownGap := by
  rw [knownGaps, Text.mem_sorted, List.mem_map, counterpartFor, ← OrderedMap.mem_toList_iff]
  constructor
  · rintro ⟨⟨_, c⟩, he, rfl⟩
    obtain ⟨hmem, hgap⟩ := List.mem_filter.1 he
    cases of_decide_eq_true hgap
    exact hmem
  · intro hmem
    exact ⟨(method, .knownGap), List.mem_filter.2 ⟨hmem, by simp⟩, rfl⟩

theorem knownGaps_rising (t : MethodTable) :
    t.knownGaps.Pairwise (· < ·) := by
  apply Text.sorted_rising
  exact (List.filter_sublist.map Prod.fst).nodup t.entries.keys_nodup

end MethodTable

namespace MethodTables

/-- A gap comes before another one: by table, then by method. -/
def GapBefore (p q : String × String) : Prop :=
  p.1 < q.1 ∨ (p.1 = q.1 ∧ p.2 < q.2)

/-- The methods that their table marks as gaps. -/
theorem mem_knownGaps_iff {t : MethodTables} {name method : String} :
    (name, method) ∈ t.knownGaps ↔
      ∃ table, t.tables.get? name = some table
        ∧ table.counterpartFor method = some .knownGap := by
  simp only [knownGaps, List.mem_flatMap, Text.mem_sorted]
  constructor
  · rintro ⟨n, _, hmem⟩
    cases htable : t.tables.get? n with
    | none => simp [htable] at hmem
    | some table =>
      simp only [htable, List.mem_map, Prod.mk.injEq] at hmem
      obtain ⟨_, hgap, rfl, rfl⟩ := hmem
      exact ⟨table, htable, MethodTable.mem_knownGaps_iff.1 hgap⟩
  · rintro ⟨table, htable, hgap⟩
    have hkey : name ∈ t.tables.keys := by
      rw [← OrderedMap.contains_iff, OrderedMap.contains, htable]
      rfl
    refine ⟨name, hkey, ?_⟩
    rw [htable]
    exact List.mem_map_of_mem (MethodTable.mem_knownGaps_iff.2 hgap)

theorem knownGaps_rising (t : MethodTables) :
    t.knownGaps.Pairwise GapBefore := by
  rw [knownGaps, List.pairwise_flatMap]
  constructor
  · intro name _
    cases t.tables.get? name with
    | none => exact List.Pairwise.nil
    | some table =>
      rw [List.pairwise_map]
      exact table.knownGaps_rising.imp fun hlt => Or.inr ⟨rfl, hlt⟩
  · -- the pairs of a table all have its name, so the order of the names decides
    refine (Text.sorted_rising t.tables.keys_nodup).imp ?_
    intro n n' hlt p hp q hq
    cases htable : t.tables.get? n with
    | none => simp [htable] at hp
    | some table =>
      cases htable' : t.tables.get? n' with
      | none => simp [htable'] at hq
      | some table' =>
        rw [htable] at hp
        rw [htable'] at hq
        obtain ⟨_, _, rfl⟩ := List.mem_map.1 hp
        obtain ⟨_, _, rfl⟩ := List.mem_map.1 hq
        exact Or.inl hlt

end MethodTables

/-! ### What is reported of a method -/

/-- The class is concrete, belongs to the category, and declares the method. -/
structure ClassRecord.Declares (r : ClassRecord) (category method : String) : Prop where
  concrete : r.isConcrete = true
  category : r.category = category
  method : method ∈ r.methods

namespace Analyzer

/-- The class has a record, and the status is what the record says of the method. -/
def Reports (a : Analyzer) (target : List ClassRecord) (r : ClassRecord) (method : String)
    (s : Status) : Prop :=
  ∃ c, a.track (.ofRecords target) r = some c
    ∧ ∀ s' : Status, ⟨method, s'⟩ ∈ c.methods ↔ s' = s

variable {a : Analyzer} {r : ClassRecord} {category method : String} {table : MethodTable}

/-- What is reported of a tracked method is its status. -/
theorem reports_iff (hr : r.Declares category method) (hgoverns : a.tables.Governs category table)
    (htracks : table.tracks method = true) (target : List ClassRecord) (s : Status) :
    a.Reports target r method s ↔
      statusIn table ((TargetIndex.ofRecords target).methodsFor (a.counterpart r)) method = s := by
  have hscope : a.scope r = some table := by
    rw [scope_eq_some_iff, hr.category]
    exact ⟨hr.concrete, hgoverns, method, hr.method, htracks⟩
  have hlisted : ∀ s' : Status,
      ⟨method, s'⟩ ∈ (trackedMethods table r).map (fun m => (⟨m, statusIn table
          ((TargetIndex.ofRecords target).methodsFor (a.counterpart r)) m⟩ : MethodStatus)) ↔
        s' = statusIn table ((TargetIndex.ofRecords target).methodsFor (a.counterpart r))
          method := by
    intro s'
    simp only [List.mem_map, MethodStatus.mk.injEq, mem_trackedMethods]
    constructor
    · rintro ⟨_, _, rfl, rfl⟩
      rfl
    · rintro rfl
      exact ⟨method, ⟨hr.method, htracks⟩, rfl, rfl⟩
  simp only [Reports, track, hscope, Option.map_some, Option.some.injEq, exists_eq_left', hlisted]
  constructor
  · intro h
    exact (h _).1 rfl
  · rintro rfl s'
    exact Iff.rfl

theorem statusIn_eq_notImplemented_iff {available : List String} :
    statusIn table available method = .notImplemented ↔
      ∀ n, table.counterpartFor method = some (.mapped n) → n ∉ available := by
  have himplemented := @statusIn_eq_implemented_iff table available method
  cases hstatus : statusIn table available method with
  | implemented =>
    obtain ⟨n, hn, hmem⟩ := himplemented.1 hstatus
    exact iff_of_false (by simp) fun h => h n hn hmem
  | notImplemented =>
    refine iff_of_true rfl fun n hn hmem => ?_
    rw [himplemented.2 ⟨n, hn, hmem⟩] at hstatus
    cases hstatus

/-- A known gap is reported as not implemented, whatever the mapping and the target are. -/
theorem reports_notImplemented_of_gap (hr : r.Declares category method)
    (hgoverns : a.tables.Governs category table)
    (hgap : table.counterpartFor method = some .knownGap) (target : List ClassRecord) :
    a.Reports target r method .notImplemented := by
  have htracks : table.tracks method = true := by
    rw [MethodTable.tracks_eq_isSome, hgap]
    rfl
  rw [reports_iff hr hgoverns htracks, statusIn_eq_notImplemented_iff, hgap]
  rintro n ⟨⟩

/-- Where no mapping stands between, a method that is no gap is implemented by a class of the same
name with the counterpart method. -/
theorem reports_implemented_of_mapped (hr : r.Declares category method)
    (hgoverns : a.tables.Governs category table) (hmapping : a.mappings.get? category = none)
    (hname : r.name ≠ "") {n : String} (hn : table.counterpartFor method = some (.mapped n)) :
    a.Reports [⟨r.name, "", [n], true⟩] r method .implemented := by
  have htracks : table.tracks method = true := by
    rw [MethodTable.tracks_eq_isSome, hn]
    rfl
  have hcounterpart : a.IsCounterpart r r.name := Or.inr ⟨hr.category ▸ hmapping, rfl⟩
  rw [reports_iff hr hgoverns htracks, statusIn_eq_implemented_iff]
  refine ⟨n, hn, mem_available_iff.2 ?_⟩
  exact ⟨r.name, hcounterpart, hname, _, List.mem_cons_self, rfl, List.mem_cons_self⟩

/-- Where no mapping stands between, a tracked method is never implemented when it is a gap. -/
theorem forall_reports_notImplemented_iff (hr : r.Declares category method)
    (hgoverns : a.tables.Governs category table) (hmapping : a.mappings.get? category = none)
    (hname : r.name ≠ "") (htracks : table.tracks method = true) :
    (∀ target, a.Reports target r method .notImplemented) ↔
      table.counterpartFor method = some .knownGap := by
  constructor
  · intro h
    rw [MethodTable.tracks_eq_isSome, Option.isSome_iff_exists] at htracks
    obtain ⟨c, hc⟩ := htracks
    cases c with
    | knownGap => exact hc
    | mapped n =>
      obtain ⟨c, htrack, himplemented⟩ :=
        reports_implemented_of_mapped hr hgoverns hmapping hname hc
      obtain ⟨c', htrack', hnot⟩ := h [⟨r.name, "", [n], true⟩]
      cases htrack.symm.trans htrack'
      cases (hnot .implemented).1 ((himplemented .implemented).2 rfl)
  · exact fun hgap target => reports_notImplemented_of_gap hr hgoverns hgap target

end Analyzer

/-- The list of gaps and the reports agree.  The list rises by table and method, and has exactly the
methods that their table marks as gaps.  In a category without a class mapping, a tracked method is
on the list exactly when no target ever makes the record of a class say that it is implemented.  In
any category, and whatever its mapping is, a method on the list is never implemented. -/
theorem gap_iff_never_implemented (t : MethodTables) :
    t.knownGaps.Pairwise MethodTables.GapBefore
    ∧ (∀ name method : String, (name, method) ∈ t.knownGaps ↔
        ∃ table, t.tables.get? name = some table
          ∧ table.counterpartFor method = some .knownGap)
    ∧ (∀ (mappings : OrderedMap String ClassMapping) (category name method : String)
        (table : MethodTable) (r : ClassRecord),
        MethodTables.LeadsTo t.routes t.defaultTable category name →
        t.tables.get? name = some table → table.tracks method = true →
        mappings.get? category = none → r.name ≠ "" → r.Declares category method →
        ((name, method) ∈ t.knownGaps ↔
          ∀ target, Analyzer.Reports ⟨t, mappings⟩ target r method .notImplemented))
    ∧ ∀ (mappings : OrderedMap String ClassMapping) (category name method : String)
        (r : ClassRecord),
        MethodTables.LeadsTo t.routes t.defaultTable category name →
        (name, method) ∈ t.knownGaps → r.Declares category method →
        ∀ target, Analyzer.Reports ⟨t, mappings⟩ target r method .notImplemented := by
  refine ⟨t.knownGaps_rising, fun _ _ => MethodTables.mem_knownGaps_iff, ?_, ?_⟩
  · intro mappings category name method table r hleads htable htracks hmapping hname hr
    have hgoverns : t.Governs category table := ⟨name, hleads, htable⟩
    rw [Analyzer.forall_reports_notImplemented_iff (a := ⟨t, mappings⟩) hr hgoverns hmapping hname
      htracks, MethodTables.mem_knownGaps_iff, htable]
    simp
  · intro mappings category name method r hleads hgap hr
    obtain ⟨table, htable, hentry⟩ := MethodTables.mem_knownGaps_iff.1 hgap
    exact Analyzer.reports_notImplemented_of_gap hr ⟨name, hleads, htable⟩ hentry

/-- One table for all categories, by a route and by default. -/
def pitTables : MethodTables :=
  { tables :=
      .ofList
        [("pit", ⟨"pit", .ofList [("use", .knownGap), ("tick", .mapped "run")]⟩)]
    routes := .ofList [("block", "pit")]
    defaultTable := some "pit"
    complete := by decide }

/-- A class of a category that the default governs. -/
def pitCow : ClassRecord :=
  ⟨"Cow", "entity", ["tick", "use"], true⟩

/-- The gap is never implemented, also where nothing is mapped; the mapped method sometimes is. -/
theorem gaps_of_pitTables :
    ("pit", "use") ∈ pitTables.knownGaps
    ∧ ("pit", "tick") ∉ pitTables.knownGaps
    ∧ (∀ target, Analyzer.Reports ⟨pitTables, .empty⟩ target pitCow "use" .notImplemented)
    ∧ (∀ target, Analyzer.Reports ⟨pitTables, .ofList [("entity", ⟨.empty⟩)]⟩ target pitCow "use"
        .notImplemented)
    ∧ ¬ ∀ target, Analyzer.Reports ⟨pitTables, .empty⟩ target pitCow "tick" .notImplemented := by
  obtain ⟨_, hlisted, hiff, hnever⟩ := gap_iff_never_implemented pitTables
  have hleads : MethodTables.LeadsTo pitTables.routes pitTables.defaultTable "entity" "pit" :=
    Or.inr ⟨by decide, rfl⟩
  have huse : pitCow.Declares "entity" "use" := ⟨rfl, rfl, by decide⟩
  have htick : pitCow.Declares "entity" "tick" := ⟨rfl, rfl, by decide⟩
  have hgap : ("pit", "use") ∈ pitTables.knownGaps := (hlisted _ _).2 ⟨_, rfl, by decide⟩
  have hnone : ("pit", "tick") ∉ pitTables.knownGaps := by
    rw [hlisted]
    rintro ⟨table, htable, hentry⟩
    cases htable
    revert hentry
    decide
  refine ⟨hgap, hnone, ?_, ?_, ?_⟩
  · exact (hiff .empty "entity" "pit" "use" _ pitCow hleads rfl (by decide) rfl (by decide) huse).1
      hgap
  · exact hnever _ "entity" "pit" "use" pitCow hleads hgap huse
  · rwa [← hiff .empty "entity" "pit" "tick" _ pitCow hleads rfl (by decide) rfl (by decide) htick]

end SurfaceCoverage
