import SurfaceCoverage.Declaration
import SurfaceCoverage.Proofs.Resolving

/-!
# The registry join in closed form

An entry of the registry table and a registration are partners when they go by one identifier, up
to normalization.  The last partner of an entry decides which class is registered for it, and of
several entries for one class the last one with a registered class counts.  An entry without a
partner, on either side, leaves no trace.

**Results.**
* `targetFor_eq_registeredClass?`: the class for an entry is that of its last partner.
* `join_eq_ok`: the pairs that are joined, one for each entry with a registered class.
* `OrderedMap.keys_ofList`: the keys of a map that was written pair by pair.
* `joined_partnered`: entries without a partner may be left out, on both sides.
* `join_eq_last_wins`: the join as a whole.
-/

namespace SurfaceCoverage

namespace OrderedMap

theorem keys_insertAll {α : Type} (m : OrderedMap String α) (l : List (String × α)) :
    (m.insertAll l).keys = unite m.keys (l.map Prod.fst) := by
  induction l generalizing m with
  | nil => rfl
  | cons p rest ih =>
    have hstep : m.insertAll (p :: rest) = (m.insert p.1 p.2).insertAll rest := rfl
    rw [hstep, ih, keys_insert]
    rfl

/-- The keys of a map are the keys that were written, in the order of first occurrence. -/
theorem keys_ofList {α : Type} (l : List (String × α)) :
    (ofList l).keys = (l.map Prod.fst).eraseDups := by
  rw [ofList, keys_insertAll]
  exact unite_nil_left _

end OrderedMap

namespace Registry

/-- A registration goes by the identifier of an entry, up to normalization. -/
def arePartners (n : Normalization) (e : TableEntry) (r : Registration) : Bool :=
  r.id.map n.apply = some (n.apply e.id)

/-- The class that is registered for an entry: that of its last partner, if it has one. -/
def registeredClass? (n : Normalization) (rs : List Registration) (e : TableEntry) :
    Option String :=
  ((rs.filter (arePartners n e)).getLast?).bind Registration.className

/-- The entries for which a class is registered, in the order of the table. -/
def matchedEntries (n : Normalization) (rs : List Registration) (es : List TableEntry) :
    List TableEntry :=
  es.filter fun e => (registeredClass? n rs e).isSome

/-- The entries that have a partner. -/
def partneredEntries (n : Normalization) (rs : List Registration) (es : List TableEntry) :
    List TableEntry :=
  es.filter fun e => rs.any (arePartners n e)

/-- The registrations that have a partner. -/
def partneredRegistrations (n : Normalization) (rs : List Registration) (es : List TableEntry) :
    List Registration :=
  rs.filter fun r => es.any fun e => arePartners n e r

variable {n : Normalization} {rs : List Registration} {es : List TableEntry}

/-- Registrations that have their identifiers are all looked up. -/
theorem targetsById_of_forall_isSome (h : ∀ r ∈ rs, r.id.isSome = true) :
    targetsById n rs = .ok (rs.map fun r => (r.id.map n.apply, r.className)) := by
  refine targetsById_eq_ok_iff.2 (List.forall₂_map_right_iff.2 (List.forall₂_same.2 ?_))
  intro r hr
  obtain ⟨id, hid⟩ := Option.isSome_iff_exists.1 (h r hr)
  refine ⟨?_, rfl⟩
  rw [normalizedId, hid, Option.map_some]

/-- The class that is looked up for an entry is that of its last partner. -/
theorem targetFor_eq_registeredClass? (e : TableEntry) :
    targetFor n (OrderedMap.ofList (rs.map fun r => (r.id.map n.apply, r.className))) e.id =
      registeredClass? n rs e := by
  have hpairs : (rs.map fun r => (r.id.map n.apply, r.className)) =
      rs.filterMap fun r => (some r.className).map fun c => (r.id.map n.apply, c) := by
    rw [← List.filterMap_eq_map']
    rfl
  rw [targetFor, OrderedMap.get?_ofList, hpairs,
    OrderedMap.lastValue_filterMap (fun r : Registration => r.id.map n.apply)
      (fun r => some r.className)]
  have hfilter : (rs.filter fun r => (some r.className).isSome = true ∧
      r.id.map n.apply = some (n.apply e.id)) = rs.filter (arePartners n e) := by
    apply List.filter_congr
    intro r _
    simp [arePartners]
  rw [hfilter, registeredClass?]
  cases (rs.filter (arePartners n e)).getLast? <;> rfl

/-- Every entry with a registered class gives a pair. -/
theorem join_eq_ok (h : ∀ r ∈ rs, r.id.isSome = true) :
    join n es rs =
      .ok ⟨OrderedMap.ofList
        (es.filterMap fun e => (registeredClass? n rs e).map fun t => (e.className, t))⟩ := by
  rw [join, targetsById_of_forall_isSome h]
  simp only [joined, targetFor_eq_registeredClass?]

theorem map_fst_pairs :
    (es.filterMap fun e => (registeredClass? n rs e).map fun t => (e.className, t)).map Prod.fst =
      (matchedEntries n rs es).map TableEntry.className := by
  induction es with
  | nil => rfl
  | cons e rest ih =>
    cases he : registeredClass? n rs e with
    | none =>
      have hskip : matchedEntries n rs (e :: rest) = matchedEntries n rs rest :=
        List.filter_cons_of_neg (by simp [he])
      rw [List.filterMap_cons_none (by rw [he, Option.map_none]), ih, hskip]
    | some t =>
      have hkeep : matchedEntries n rs (e :: rest) = e :: matchedEntries n rs rest :=
        List.filter_cons_of_pos (by simp [he])
      rw [List.filterMap_cons_some (by rw [he, Option.map_some]), List.map_cons, ih, hkeep,
        List.map_cons]

theorem mem_matchedEntries {e : TableEntry} :
    e ∈ matchedEntries n rs es ↔ e ∈ es ∧ ∃ t, registeredClass? n rs e = some t := by
  rw [matchedEntries, List.mem_filter, Option.isSome_iff_exists]

/-! ### Entries without a partner -/

/-- Registrations that are no partners of any entry register nothing for an entry. -/
theorem registeredClass?_partneredRegistrations {e : TableEntry} (he : e ∈ es) :
    registeredClass? n (partneredRegistrations n rs es) e = registeredClass? n rs e := by
  have hfilter : (partneredRegistrations n rs es).filter (arePartners n e) =
      rs.filter (arePartners n e) := by
    rw [partneredRegistrations, List.filter_filter]
    apply List.filter_congr
    intro r _
    by_cases hr : arePartners n e r = true
    · have hany : (es.any fun e => arePartners n e r) = true := List.any_eq_true.2 ⟨e, he, hr⟩
      rw [hr, hany, Bool.and_self]
    · rw [Bool.eq_false_iff.2 hr, Bool.false_and]
  rw [registeredClass?, hfilter, registeredClass?]

/-- Nothing is registered for an entry without a partner. -/
theorem registeredClass?_of_no_partner {e : TableEntry}
    (h : rs.any (arePartners n e) = false) :
    registeredClass? n rs e = none := by
  have hnil : rs.filter (arePartners n e) = [] := by
    refine List.filter_eq_nil_iff.2 fun r hr hpartner => ?_
    rw [List.any_eq_true.2 ⟨r, hr, hpartner⟩] at h
    cases h
  rw [registeredClass?, hnil, List.getLast?_nil, Option.bind_none]

/-- What is registered for the entries stays when entries without a partner are left out on both
sides. -/
theorem joined_partnered :
    ((partneredEntries n rs es).filterMap fun e =>
      (registeredClass? n (partneredRegistrations n rs es) e).map fun t => (e.className, t)) =
      es.filterMap fun e => (registeredClass? n rs e).map fun t => (e.className, t) := by
  rw [partneredEntries, List.filterMap_filter]
  apply List.filterMap_congr
  intro e he
  rw [registeredClass?_partneredRegistrations he]
  split
  · rfl
  · next hnone =>
    rw [registeredClass?_of_no_partner (Bool.eq_false_iff.2 hnone), Option.map_none]

/-- The join of a table with registrations that have their identifiers is the join on the
normalized identifier in which the last one wins on either side.  A class is mapped when the last
partner of one of its entries has a class; it is mapped to the class that is registered for the last
such entry; and the classes stand in the order of their first such entries.  So entries without a
partner may be left out, on both sides at once. -/
theorem join_eq_last_wins (h : ∀ r ∈ rs, r.id.isSome = true) :
    ∃ m : ClassMapping, join n es rs = .ok m
      ∧ (∀ c : String, m.entries.contains c = true ↔
          ∃ e ∈ es, e.className = c ∧ ∃ t, registeredClass? n rs e = some t)
      ∧ (∀ c : String, m.entries.get? c =
          (((matchedEntries n rs es).filter fun e => e.className = c).getLast?).bind
            (registeredClass? n rs))
      ∧ m.entries.keys = ((matchedEntries n rs es).map TableEntry.className).eraseDups
      ∧ join n (partneredEntries n rs es) (partneredRegistrations n rs es) = .ok m := by
  have hkeys := OrderedMap.keys_ofList
    (es.filterMap fun e => (registeredClass? n rs e).map fun t => (e.className, t))
  rw [map_fst_pairs] at hkeys
  refine ⟨_, join_eq_ok h, ?_, ?_, hkeys, ?_⟩
  · intro c
    rw [OrderedMap.contains_iff, hkeys, List.mem_eraseDups, List.mem_map]
    simp only [mem_matchedEntries]
    constructor
    · rintro ⟨e, ⟨he, ht⟩, hc⟩
      exact ⟨e, he, hc, ht⟩
    · rintro ⟨e, he, hc, ht⟩
      exact ⟨e, ⟨he, ht⟩, hc⟩
  · intro c
    rw [OrderedMap.get?_ofList, OrderedMap.lastValue_filterMap, matchedEntries,
      List.filter_filter]
    congr 2
    apply List.filter_congr
    intro e _
    rw [Bool.decide_and, Bool.decide_eq_true, Bool.and_comm]
  · have hpartnered : ∀ r ∈ partneredRegistrations n rs es, r.id.isSome = true :=
      fun r hr => h r (List.mem_filter.1 hr).1
    rw [join_eq_ok hpartnered, joined_partnered]

/-- Entries of a table in which one class has three entries, the last of them without a partner. -/
def lampEntries : List TableEntry :=
  [⟨"lamp", "a.Lamp"⟩, ⟨"Torch", "a.Torch"⟩, ⟨"LANTERN", "a.Lamp"⟩, ⟨"candle", "a.Lamp"⟩]

/-- Registrations in which one identifier is registered twice, the last time without a class. -/
def lampRegistrations : List Registration :=
  [⟨some "LAMP", some "OldLamp"⟩, ⟨some "torch", some "Torch"⟩, ⟨some "Lamp", some "Lamp"⟩,
    ⟨some "lantern", some "Lantern"⟩, ⟨some "TORCH", none⟩, ⟨some "bell", some "Bell"⟩]

/-- Of two matched entries the last one counts, and a registration without a class unmaps. -/
theorem join_of_lampEntries :
    (∀ r ∈ lampRegistrations, r.id.isSome = true)
    ∧ ∃ m : ClassMapping, join .lower lampEntries lampRegistrations = .ok m
      ∧ m.entries.get? "a.Lamp" = some "Lantern"
      ∧ m.entries.keys = ["a.Lamp"]
      ∧ join .lower
          (partneredEntries .lower lampRegistrations lampEntries)
          (partneredRegistrations .lower lampRegistrations lampEntries) = .ok m := by
  have h : ∀ r ∈ lampRegistrations, r.id.isSome = true := by decide
  obtain ⟨m, hjoin, _, hget, hkeys, hpartnered⟩ :=
    @join_eq_last_wins .lower lampRegistrations lampEntries h
  refine ⟨h, m, hjoin, ?_, ?_, hpartnered⟩
  · rw [hget]
    decide +kernel
  · rw [hkeys]
    decide +kernel

end Registry

end SurfaceCoverage
