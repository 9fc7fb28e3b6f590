/-!
# Ordered maps: finite maps that remember when each key first came in

A map is a list of pairs with pairwise different keys.  Writing a key that is already there keeps
its place and replaces its value; a new key goes to the end.  So `toList` is the order in which the
keys were first written, and the value is the one written last.

**Results.**
* `get?_insert`: a written key answers with its new value, every other key as before.
* `get?_ofList`: a map built from a list answers with the last value that the list gives.
* `mem_toList_iff`: the listed pairs are exactly the answers of the map.
* `keys_insert`: a written key keeps its place, and a new one goes to the end.
* `eq_of_keys_eq`: the keys in their places and the answers make up the whole map.
-/

namespace SurfaceCoverage

universe u v w

/-- A finite map whose pairs are listed in the order in which their keys were first written. -/
structure OrderedMap (κ : Type u) (α : Type v) where
  toList : List (κ × α)
  keys_nodup : (toList.map Prod.fst).Nodup

namespace OrderedMap

variable {κ : Type u} {α : Type v} [DecidableEq κ]

/-- The map without keys. -/
def empty : OrderedMap κ α :=
  ⟨[], by simp⟩

/-- The keys, in the order in which they were first written. -/
def keys (m : OrderedMap κ α) : List κ :=
  m.toList.map Prod.fst

/-- The values, in the order of their keys. -/
def values (m : OrderedMap κ α) : List α :=
  m.toList.map Prod.snd

/-- How many keys the map has. -/
def size (m : OrderedMap κ α) : Nat :=
  m.toList.length

/-- Whether the map has no key. -/
def isEmpty (m : OrderedMap κ α) : Bool :=
  m.toList.isEmpty

/-- The value that the first pair with key `k` carries. -/
def lookup (k : κ) : List (κ × α) → Option α
  | [] => none
  | p :: rest => if p.1 = k then some p.2 else lookup k rest

/-- The value of a key. -/
def get? (m : OrderedMap κ α) (k : κ) : Option α :=
  lookup k m.toList

/-- Whether the map has the key. -/
def contains (m : OrderedMap κ α) (k : κ) : Bool :=
  (m.get? k).isSome

/-- Writes a pair into a list of pairs: in place when its key is listed, at the end otherwise. -/
def put (k : κ) (v : α) : List (κ × α) → List (κ × α)
  | [] => [(k, v)]
  | p :: rest => if p.1 = k then (k, v) :: rest else p :: put k v rest

/-- Putting an entry adds its key. -/
theorem mem_keys_put {k x : κ} {v : α} {l : List (κ × α)} :
    x ∈ (put k v l).map Prod.fst ↔ x = k ∨ x ∈ l.map Prod.fst := by
  induction l with
  | nil => simp [put]
  | cons p rest ih =>
    by_cases h : p.1 = k
    · simp [put, h]
    · simp only [put, h, if_false, List.map_cons, List.mem_cons, ih]
      constructor
      · rintro (h₁ | h₂ | h₃)
        · exact Or.inr (Or.inl h₁)
        · exact Or.inl h₂
        · exact Or.inr (Or.inr h₃)
      · rintro (h₁ | h₂ | h₃)
        · exact Or.inr (Or.inl h₁)
        · exact Or.inl h₂
        · exact Or.inr (Or.inr h₃)

/-- Putting an entry keeps the keys distinct. -/
theorem nodup_keys_put {k : κ} {v : α} {l : List (κ × α)}
    (hl : (l.map Prod.fst).Nodup) :
    ((put k v l).map Prod.fst).Nodup := by
  induction l with
  | nil => simp [put]
  | cons p rest ih =>
    have hp : p.1 ∉ rest.map Prod.fst := (List.nodup_cons.1 hl).1
    have hr : (rest.map Prod.fst).Nodup := (List.nodup_cons.1 hl).2
    by_cases h : p.1 = k
    · subst h
      simpa [put] using hl
    · simp only [put, h, if_false, List.map_cons]
      refine List.nodup_cons.2 ⟨?_, ih hr⟩
      intro hm
      rcases mem_keys_put.1 hm with hk | hk
      · exact h hk
      · exact hp hk

/-- The entry that was put is found under its key, and every other one as before. -/
theorem lookup_put {k x : κ} {v : α} {l : List (κ × α)} :
    lookup x (put k v l) = if k = x then some v else lookup x l := by
  induction l with
  | nil => simp [put, lookup]
  | cons p rest ih =>
    by_cases h : p.1 = k
    · by_cases hx : k = x
      · simp [put, lookup, h, hx]
      · simp [put, lookup, h, hx]
    · by_cases hx : p.1 = x
      · have hk : k ≠ x := fun hk => h (hx.trans hk.symm)
        simp [put, lookup, hx, hk, hk.symm]
      · simp [put, lookup, h, hx, ih]

/-- Writes a pair: a key that is already there keeps its place. -/
def insert (m : OrderedMap κ α) (k : κ) (v : α) : OrderedMap κ α :=
  ⟨put k v m.toList, nodup_keys_put m.keys_nodup⟩

/-- Writes every pair of a list, from left to right. -/
def insertAll (m : OrderedMap κ α) (l : List (κ × α)) : OrderedMap κ α :=
  l.foldl (fun acc p => acc.insert p.1 p.2) m

/-- The map of a list of pairs: of two pairs with one key the later value counts. -/
def ofList (l : List (κ × α)) : OrderedMap κ α :=
  insertAll empty l

@[simp]
theorem get?_empty (k : κ) :
    (empty : OrderedMap κ α).get? k = none :=
  rfl

/-- The value that was inserted is found under its key, and every other one as before. -/
@[simp]
theorem get?_insert (m : OrderedMap κ α) (k x : κ) (v : α) :
    (m.insert k v).get? x = if k = x then some v else m.get? x :=
  lookup_put

/-- The value that the last pair with key `k` carries. -/
def lastValue (k : κ) : List (κ × α) → Option α
  | [] => none
  | p :: rest => (lastValue k rest).or (if p.1 = k then some p.2 else none)

/-- Of several values for a key the last one is found. -/
theorem get?_insertAll (m : OrderedMap κ α) (l : List (κ × α)) (x : κ) :
    (m.insertAll l).get? x = (lastValue x l).or (m.get? x) := by
  induction l generalizing m with
  | nil => rfl
  | cons p rest ih =>
    have hstep : m.insertAll (p :: rest) = (m.insert p.1 p.2).insertAll rest := rfl
    rw [hstep, ih, get?_insert]
    by_cases h : p.1 = x <;> cases hl : lastValue x rest <;> simp [lastValue, h, hl]

/-- A map that is made of a list has the last value of every key. -/
@[simp]
theorem get?_ofList (l : List (κ × α)) (x : κ) :
    (ofList l).get? x = lastValue x l := by
  simp [ofList, get?_insertAll]

theorem mem_of_lastValue_eq_some {l : List (κ × α)} {k : κ} {v : α}
    (h : lastValue k l = some v) :
    (k, v) ∈ l := by
  induction l with
  | nil => cases h
  | cons p rest ih =>
    rw [lastValue] at h
    cases hrest : lastValue k rest with
    | some w =>
      rw [hrest, Option.some_or] at h
      exact List.mem_cons_of_mem p (ih (hrest.trans h))
    | none =>
      rw [hrest, Option.none_or] at h
      by_cases hk : p.1 = k
      · rw [if_pos hk] at h
        cases h
        subst hk
        exact List.mem_cons_self
      · rw [if_neg hk] at h
        cases h

/-- A key without a last value does not occur. -/
theorem lastValue_eq_none_iff {l : List (κ × α)} {k : κ} :
    lastValue k l = none ↔ k ∉ l.map Prod.fst := by
  induction l with
  | nil => simp [lastValue]
  | cons p rest ih =>
    have hkey : k = p.1 ↔ p.1 = k := eq_comm
    rw [lastValue, Option.or_eq_none_iff, ih, List.map_cons, List.mem_cons, not_or, hkey,
      and_comm]
    simp

/-- Pairs that are read off the members of a list: the last one with the key counts. -/
theorem lastValue_filterMap {β : Type w} (key : β → κ) (f : β → Option α) (l : List β) (k : κ) :
    lastValue k (l.filterMap fun b => (f b).map fun v => (key b, v)) =
      ((l.filter fun b => (f b).isSome ∧ key b = k).getLast?).bind f := by
  induction l with
  | nil => rfl
  | cons b rest ih =>
    cases hb : f b with
    | none =>
      rw [List.filterMap_cons_none (by rw [hb, Option.map_none]),
        List.filter_cons_of_neg (by simp [hb])]
      exact ih
    | some v =>
      rw [List.filterMap_cons_some (by rw [hb, Option.map_some]), lastValue, ih]
      by_cases hk : key b = k
      · rw [List.filter_cons_of_pos (by simp [hb, hk]), List.getLast?_cons, if_pos hk,
          Option.bind_some]
        cases hlast : (rest.filter fun b => (f b).isSome ∧ key b = k).getLast? with
        | none => rw [Option.bind_none, Option.none_or, Option.getD_none, hb]
        | some c =>
          have hc := (List.mem_filter.1 (List.mem_of_getLast? hlast)).2
          obtain ⟨w, hw⟩ := Option.isSome_iff_exists.1 (of_decide_eq_true hc).1
          rw [Option.bind_some, hw, Option.some_or, Option.getD_some, hw]
      · rw [List.filter_cons_of_neg (by simp [hk]), if_neg hk, Option.or_none]

theorem lastValue_map (f : κ → α) (l : List κ) (k : κ) :
    lastValue k (l.map fun x => (x, f x)) = if k ∈ l then some (f k) else none := by
  induction l with
  | nil => rfl
  | cons x rest ih =>
    rw [List.map_cons, lastValue, ih]
    by_cases hk : k ∈ rest
    · rw [if_pos hk, if_pos (List.mem_cons_of_mem x hk), Option.some_or]
    · rw [if_neg hk, Option.none_or]
      by_cases hx : x = k
      · subst hx
        rw [if_pos rfl, if_pos List.mem_cons_self]
      · have hnot : k ∉ x :: rest := by
          rintro (_ | ⟨_, h⟩)
          · exact hx rfl
          · exact hk h
        rw [if_neg hx, if_neg hnot]

/-- Where keys are distinct, an entry is found by its key. -/
theorem lookup_eq_some_iff {l : List (κ × α)} (hl : (l.map Prod.fst).Nodup) {k : κ} {v : α} :
    lookup k l = some v ↔ (k, v) ∈ l := by
  induction l with
  | nil => simp [lookup]
  | cons p rest ih =>
    have hp : p.1 ∉ rest.map Prod.fst := (List.nodup_cons.1 hl).1
    have hr : (rest.map Prod.fst).Nodup := (List.nodup_cons.1 hl).2
    obtain ⟨a, b⟩ := p
    by_cases h : a = k
    · subst h
      have hnot : ∀ v, (a, v) ∉ rest := fun v hv =>
        hp (List.mem_map.2 ⟨(a, v), hv, rfl⟩)
      simp only [lookup, if_true, Option.some.injEq, List.mem_cons, Prod.mk.injEq, true_and]
      constructor
      · exact fun h => Or.inl h.symm
      · rintro (h | h)
        · exact h.symm
        · exact absurd h (hnot v)
    · have hne : ¬ (k = a ∧ v = b) := fun hkv => h hkv.1.symm
      simp only [lookup, h, if_false, List.mem_cons, Prod.mk.injEq, hne, false_or]
      exact ih hr

/-- The listed pairs are exactly the answers. -/
theorem mem_toList_iff (m : OrderedMap κ α) {k : κ} {v : α} :
    (k, v) ∈ m.toList ↔ m.get? k = some v :=
  (lookup_eq_some_iff m.keys_nodup).symm

theorem lookup_eq_none_iff {l : List (κ × α)} {k : κ} :
    lookup k l = none ↔ k ∉ l.map Prod.fst := by
  induction l with
  | nil => simp [lookup]
  | cons p rest ih =>
    by_cases h : p.1 = k
    · simp [lookup, h]
    · have hne : ¬ k = p.1 := fun hk => h hk.symm
      rw [List.map_cons, List.mem_cons]
      simp only [lookup, h, if_false, hne, false_or]
      exact ih

theorem get?_eq_none_iff (m : OrderedMap κ α) {k : κ} :
    m.get? k = none ↔ k ∉ m.keys :=
  lookup_eq_none_iff

/-- A map contains its keys. -/
theorem contains_iff (m : OrderedMap κ α) {k : κ} :
    m.contains k = true ↔ k ∈ m.keys := by
  rw [contains, Option.isSome_iff_ne_none]
  exact (not_congr m.get?_eq_none_iff).trans Decidable.not_not

/-- A key stays in its place, and a new one comes last. -/
theorem map_fst_put {k : κ} {v : α} {l : List (κ × α)} :
    (put k v l).map Prod.fst =
      if k ∈ l.map Prod.fst then l.map Prod.fst else l.map Prod.fst ++ [k] := by
  induction l with
  | nil => simp [put]
  | cons p rest ih =>
    by_cases h : p.1 = k
    · simp [put, h]
    · have hne : ¬ k = p.1 := fun hk => h hk.symm
      rw [put, if_neg h, List.map_cons, ih, List.map_cons]
      by_cases hk : k ∈ rest.map Prod.fst
      · rw [if_pos hk, if_pos (List.mem_cons_of_mem p.1 hk)]
      · have hnot : k ∉ p.1 :: rest.map Prod.fst := by
          rw [List.mem_cons]
          rintro (h₁ | h₂)
          · exact hne h₁
          · exact hk h₂
        rw [if_neg hk, if_neg hnot, List.cons_append]

/-- A written key keeps its place, and a new one goes to the end. -/
theorem keys_insert (m : OrderedMap κ α) (k : κ) (v : α) :
    (m.insert k v).keys = if k ∈ m.keys then m.keys else m.keys ++ [k] :=
  map_fst_put

/-- Lists with the same keys in one order and the same values are equal. -/
theorem eq_of_lookup_eq {l l' : List (κ × α)} (hl : (l.map Prod.fst).Nodup)
    (hkeys : l.map Prod.fst = l'.map Prod.fst) (h : ∀ k, lookup k l = lookup k l') :
    l = l' := by
  induction l generalizing l' with
  | nil => simpa using hkeys.symm
  | cons p rest ih =>
    cases l' with
    | nil => simp at hkeys
    | cons q rest' =>
      obtain ⟨hp, hrest⟩ := List.cons.inj hkeys
      have hnot : p.1 ∉ rest.map Prod.fst := (List.nodup_cons.1 hl).1
      have hpq : p = q := by
        have hv := h p.1
        rw [lookup, if_pos rfl, lookup, if_pos hp.symm] at hv
        exact Prod.ext hp (Option.some.inj hv)
      subst hpq
      have htail : rest = rest' := by
        refine ih (List.nodup_cons.1 hl).2 hrest ?_
        intro k
        by_cases hk : p.1 = k
        · subst hk
          rw [lookup_eq_none_iff.2 hnot, lookup_eq_none_iff.2 (hrest ▸ hnot)]
        · have hv := h k
          rwa [lookup, if_neg hk, lookup, if_neg hk] at hv
      rw [htail]

/-- A map is given by its keys in their places and the value of each. -/
theorem eq_of_keys_eq {m n : OrderedMap κ α} (hkeys : m.keys = n.keys)
    (h : ∀ k, m.get? k = n.get? k) :
    m = n := by
  obtain ⟨l, hl⟩ := m
  obtain ⟨l', hl'⟩ := n
  have heq : l = l' := eq_of_lookup_eq hl hkeys h
  subst heq
  rfl

/-- Two maps are equivalent when every key has the same value in both. -/
def Equiv (m n : OrderedMap κ α) : Prop :=
  ∀ k, m.get? k = n.get? k

/-- Whether every pair of the first map is answered by the second. -/
def isSubmap [DecidableEq α] (m n : OrderedMap κ α) : Bool :=
  m.toList.all fun p => n.get? p.1 = some p.2

/-- Whether two maps are equivalent, decided by comparing their pairs. -/
def isEquiv [DecidableEq α] (m n : OrderedMap κ α) : Bool :=
  m.isSubmap n && n.isSubmap m

theorem isSubmap_iff [DecidableEq α] (m n : OrderedMap κ α) :
    m.isSubmap n = true ↔ ∀ k v, m.get? k = some v → n.get? k = some v := by
  simp only [isSubmap, List.all_eq_true, decide_eq_true_eq]
  constructor
  · intro h k v hk
    exact h (k, v) ((m.mem_toList_iff).2 hk)
  · rintro h ⟨k, v⟩ hp
    exact h k v ((m.mem_toList_iff).1 hp)

/-- Two maps are equivalent if they have the same values, in whatever order. -/
theorem isEquiv_iff [DecidableEq α] (m n : OrderedMap κ α) :
    m.isEquiv n = true ↔ m.Equiv n := by
  simp only [isEquiv, Bool.and_eq_true, isSubmap_iff]
  constructor
  · rintro ⟨h₁, h₂⟩ k
    cases hm : m.get? k with
    | some v => exact (h₁ k v hm).symm
    | none =>
      cases hn : n.get? k with
      | none => rfl
      | some v => exact absurd (h₂ k v hn) (by simp [hm])
  · intro h
    exact ⟨fun k v hk => (h k) ▸ hk, fun k v hk => (h k).symm ▸ hk⟩

end OrderedMap

end SurfaceCoverage
