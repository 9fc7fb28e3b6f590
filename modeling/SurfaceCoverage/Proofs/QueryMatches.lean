import SurfaceCoverage.Syntax.Query

/-!
# What queries find

Queries for siblings search for one node after the other.  If the children of a node fill slots,
each of them at most once and in their order, as the nodes of a grammar do, then the search for each
of them may look at all children, and nothing is found twice.

**Results.**
* `waysAmong_cons`: queries for slots that are filled in order do not depend on each other.
* `waysAmong_optional_append`: optional ones add what they capture to every match.
* `findInOrder_isLawful`: sorting the matches gives a lawful cursor.
-/

namespace SurfaceCoverage

/-- A child that a node may have: its kind, and its role if it has one. -/
structure ChildSlot where
  kind : String
  role : Option String

/-- Whether a node fills a slot. -/
def ChildSlot.fits (s : ChildSlot) (t : SyntaxTree) : Bool :=
  t.fits s.kind s.role

/-- The index of the slot that a node fills. -/
def slotOf? (slots : List ChildSlot) (t : SyntaxTree) : Option Nat :=
  slots.findIdx? fun s => s.fits t

/-- Whether children fill slots in their order, each at most once.  There may be further children.
-/
def fillsInOrder (slots : List ChildSlot) (children : List SyntaxTree) : Bool :=
  decide ((children.filterMap (slotOf? slots)).Pairwise (· < ·))

/-- Nodes fill slots in their order, each at most once. -/
def InOrder (slots : List ChildSlot) (xs : List Spot) : Prop :=
  xs.Pairwise fun x y =>
    ∀ i, slotOf? slots x.tree = some i → ∀ j, slotOf? slots y.tree = some j → i < j

/-- Children that fill slots in order do so at their places. -/
theorem inOrder_of_fillsInOrder {slots : List ChildSlot} {x : Spot}
    (h : fillsInOrder slots x.tree.children = true) :
    InOrder slots x.children := by
  have hpairwise := of_decide_eq_true h
  have htrees : x.children.map Spot.tree = x.tree.children := by
    simp [Spot.children, List.map_map, Function.comp_def]
  rw [List.pairwise_filterMap, ← htrees, List.pairwise_map] at hpairwise
  exact hpairwise

theorem kind_of_fits {s : ChildSlot} {t : SyntaxTree} (h : s.fits t = true) :
    t.kind = s.kind := by
  rw [ChildSlot.fits, SyntaxTree.fits, Bool.and_eq_true, Bool.and_eq_true, beq_iff_eq] at h
  exact h.1.2

section Slots

variable {s : ChildSlot} {rest : List ChildSlot} {x : Spot} {xs : List Spot}

/-- The slot that a tree fills is the first one, or one of the rest. -/
theorem slotOf?_cons (t : SyntaxTree) :
    slotOf? (s :: rest) t =
      if s.fits t then some 0 else (slotOf? rest t).map (· + 1) := by
  rw [slotOf?, List.findIdx?_cons]
  rfl

/-- A tree fills no slot if it fits none. -/
theorem slotOf?_eq_none_iff {slots : List ChildSlot} {t : SyntaxTree} :
    slotOf? slots t = none ↔ ∀ s ∈ slots, s.fits t = false := by
  rw [slotOf?, List.findIdx?_eq_none_iff]

/-- Behind a node that fills the first slot no other one does. -/
theorem InOrder.not_fits (h : InOrder (s :: rest) (x :: xs)) (hx : s.fits x.tree = true)
    {y : Spot} (hy : y ∈ xs) :
    s.fits y.tree = false := by
  refine Bool.eq_false_iff.2 fun hfits => ?_
  have hlt := (List.pairwise_cons.1 h).1 y hy 0 (by rw [slotOf?_cons, if_pos hx]) 0
    (by rw [slotOf?_cons, if_pos hfits])
  exact absurd hlt (Nat.lt_irrefl 0)

/-- Behind a node that fills a later slot none fills the first one. -/
theorem InOrder.not_fits_of_slotOf? (h : InOrder (s :: rest) (x :: xs)) {i : Nat}
    (hx : slotOf? rest x.tree = some i) (hne : s.fits x.tree = false) {y : Spot} (hy : y ∈ xs) :
    s.fits y.tree = false := by
  refine Bool.eq_false_iff.2 fun hfits => ?_
  have hlt := (List.pairwise_cons.1 h).1 y hy (i + 1) (by rw [slotOf?_cons, hne, hx]; rfl) 0
    (by rw [slotOf?_cons, if_pos hfits])
  exact absurd hlt (Nat.not_lt_zero _)

theorem slotOf?_eq_none_of_fits (hkinds : s.kind ∉ rest.map ChildSlot.kind) {t : SyntaxTree}
    (h : s.fits t = true) :
    slotOf? rest t = none := by
  rw [slotOf?_eq_none_iff]
  intro r hr
  refine Bool.eq_false_iff.2 fun hfits => ?_
  have hkind : s.kind = r.kind :=
    (kind_of_fits h).symm.trans (kind_of_fits hfits)
  exact hkinds (hkind ▸ List.mem_map_of_mem hr)

/-- Nodes that fill slots in order fill those behind the first one in order. -/
theorem InOrder.tail (hkinds : s.kind ∉ rest.map ChildSlot.kind) (h : InOrder (s :: rest) xs) :
    InOrder rest xs := by
  refine List.Pairwise.imp ?_ h
  intro x y hxy i hi j hj
  have hlater : ∀ {t : SyntaxTree} {k}, slotOf? rest t = some k →
      slotOf? (s :: rest) t = some (k + 1) := by
    intro t k hk
    have hne : s.fits t = false := by
      refine Bool.eq_false_iff.2 fun hfits => ?_
      rw [slotOf?_eq_none_of_fits hkinds hfits] at hk
      cases hk
    rw [slotOf?_cons, hne, hk]
    rfl
  exact Nat.lt_of_succ_lt_succ (hxy _ (hlater hi) _ (hlater hj))

/-- At most one node fills the first slot. -/
theorem InOrder.pairwise_filter (h : InOrder (s :: rest) xs) :
    (xs.filter fun x => s.fits x.tree).Pairwise fun _ _ => False := by
  rw [List.pairwise_filter]
  refine List.Pairwise.imp ?_ h
  intro x y hxy hx hy
  have hlt := hxy 0 (by rw [slotOf?_cons, if_pos hx]) 0 (by rw [slotOf?_cons, if_pos hy])
  exact Nat.lt_irrefl 0 hlt

end Slots

theorem flatMap_ite {α β : Type} (p : α → Bool) (f : α → List β) (l : List α) :
    (l.flatMap fun x => if p x then f x else []) = (l.filter p).flatMap f := by
  induction l with
  | nil => rfl
  | cons x rest ih =>
    rw [List.flatMap_cons, ih]
    cases h : p x with
    | true => simp [h]
    | false => simp [h]

namespace Query

/-- The slot that a query asks for. -/
def slot : Query → ChildSlot
  | .node kind role _ _ _ => ⟨kind, role⟩

/-- The ways in which a query describes a node among others. -/
def waysIn (q : Query) (xs : List Spot) : List Match :=
  let taken := xs.flatMap q.ways
  if q.isOptional && taken.isEmpty then [[]] else taken

/-- A tree that does not fit a query matches in no way. -/
theorem ways_of_not_fits {q : Query} {x : Spot} (h : q.slot.fits x.tree = false) :
    q.ways x = [] := by
  obtain ⟨kind, role, isOptional, capture, children⟩ := q
  rw [ways, if_neg]
  exact ne_true_of_eq_false h

theorem waysIn_cons_of_not_fits {q : Query} {x : Spot} (h : q.slot.fits x.tree = false)
    (xs : List Spot) :
    q.waysIn (x :: xs) = q.waysIn xs := by
  rw [waysIn, waysIn, List.flatMap_cons, ways_of_not_fits h, List.nil_append]

/-- Where nothing fits, only an optional query matches, with nothing. -/
theorem waysIn_of_not_fits {q : Query} {xs : List Spot}
    (h : ∀ x ∈ xs, q.slot.fits x.tree = false) :
    q.waysIn xs = if q.isOptional then [[]] else [] := by
  have htaken : xs.flatMap q.ways = [] :=
    List.flatMap_eq_nil_iff.2 fun x hx => ways_of_not_fits (h x hx)
  simp only [waysIn, htaken, List.isEmpty_nil, Bool.and_true]

/-- A node that no query asks for is passed over. -/
theorem waysAmong_cons_of_not_fits {qs : List Query} {x : Spot}
    (h : ∀ q ∈ qs, q.slot.fits x.tree = false) (xs : List Spot) :
    waysAmong qs (x :: xs) = waysAmong qs xs := by
  induction qs with
  | nil => rw [waysAmong, waysAmong]
  | cons q rest ih =>
    have hx := ways_of_not_fits (h q List.mem_cons_self)
    have hrest := ih fun r hr => h r (List.mem_cons_of_mem q hr)
    rw [waysAmong, waysAmong, withRest, List.flatMap_cons, hx, List.flatMap_nil, List.nil_append,
      hrest]

/-- Where nothing fits, nothing is taken. -/
theorem taken_of_not_fits {q : Query} (rest : List Query) {xs : List Spot}
    (h : ∀ x ∈ xs, q.slot.fits x.tree = false) :
    ((withRest xs).flatMap fun x =>
      (q.ways x.1).flatMap fun found => (waysAmong rest x.2).map (found ++ ·)) = [] := by
  induction xs with
  | nil => rfl
  | cons x xs ih =>
    rw [withRest, List.flatMap_cons, ways_of_not_fits (h x List.mem_cons_self),
      ih fun y hy => h y (List.mem_cons_of_mem x hy)]
    rfl

/-- If no node is of the kind of the first query, the others decide. -/
theorem waysAmong_cons_of_none {q : Query} (rest : List Query) {xs : List Spot}
    (h : ∀ x ∈ xs, q.slot.fits x.tree = false) :
    waysAmong (q :: rest) xs =
      (q.waysIn xs).flatMap fun found => (waysAmong rest xs).map (found ++ ·) := by
  rw [waysAmong, taken_of_not_fits rest h, waysIn_of_not_fits h, List.isEmpty_nil, Bool.and_true]
  cases q.isOptional with
  | true => simp
  | false => rfl

/-- If the first node is what the first query asks for, and nothing behind it is, the rest of the
queries is found behind it. -/
theorem waysAmong_cons_of_fits {q : Query} {rest : List Query} {x : Spot} {xs : List Spot}
    (hbehind : ∀ y ∈ xs, q.slot.fits y.tree = false)
    (hrest : waysAmong rest (x :: xs) = waysAmong rest xs) :
    waysAmong (q :: rest) (x :: xs) =
      (q.waysIn (x :: xs)).flatMap fun found =>
        (waysAmong rest (x :: xs)).map (found ++ ·) := by
  have htaken : (x :: xs).flatMap q.ways = q.ways x := by
    rw [List.flatMap_cons,
      List.flatMap_eq_nil_iff.2 fun y hy => ways_of_not_fits (hbehind y hy), List.append_nil]
  rw [waysAmong, withRest, List.flatMap_cons, taken_of_not_fits rest hbehind, List.append_nil,
    waysIn, htaken, hrest]
  simp only
  by_cases hoptional : q.isOptional = true
  · cases hways : q.ways x with
    | nil => simp [hoptional]
    | cons found more =>
      cases waysAmong rest xs with
      | nil => simp
      | cons w ws => simp
  · rw [Bool.not_eq_true] at hoptional
    simp [hoptional]

/-- Queries for slots that are filled in order do not depend on each other: each of them may look at
all nodes. -/
theorem waysAmong_cons {q : Query} {rest : List Query}
    (hkinds : q.slot.kind ∉ rest.map fun r => r.slot.kind) {xs : List Spot}
    (h : InOrder ((q :: rest).map slot) xs) :
    waysAmong (q :: rest) xs =
      (q.waysIn xs).flatMap fun found => (waysAmong rest xs).map (found ++ ·) := by
  induction xs with
  | nil => exact waysAmong_cons_of_none rest fun x hx => by cases hx
  | cons x xs ih =>
    have hothers : ∀ {t : SyntaxTree}, slotOf? (rest.map slot) t = none →
        ∀ r ∈ rest, r.slot.fits t = false := fun hnone r hr =>
      slotOf?_eq_none_iff.1 hnone r.slot (List.mem_map_of_mem hr)
    by_cases hx : q.slot.fits x.tree = true
    · -- the node that the first query asks for: what is behind it holds the rest
      have hnone := slotOf?_eq_none_of_fits (by rwa [List.map_map]) hx
      exact waysAmong_cons_of_fits (fun y hy => h.not_fits hx hy)
        (waysAmong_cons_of_not_fits (hothers hnone) xs)
    · rw [Bool.not_eq_true] at hx
      cases hslot : slotOf? (rest.map slot) x.tree with
      | some i =>
        -- a node for a later query: nothing behind it is what the first one asks for
        refine waysAmong_cons_of_none rest fun y hy => ?_
        rcases List.mem_cons.1 hy with rfl | hy
        · exact hx
        · exact h.not_fits_of_slotOf? hslot hx hy
      | none =>
        have hrest : waysAmong rest (x :: xs) = waysAmong rest xs :=
          waysAmong_cons_of_not_fits (hothers hslot) xs
        have hall : waysAmong (q :: rest) (x :: xs) = waysAmong (q :: rest) xs := by
          refine waysAmong_cons_of_not_fits (fun r hr => ?_) xs
          rcases List.mem_cons.1 hr with rfl | hr
          · exact hx
          · exact hothers hslot r hr
        rw [hall, waysIn_cons_of_not_fits hx, hrest]
        exact ih (List.pairwise_cons.1 h).2

/-- The only query looks at all nodes. -/
theorem waysAmong_singleton {q : Query} (h : q.isOptional = false) (xs : List Spot) :
    waysAmong [q] xs = xs.flatMap q.ways := by
  have hways : ∀ ys : List Spot, ((withRest ys).flatMap fun x =>
      (q.ways x.1).flatMap fun found => (waysAmong [] x.2).map (found ++ ·)) =
        ys.flatMap q.ways := by
    intro ys
    induction ys with
    | nil => rfl
    | cons y ys ih =>
      rw [withRest, List.flatMap_cons, List.flatMap_cons, ih, waysAmong]
      simp [List.flatMap_singleton']
  rw [waysAmong, hways, h]
  rfl

/-- A query without children captures a node of its kind. -/
theorem ways_leaf (kind : String) (role : Option String) (isOptional : Bool) (name : String)
    (x : Spot) :
    (Query.node kind role isOptional (some name) []).ways x =
      if x.tree.fits kind role then [[⟨name, x⟩]] else [] := by
  rw [ways, waysAmong]
  rfl

/-- A query for a single tree matches once for each one that fits. -/
theorem flatMap_leaf (kind : String) (role : Option String) (isOptional : Bool) (name : String)
    (xs : List Spot) :
    xs.flatMap (Query.node kind role isOptional (some name) []).ways =
      (xs.filter fun x => x.tree.fits kind role).map fun x => [⟨name, x⟩] := by
  rw [List.map_eq_flatMap, ← flatMap_ite]
  exact congrArg (List.flatMap · xs) (funext fun x => ways_leaf kind role isOptional name x)

/-- A query that captures nothing itself finds what its only child finds. -/
theorem ways_inner {q : Query} (hq : q.isOptional = false) (kind : String) (role : Option String)
    (isOptional : Bool) (x : Spot) :
    (Query.node kind role isOptional none [q]).ways x =
      if x.tree.fits kind role then x.children.flatMap q.ways else [] := by
  rw [ways, waysAmong_singleton hq]
  simp

/-- Optional queries without children, given by the kinds of nodes and the names for them. -/
def optional (captures : List (String × String)) : List Query :=
  captures.map fun c => .node c.1 none true (some c.2) []

/-- What optional queries capture among nodes. -/
def optionalCaptures (captures : List (String × String)) (xs : List Spot) : Match :=
  captures.flatMap fun c => (xs.filter fun x => x.tree.fits c.1 none).map (Capture.mk c.2)

/-- An optional query takes all trees that fit it. -/
theorem waysIn_optional (kind name : String) {rest : List ChildSlot} {xs : List Spot}
    (h : InOrder (⟨kind, none⟩ :: rest) xs) :
    (Query.node kind none true (some name) []).waysIn xs =
      [(xs.filter fun x => x.tree.fits kind none).map (Capture.mk name)] := by
  have hone := h.pairwise_filter
  rw [waysIn, flatMap_leaf]
  simp only [ChildSlot.fits] at hone
  generalize xs.filter (fun x => x.tree.fits kind none) = found at *
  rcases found with _ | ⟨x, _ | ⟨y, rest⟩⟩
  · rfl
  · rfl
  · exact ((List.pairwise_cons.1 hone).1 y List.mem_cons_self).elim

/-- Optional queries without children add what they capture to every match of the others. -/
theorem waysAmong_optional_append {captures : List (String × String)} {others : List Query}
    {xs : List Spot}
    (hkinds : ((optional captures ++ others).map fun q => q.slot.kind).Nodup)
    (h : InOrder ((optional captures ++ others).map slot) xs) :
    waysAmong (optional captures ++ others) xs =
      (waysAmong others xs).map (optionalCaptures captures xs ++ ·) := by
  induction captures with
  | nil => simp [optional, optionalCaptures]
  | cons c rest ih =>
    have hkind := List.nodup_cons.1 hkinds
    have htail : InOrder ((optional rest ++ others).map slot) xs :=
      InOrder.tail (by rw [List.map_map]; exact hkind.1) h
    have hcons : waysAmong (optional (c :: rest) ++ others) xs =
        ((Query.node c.1 none true (some c.2) []).waysIn xs).flatMap fun found =>
          (waysAmong (optional rest ++ others) xs).map (found ++ ·) :=
      waysAmong_cons hkind.1 h
    rw [hcons, waysIn_optional c.1 c.2 h, ih hkind.2 htail]
    simp [optionalCaptures, Function.comp_def]

end Query

/-! ### The order of matches -/

/-- Inserting a match adds it. -/
theorem insertMatch_perm (m : Match) (ms : List Match) :
    (insertMatch m ms).Perm (m :: ms) := by
  induction ms with
  | nil => exact .refl _
  | cons n rest ih =>
    rw [insertMatch]
    split
    · exact .refl _
    · exact (ih.cons n).trans (.swap m n rest)

/-- A match comes first unless the other one ends earlier. -/
theorem Match.precedes_iff {m n : Match} :
    m.precedes n = true ↔ ¬ n.lastPlace < m.lastPlace := by
  rw [precedes, Bool.not_eq_true', decide_eq_false_iff_not]

theorem Match.precedes_trans {k m n : Match} (hkm : k.precedes m = true)
    (hmn : m.precedes n = true) :
    k.precedes n = true :=
  precedes_iff.2 (List.le_trans (precedes_iff.1 hkm) (precedes_iff.1 hmn))

/-- Inserting a match keeps the order. -/
theorem pairwise_insertMatch {m : Match} {ms : List Match}
    (h : ms.Pairwise fun a b => a.precedes b = true) :
    (insertMatch m ms).Pairwise fun a b => a.precedes b = true := by
  induction ms with
  | nil => exact List.pairwise_singleton _ m
  | cons n rest ih =>
    obtain ⟨hn, hrest⟩ := List.pairwise_cons.1 h
    rw [insertMatch]
    split
    · next hle =>
      refine List.pairwise_cons.2 ⟨fun k hk => ?_, h⟩
      rcases List.mem_cons.1 hk with rfl | hk
      · exact hle
      · exact Match.precedes_trans hle (hn k hk)
    · next hle =>
      refine List.pairwise_cons.2 ⟨fun k hk => ?_, ih hrest⟩
      rcases List.mem_cons.1 ((insertMatch_perm m rest).mem_iff.1 hk) with rfl | hk
      · have hlt := Decidable.not_not.1 (mt Match.precedes_iff.2 hle)
        exact Match.precedes_iff.2 (List.lt_asymm hlt)
      · exact hn k hk

/-- Sorting the matches of a query gives a lawful cursor. -/
theorem findInOrder_isLawful :
    Cursor.IsLawful findInOrder where
  perm q t := by
    rw [findInOrder]
    induction q.matchesIn t with
    | nil => exact .refl _
    | cons m rest ih => exact (insertMatch_perm m _).trans (ih.cons m)
  ordered q t := by
    rw [findInOrder]
    induction q.matchesIn t with
    | nil => exact List.Pairwise.nil
    | cons m rest ih => exact pairwise_insertMatch ih

end SurfaceCoverage
