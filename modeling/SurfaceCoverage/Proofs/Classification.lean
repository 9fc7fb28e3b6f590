import Mathlib.Tactic.ByContra
import Mathlib.Tactic.Tauto
import SurfaceCoverage.Proofs.Merging
import SurfaceCoverage.Proofs.Observed

/-!
# Classification and the order of observations

A name is abstract when it is written as an interface of some type, or when it is the supertype
that was written last for some type.  Names, methods and interfaces do not depend on the order of
the observations; of several supertypes that were written for one type the last one counts, so the
kind of a name can depend on the order.  It does exactly when the name is contested: it is an
ancestor only as a supertype, and every type with this supertype has another one, too.

**Results.**
* `TypeGraph.kindOf_ofObservations`: the kind of a name, read off the observations.
* `TypeGraph.sameFacts_of_perm`: names, methods and interfaces do not depend on the order.
* `TypeGraph.get?_classify_of_not_contested`: nor does the kind of a name that is not contested.
* `TypeGraph.exists_perm_of_contested`: a contested name has both kinds.
-/

namespace SurfaceCoverage

/-- The name is written as an interface of some type. -/
def IsInterface (os : List Observation) (n : String) : Prop :=
  ∃ o ∈ os, o.typeName ≠ "" ∧ n ∈ o.interfaces

/-- The name is the supertype that was written last for some type. -/
def IsLastSupertype (os : List Observation) (n : String) : Prop :=
  ∃ x, x ≠ "" ∧ (supertypesOf x os).getLast? = some n

/-- The name is declared, but it is an ancestor only as a supertype, and every type with this
supertype has another one, too. -/
structure Contested (os : List Observation) (n : String) : Prop where
  declared : Occurs os n
  not_interface : ¬ IsInterface os n
  written : ∃ x, x ≠ "" ∧ n ∈ supertypesOf x os
  rival : ∀ x, x ≠ "" → n ∈ supertypesOf x os → ∃ m ∈ supertypesOf x os, m ≠ n

/-- The last supertype of a type is written somewhere. -/
theorem IsLastSupertype.written {os : List Observation} {n : String}
    (h : IsLastSupertype os n) :
    ∃ x, x ≠ "" ∧ n ∈ supertypesOf x os := by
  obtain ⟨x, hx, hlast⟩ := h
  exact ⟨x, hx, List.mem_of_getLast? hlast⟩

section Reordering

variable {os os' : List Observation}

theorem supertypesOf_append (x : String) (os os' : List Observation) :
    supertypesOf x (os ++ os') = supertypesOf x os ++ supertypesOf x os' := by
  simp only [supertypesOf, observationsOf, List.filter_append, List.filterMap_append]

/-- Matches in another order tell of the same supertypes, in another order. -/
theorem supertypesOf_perm (h : os.Perm os') (x : String) :
    (supertypesOf x os).Perm (supertypesOf x os') :=
  (h.filter _).filterMap _

/-- What is written as an interface does not depend on the order of matches. -/
theorem isInterface_iff_of_perm (h : os.Perm os') (n : String) :
    IsInterface os n ↔ IsInterface os' n := by
  simp only [IsInterface, h.mem_iff]

/-- Which types occur does not depend on the order of matches. -/
theorem occurs_iff_of_perm (h : os.Perm os') (x : String) :
    Occurs os x ↔ Occurs os' x := by
  simp only [Occurs, h.mem_iff]

/-- A supertype without a rival counts wherever it is written. -/
theorem isLastSupertype_of_no_rival {n x : String} (hx : x ≠ "") (hmem : n ∈ supertypesOf x os)
    (honly : ∀ m ∈ supertypesOf x os, m = n) :
    IsLastSupertype os n := by
  have hne : supertypesOf x os ≠ [] := List.ne_nil_of_mem hmem
  refine ⟨x, hx, ?_⟩
  rw [List.getLast?_eq_some_getLast hne]
  exact congrArg some (honly _ (List.getLast_mem hne))

/-- The observations that write a given supertype. -/
def writing (n : String) (os : List Observation) : List Observation :=
  os.filter fun o => o.supertype = some n

/-- The observations that do not. -/
def notWriting (n : String) (os : List Observation) : List Observation :=
  os.filter fun o => !decide (o.supertype = some n)

/-- Matches can be moved to where those that write a name come first. -/
theorem writing_append_notWriting_perm (n : String) (os : List Observation) :
    (writing n os ++ notWriting n os).Perm os :=
  List.filter_append_perm _ os

/-- Among the matches that write a name, it is the only supertype. -/
theorem mem_supertypesOf_writing {n m x : String} :
    m ∈ supertypesOf x (writing n os) ↔ m ∈ supertypesOf x os ∧ m = n := by
  simp only [mem_supertypesOf, writing, List.mem_filter]
  constructor
  · rintro ⟨hne, o, ⟨ho, hn⟩, hx, hm⟩
    have hmn : m = n := by simpa [hm] using hn
    exact ⟨⟨hne, o, ho, hx, hm⟩, hmn⟩
  · rintro ⟨⟨hne, o, ho, hx, hm⟩, rfl⟩
    refine ⟨hne, o, ⟨ho, ?_⟩, hx, hm⟩
    simp [hm]

/-- Among the other matches, it is no supertype. -/
theorem mem_supertypesOf_notWriting {n m x : String} :
    m ∈ supertypesOf x (notWriting n os) ↔ m ∈ supertypesOf x os ∧ m ≠ n := by
  simp only [mem_supertypesOf, notWriting, List.mem_filter]
  constructor
  · rintro ⟨hne, o, ⟨ho, hn⟩, hx, hm⟩
    refine ⟨⟨hne, o, ho, hx, hm⟩, ?_⟩
    rintro rfl
    simp [hm] at hn
  · rintro ⟨⟨hne, o, ho, hx, hm⟩, hmn⟩
    refine ⟨hne, o, ⟨ho, ?_⟩, hx, hm⟩
    simp [hm, hmn]

/-- With the observations that write `n` at the end, `n` is the supertype that counts. -/
theorem isLastSupertype_of_writing_last {n x : String} (hx : x ≠ "")
    (h : n ∈ supertypesOf x os) :
    IsLastSupertype (notWriting n os ++ writing n os) n := by
  have hwriting : n ∈ supertypesOf x (writing n os) := mem_supertypesOf_writing.2 ⟨h, rfl⟩
  have hne : supertypesOf x (writing n os) ≠ [] := List.ne_nil_of_mem hwriting
  refine ⟨x, hx, ?_⟩
  rw [supertypesOf_append, List.getLast?_append, List.getLast?_eq_some_getLast hne, Option.some_or]
  exact congrArg some (mem_supertypesOf_writing.1 (List.getLast_mem hne)).2

/-- With those observations in front, a rival counts wherever there is one. -/
theorem not_isLastSupertype_of_writing_first {n : String}
    (hrival : ∀ x, x ≠ "" → n ∈ supertypesOf x os → ∃ m ∈ supertypesOf x os, m ≠ n) :
    ¬ IsLastSupertype (writing n os ++ notWriting n os) n := by
  rintro ⟨x, hx, hlast⟩
  rw [supertypesOf_append, List.getLast?_append] at hlast
  cases hrest : (supertypesOf x (notWriting n os)).getLast? with
  | some m =>
    rw [hrest, Option.some_or] at hlast
    have hm := mem_supertypesOf_notWriting.1 (List.mem_of_getLast? hrest)
    exact hm.2 (Option.some.inj hlast)
  | none =>
    rw [hrest, Option.none_or] at hlast
    have hn : n ∈ supertypesOf x os :=
      (mem_supertypesOf_writing.1 (List.mem_of_getLast? hlast)).1
    obtain ⟨m, hm, hmn⟩ := hrival x hx hn
    have hmem := mem_supertypesOf_notWriting.2 ⟨hm, hmn⟩
    rw [List.getLast?_eq_none_iff.1 hrest] at hmem
    exact List.not_mem_nil hmem

end Reordering

/-- The ancestors of a declaration are its supertype and its interfaces. -/
theorem Declaration.mem_ancestors {d : Declaration} {n : String} :
    n ∈ d.ancestors ↔ presentName d.supertype = some n ∨ n ∈ d.interfaces := by
  rw [ancestors, List.mem_append, Option.mem_toList]

/-- The ancestors of a type are its last supertype and all its interfaces. -/
theorem Declaration.mem_ancestors_ofObservations {x n : String} {os : List Observation} :
    n ∈ (Declaration.ofObservations x os).ancestors ↔
      (supertypesOf x os).getLast? = some n ∨ n ∈ interfacesOf x os := by
  have hpresent : presentName (supertypesOf x os).getLast? = some n ↔
      (supertypesOf x os).getLast? = some n := by
    rw [presentName_eq_some_iff]
    constructor
    · exact fun h => h.1
    · exact fun h => ⟨h, (mem_supertypesOf.1 (List.mem_of_getLast? h)).1⟩
  rw [mem_ancestors, ofObservations, hpresent, List.mem_eraseDups]

namespace TypeGraph

/-- A name is an ancestor in a graph if some declaration has it among its own. -/
theorem isAncestor_iff (g : TypeGraph) {n : String} :
    g.isAncestor n = true ↔ ∃ x d, g.get? x = some d ∧ n ∈ d.ancestors := by
  simp only [isAncestor, List.any_eq_true, List.contains_iff_mem, mem_toList_iff]
  constructor
  · rintro ⟨d, ⟨x, hx⟩, hn⟩
    exact ⟨x, d, hx, hn⟩
  · rintro ⟨x, d, hx, hn⟩
    exact ⟨d, ⟨x, hx⟩, hn⟩

/-- Ancestors are abstract. -/
theorem kindOf_eq_abstract_iff (g : TypeGraph) {n : String} :
    g.kindOf n = .abstract ↔ g.isAncestor n = true := by
  unfold kindOf
  split <;> simp_all

theorem kindOf_eq_kindOf_iff {g h : TypeGraph} {n : String} :
    g.kindOf n = h.kindOf n ↔ (g.kindOf n = .abstract ↔ h.kindOf n = .abstract) := by
  cases g.kindOf n <;> cases h.kindOf n <;> simp

/-- A name is abstract when it is an interface, or the supertype of some type that counts. -/
theorem kindOf_ofObservations {os : List Observation} {n : String} :
    (ofObservations os).kindOf n = .abstract ↔ IsInterface os n ∨ IsLastSupertype os n := by
  rw [kindOf_eq_abstract_iff, isAncestor_iff]
  constructor
  · rintro ⟨x, d, hd, hn⟩
    obtain ⟨⟨hx, _⟩, rfl⟩ := get?_ofObservations_eq_some_iff.1 hd
    rcases Declaration.mem_ancestors_ofObservations.1 hn with hlast | hinterface
    · exact Or.inr ⟨x, hx, hlast⟩
    · obtain ⟨o, ho, rfl, hi⟩ := mem_interfacesOf.1 hinterface
      exact Or.inl ⟨o, ho, hx, hi⟩
  · rintro (⟨o, ho, hx, hi⟩ | ⟨x, hx, hlast⟩)
    · refine ⟨o.typeName, _, get?_ofObservations_eq_some_iff.2 ⟨⟨hx, o, ho, rfl⟩, rfl⟩, ?_⟩
      exact Declaration.mem_ancestors_ofObservations.2
        (Or.inr (mem_interfacesOf.2 ⟨o, ho, rfl, hi⟩))
    · have hoccurs : ∃ o ∈ os, o.typeName = x := by
        obtain ⟨_, o, ho, hox, _⟩ := mem_supertypesOf.1 (List.mem_of_getLast? hlast)
        exact ⟨o, ho, hox⟩
      refine ⟨x, _, get?_ofObservations_eq_some_iff.2 ⟨⟨hx, hoccurs⟩, rfl⟩, ?_⟩
      exact Declaration.mem_ancestors_ofObservations.2 (Or.inl hlast)

/-- Every declaration is classified, and nothing else. -/
theorem get?_classify (g : TypeGraph) (n : String) :
    g.classify.get? n =
      if n ∈ g.toList.map Declaration.name then some (g.kindOf n) else none := by
  have hmap :
      (g.toList.map fun d => (d.name, g.kindOf d.name)) =
        (g.toList.map Declaration.name).map fun x => (x, g.kindOf x) := by
    rw [List.map_map]
    rfl
  rw [classify, OrderedMap.get?_ofList, hmap, OrderedMap.lastValue_map]

/-- The names in a graph are those of the types that occur. -/
theorem mem_names_ofObservations {os : List Observation} {n : String} :
    n ∈ (ofObservations os).toList.map Declaration.name ↔ Occurs os n := by
  simp only [List.mem_map, mem_toList_iff, get?_ofObservations_eq_some_iff]
  constructor
  · rintro ⟨_, ⟨x, hx, rfl⟩, rfl⟩
    exact hx
  · intro hn
    exact ⟨_, ⟨n, hn, rfl⟩, rfl⟩

/-- A name that occurs is classified, and no other name is. -/
theorem get?_classify_ofObservations (os : List Observation) (n : String) :
    (ofObservations os).classify.get? n =
      if Occurs os n then some ((ofObservations os).kindOf n) else none := by
  rw [get?_classify]
  exact if_congr mem_names_ofObservations rfl rfl

/-- The types that are classified as abstract, by the matches. -/
theorem get?_classify_eq_abstract_iff {os : List Observation} {n : String} :
    (ofObservations os).classify.get? n = some .abstract ↔
      Occurs os n ∧ (IsInterface os n ∨ IsLastSupertype os n) := by
  rw [get?_classify_ofObservations, ← kindOf_ofObservations]
  by_cases hn : Occurs os n <;> simp [hn]

/-- The types that are classified as concrete, by the matches. -/
theorem get?_classify_eq_concrete_iff {os : List Observation} {n : String} :
    (ofObservations os).classify.get? n = some .concrete ↔
      Occurs os n ∧ ¬ (IsInterface os n ∨ IsLastSupertype os n) := by
  rw [get?_classify_ofObservations, ← kindOf_ofObservations]
  by_cases hn : Occurs os n
  · cases (ofObservations os).kindOf n <;> simp [hn]
  · simp [hn]

/-- Two graphs declare the same names, and of each name the same methods and the same
interfaces, in whatever order. -/
structure SameFacts (g h : TypeGraph) : Prop where
  names : g.names = h.names
  methods : ∀ x d e, g.get? x = some d → h.get? x = some e → ∀ m, m ∈ d.methods ↔ m ∈ e.methods
  interfaces : ∀ x d e, g.get? x = some d → h.get? x = some e →
    ∀ i, i ∈ d.interfaces ↔ i ∈ e.interfaces

section Reordering

variable {os os' : List Observation} (h : os.Perm os')
include h

/-- Matches in another order give the same names, methods and interfaces. -/
theorem sameFacts_of_perm :
    (ofObservations os).SameFacts (ofObservations os') := by
  constructor
  · apply Text.sorted_eq_of_perm
    refine (List.perm_ext_iff_of_nodup (ofObservations os).declarations.keys_nodup
      (ofObservations os').declarations.keys_nodup).2 ?_
    intro x
    have hoccurs := occurs_iff_of_perm h x
    exact mem_keys_ofObservations.trans (hoccurs.trans mem_keys_ofObservations.symm)
  · intro x d e hd he m
    obtain ⟨_, rfl⟩ := get?_ofObservations_eq_some_iff.1 hd
    obtain ⟨_, rfl⟩ := get?_ofObservations_eq_some_iff.1 he
    simp only [Declaration.ofObservations, List.mem_eraseDups, mem_methodsOf, h.mem_iff]
  · intro x d e hd he i
    obtain ⟨_, rfl⟩ := get?_ofObservations_eq_some_iff.1 hd
    obtain ⟨_, rfl⟩ := get?_ofObservations_eq_some_iff.1 he
    simp only [Declaration.ofObservations, List.mem_eraseDups, mem_interfacesOf, h.mem_iff]

/-- Two orders classify a name alike exactly when it is not declared, it is an interface, or it
is a supertype that counts in both orders or in none. -/
theorem get?_classify_eq_iff_of_perm (n : String) :
    (ofObservations os').classify.get? n = (ofObservations os).classify.get? n ↔
      (Occurs os n →
        IsInterface os n ∨ (IsLastSupertype os n ↔ IsLastSupertype os' n)) := by
  have hoccurs := occurs_iff_of_perm h n
  have hinterface := isInterface_iff_of_perm h n
  rw [get?_classify_ofObservations, get?_classify_ofObservations,
    if_congr hoccurs.symm rfl rfl]
  by_cases hn : Occurs os n
  · have hkinds : ∀ i a b : Prop, (i ∨ b ↔ i ∨ a) ↔ i ∨ (a ↔ b) := by
      intro i a b
      tauto
    rw [if_pos hn, if_pos hn, Option.some.injEq, kindOf_eq_kindOf_iff, kindOf_ofObservations,
      kindOf_ofObservations, ← hinterface, hkinds]
    exact ⟨fun heq _ => heq, fun heq => heq hn⟩
  · rw [if_neg hn, if_neg hn]
    exact iff_of_true rfl fun hdeclared => absurd hdeclared hn

/-- The kind of a name that is not contested does not depend on the order. -/
theorem get?_classify_of_not_contested {n : String} (hn : ¬ Contested os n) :
    (ofObservations os').classify.get? n = (ofObservations os).classify.get? n := by
  refine (get?_classify_eq_iff_of_perm h n).2 ?_
  intro hdeclared
  by_cases hinterface : IsInterface os n
  · exact Or.inl hinterface
  · right
    by_cases hwritten : ∃ x, x ≠ "" ∧ n ∈ supertypesOf x os
    · -- some type has this supertype and no other one, in either order
      have hsole : ∃ x, x ≠ "" ∧ n ∈ supertypesOf x os ∧ ∀ m ∈ supertypesOf x os, m = n := by
        by_contra hnone
        refine hn ⟨hdeclared, hinterface, hwritten, ?_⟩
        intro x hx hmem
        by_contra hrival
        refine hnone ⟨x, hx, hmem, ?_⟩
        intro m hm
        by_contra hmn
        exact hrival ⟨m, hm, hmn⟩
      obtain ⟨x, hx, hmem, honly⟩ := hsole
      have hperm := supertypesOf_perm h x
      refine iff_of_true (isLastSupertype_of_no_rival hx hmem honly) ?_
      refine isLastSupertype_of_no_rival hx (hperm.mem_iff.1 hmem) ?_
      intro m hm
      exact honly m (hperm.mem_iff.2 hm)
    · refine iff_of_false (fun hlast => hwritten hlast.written) ?_
      intro hlast
      obtain ⟨x, hx, hmem⟩ := hlast.written
      exact hwritten ⟨x, hx, (supertypesOf_perm h x).mem_iff.2 hmem⟩

end Reordering

/-- A contested name is abstract in one order of the observations and concrete in another. -/
theorem exists_perm_of_contested {os : List Observation} {n : String} (h : Contested os n) :
    ∃ os₁ os₂ : List Observation, os.Perm os₁ ∧ os.Perm os₂ ∧
      (ofObservations os₁).classify.get? n ≠ (ofObservations os₂).classify.get? n := by
  obtain ⟨x, hx, hmem⟩ := h.written
  have hfirst := writing_append_notWriting_perm n os
  have hlast : (notWriting n os ++ writing n os).Perm os :=
    List.perm_append_comm.trans hfirst
  refine ⟨notWriting n os ++ writing n os, writing n os ++ notWriting n os, hlast.symm,
    hfirst.symm, ?_⟩
  intro heq
  have hdeclared : Occurs (writing n os ++ notWriting n os) n :=
    (occurs_iff_of_perm hfirst n).2 h.declared
  rcases (get?_classify_eq_iff_of_perm (hfirst.trans hlast.symm) n).1 heq hdeclared with
    hinterface | hiff
  · exact h.not_interface ((isInterface_iff_of_perm hfirst n).1 hinterface)
  · exact not_isLastSupertype_of_writing_first h.rival
      (hiff.2 (isLastSupertype_of_writing_last hx hmem))

end TypeGraph

/-- Files in another order give the same matches in another order. -/
theorem Grammar.stream_perm (g : Grammar) {files files' : List SourceFile}
    (h : files.Perm files') :
    (g.stream files).Perm (g.stream files') :=
  (h.filter _).flatMap_right _

/-- What an order of observations, or of files, can change.  The names, their methods and their
interfaces stay the same.  The kind of a name stays the same in all orders of the observations
exactly when the name is not contested; two orders of files agree on a name exactly when it is not
declared, it is an interface, or it counts as a supertype in both or in none. -/
theorem kinds_fixed_iff_not_contested (os : List Observation) (g : Grammar)
    (files : List SourceFile) :
    (∀ os' : List Observation, os.Perm os' →
      (TypeGraph.ofObservations os).SameFacts (.ofObservations os'))
    ∧
    (∀ n : String,
      (∀ os' : List Observation, os.Perm os' →
        (TypeGraph.ofObservations os').classify.get? n =
          (TypeGraph.ofObservations os).classify.get? n)
        ↔ ¬ Contested os n)
    ∧
    (∀ files' : List SourceFile, files.Perm files' →
      (g.graph files).SameFacts (g.graph files')
      ∧
      ∀ n : String,
        ((g.graph files').classify.get? n = (g.graph files).classify.get? n ↔
          (Occurs (g.stream files) n →
            IsInterface (g.stream files) n
            ∨ (IsLastSupertype (g.stream files) n ↔ IsLastSupertype (g.stream files') n)))
        ∧
        (¬ Contested (g.stream files) n →
          (g.graph files').classify.get? n = (g.graph files).classify.get? n)) := by
  refine ⟨fun os' h => TypeGraph.sameFacts_of_perm h, ?_, ?_⟩
  · intro n
    constructor
    · intro hfixed hcontested
      obtain ⟨os₁, os₂, h₁, h₂, hne⟩ := TypeGraph.exists_perm_of_contested hcontested
      exact hne ((hfixed os₁ h₁).trans (hfixed os₂ h₂).symm)
    · intro hn os' h
      exact TypeGraph.get?_classify_of_not_contested h hn
  · intro files' h
    have hstream := g.stream_perm h
    rw [g.graph_eq_ofObservations files, g.graph_eq_ofObservations files']
    refine ⟨TypeGraph.sameFacts_of_perm hstream, ?_⟩
    intro n
    exact ⟨TypeGraph.get?_classify_eq_iff_of_perm hstream n,
      TypeGraph.get?_classify_of_not_contested hstream⟩

/-- Two types with one name and different supertypes, next to both supertypes. -/
def sharedName : List Observation :=
  [⟨"A", "m", none, []⟩, ⟨"B", "m", none, []⟩,
    ⟨"C", "m", some "A", []⟩, ⟨"C", "n", some "B", []⟩]

/-- The same observations, with the last two the other way round. -/
def sharedNameSwapped : List Observation :=
  [⟨"A", "m", none, []⟩, ⟨"B", "m", none, []⟩,
    ⟨"C", "n", some "B", []⟩, ⟨"C", "m", some "A", []⟩]

/-- The supertype that is written last is the abstract one. -/
theorem kinds_of_sharedName :
    sharedName.Perm sharedNameSwapped
    ∧ (TypeGraph.ofObservations sharedName).classify.get? "A" = some .concrete
    ∧ (TypeGraph.ofObservations sharedNameSwapped).classify.get? "A" = some .abstract := by
  refine ⟨by decide, ?_, ?_⟩
  · refine TypeGraph.get?_classify_eq_concrete_iff.2 ⟨⟨by decide, _, List.mem_cons_self, rfl⟩, ?_⟩
    rintro (⟨o, ho, _, hi⟩ | ⟨x, _, hlast⟩)
    · have hnone : ∀ o ∈ sharedName, o.interfaces = [] := by decide
      rw [hnone o ho] at hi
      cases hi
    · obtain ⟨_, o, ho, rfl, hs⟩ := mem_supertypesOf.1 (List.mem_of_getLast? hlast)
      have hsole : ∀ o ∈ sharedName, o.supertype = some "A" → o.typeName = "C" := by decide
      rw [hsole o ho hs] at hlast
      have hother : (supertypesOf "C" sharedName).getLast? ≠ some "A" := by decide
      exact hother hlast
  · refine TypeGraph.get?_classify_eq_abstract_iff.2 ⟨⟨by decide, _, List.mem_cons_self, rfl⟩, ?_⟩
    exact Or.inr ⟨"C", by decide, by decide⟩

/-- Of the two orders, the facts agree, and so does the kind of the name that is shared. -/
theorem facts_of_sharedName :
    sharedName.Perm sharedNameSwapped
    ∧ (TypeGraph.ofObservations sharedName).SameFacts (.ofObservations sharedNameSwapped)
    ∧ ¬ Contested sharedName "C"
    ∧ (TypeGraph.ofObservations sharedNameSwapped).classify.get? "C" =
        (TypeGraph.ofObservations sharedName).classify.get? "C"
    ∧ (Grammar.rust.graph [⟨.ofString "a.rs", [33]⟩, ⟨.ofString "b.rs", []⟩]).SameFacts
        (Grammar.rust.graph [⟨.ofString "b.rs", []⟩, ⟨.ofString "a.rs", [33]⟩]) := by
  have hperm : sharedName.Perm sharedNameSwapped := by decide
  have hcontested : ¬ Contested sharedName "C" := by
    rintro ⟨_, _, ⟨x, _, hx⟩, _⟩
    obtain ⟨_, o, ho, _, hs⟩ := mem_supertypesOf.1 hx
    have hnone : ∀ o ∈ sharedName, o.supertype ≠ some "C" := by decide
    exact hnone o ho hs
  obtain ⟨hfacts, hkinds, hfiles⟩ := kinds_fixed_iff_not_contested sharedName .rust
    [⟨.ofString "a.rs", [33]⟩, ⟨.ofString "b.rs", []⟩]
  exact ⟨hperm, hfacts _ hperm, hcontested, (hkinds "C").2 hcontested _ hperm,
    (hfiles _ (List.Perm.swap _ _ [])).1⟩

end SurfaceCoverage
