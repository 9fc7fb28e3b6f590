/-!
# Declarations

A source file is read into observations: each one names a type, one of its methods, and the
ancestors written in its head.  A declaration gathers what was observed of one type.

**Results.**
* `mem_unite`: a union holds the members of both lists.
* `unite_nil`, `unite_self`: nothing is added by no list and by the list itself.
* `unite_assoc`, `unite_eq_append`: unions may be bracketed at will, and keep first occurrences.
* `Declaration.merge_assoc`, `Declaration.merge_self`: so may merges, and a view adds nothing to
  itself.
* `Declaration.observe_eq_merge`: to observe is to merge with a view of a single observation.
-/

namespace SurfaceCoverage

/-- One method of a type, as found in a source file. -/
structure Observation where
  typeName : String
  methodName : String
  supertype : Option String
  interfaces : List String
  deriving Repr, DecidableEq

/-- Puts a member at the end of a list unless it is there. -/
def addNew (l : List String) (x : String) : List String :=
  if x ∈ l then l else l ++ [x]

/-- The members of a list, followed by the new ones of another list, each once. -/
def unite (left right : List String) : List String :=
  right.foldl addNew left

/-- The name in `name?`, unless it is empty. -/
def presentName (name? : Option String) : Option String :=
  name?.filter (· ≠ "")

/-- What is known of one type. -/
structure Declaration where
  name : String
  methods : List String
  supertype : Option String
  interfaces : List String
  deriving Repr, DecidableEq

namespace Declaration

/-- A type of which nothing but the name is known. -/
def named (name : String) : Declaration :=
  ⟨name, [], none, []⟩

/-- What is known after one more observation; a supertype that is observed replaces the old one. -/
def observe (d : Declaration) (o : Observation) : Declaration :=
  { name := d.name
    methods := if o.methodName = "" then d.methods else addNew d.methods o.methodName
    supertype := (presentName o.supertype).or d.supertype
    interfaces := unite d.interfaces o.interfaces }

/-- What two partial views of one type tell together. -/
def merge (d e : Declaration) : Declaration :=
  { name := d.name
    methods := unite d.methods e.methods
    supertype := (presentName e.supertype).or d.supertype
    interfaces := unite d.interfaces e.interfaces }

/-- The names of the types that a type builds on. -/
def ancestors (d : Declaration) : List String :=
  (presentName d.supertype).toList ++ d.interfaces

end Declaration

theorem mem_addNew {l : List String} {x y : String} :
    y ∈ addNew l x ↔ y ∈ l ∨ y = x := by
  by_cases h : x ∈ l
  · simp only [addNew, h, if_true]
    constructor
    · exact Or.inl
    · rintro (hy | rfl)
      · exact hy
      · exact h
  · simp [addNew, h]

@[simp]
theorem unite_nil (l : List String) :
    unite l [] = l :=
  rfl

/-- A union has what one of its parts has. -/
@[simp]
theorem mem_unite {l r : List String} {x : String} :
    x ∈ unite l r ↔ x ∈ l ∨ x ∈ r := by
  induction r generalizing l with
  | nil => simp
  | cons y rest ih =>
    have hstep : unite l (y :: rest) = unite (addNew l y) rest := rfl
    rw [hstep, ih, mem_addNew, List.mem_cons, or_assoc]

/-- What is there already adds nothing. -/
theorem unite_eq_self {l r : List String} (h : ∀ x, x ∈ r → x ∈ l) :
    unite l r = l := by
  induction r with
  | nil => rfl
  | cons y rest ih =>
    have hy : addNew l y = l := by simp [addNew, h y List.mem_cons_self]
    have hstep : unite l (y :: rest) = unite (addNew l y) rest := rfl
    rw [hstep, hy]
    exact ih fun x hx => h x (List.mem_cons_of_mem y hx)

@[simp]
theorem unite_self (l : List String) :
    unite l l = l :=
  unite_eq_self fun _ hx => hx

theorem addNew_of_mem {l : List String} {x : String} (h : x ∈ l) :
    addNew l x = l :=
  if_pos h

theorem addNew_of_not_mem {l : List String} {x : String} (h : x ∉ l) :
    addNew l x = l ++ [x] :=
  if_neg h

/-- Lists are united one after another. -/
theorem unite_append (l r s : List String) :
    unite l (r ++ s) = unite (unite l r) s :=
  List.foldl_append

theorem unite_addNew (l r : List String) (x : String) :
    unite l (addNew r x) = addNew (unite l r) x := by
  by_cases h : x ∈ r
  · have hx : x ∈ unite l r := mem_unite.2 (Or.inr h)
    rw [addNew_of_mem h, addNew_of_mem hx]
  · rw [addNew_of_not_mem h, unite_append]
    rfl

/-- Union is associative. -/
theorem unite_assoc (l r s : List String) :
    unite (unite l r) s = unite l (unite r s) := by
  induction s generalizing r with
  | nil => rfl
  | cons x rest ih =>
    have hleft : unite (unite l r) (x :: rest) = unite (addNew (unite l r) x) rest := rfl
    have hright : unite r (x :: rest) = unite (addNew r x) rest := rfl
    rw [hleft, hright, ← unite_addNew]
    exact ih (addNew r x)

/-- A union is the first list, and then what is new in the second, each once. -/
theorem unite_eq_append (l r : List String) :
    unite l r = l ++ (r.filter fun x => x ∉ l).eraseDups := by
  induction r generalizing l with
  | nil => simp
  | cons x rest ih =>
    have hstep : unite l (x :: rest) = unite (addNew l x) rest := rfl
    rw [hstep]
    by_cases h : x ∈ l
    · rw [addNew_of_mem h, ih, List.filter_cons_of_neg (by simpa using h)]
    · rw [addNew_of_not_mem h, ih, List.filter_cons_of_pos (by simpa using h),
        List.eraseDups_cons, List.filter_filter, List.append_assoc, List.singleton_append]
      congr 3
      apply List.filter_congr
      intro y _
      by_cases hy : y = x <;> simp [hy]

/-- Uniting with nothing leaves each entry once. -/
theorem unite_nil_left (r : List String) :
    unite [] r = r.eraseDups := by
  have hall : (r.filter fun x => x ∉ ([] : List String)) = r :=
    List.filter_eq_self.2 fun x _ => by simp
  rw [unite_eq_append, hall, List.nil_append]

/-- Where nothing comes twice, union is appending. -/
theorem unite_eq_append_of_nodup {l r : List String} (h : (l ++ r).Nodup) :
    unite l r = l ++ r := by
  induction r generalizing l with
  | nil => rw [unite_nil, List.append_nil]
  | cons x rest ih =>
    have hstep : unite l (x :: rest) = unite (addNew l x) rest := rfl
    have hassoc : l ++ x :: rest = l ++ [x] ++ rest := by simp
    have hx : x ∉ l := fun hx =>
      (List.nodup_append.1 h).2.2 x hx x List.mem_cons_self rfl
    rw [hstep, addNew_of_not_mem hx, hassoc]
    exact ih (hassoc ▸ h)

/-- Parts of a union are unions of parts. -/
theorem filter_unite (p : String → Bool) (l r : List String) :
    (unite l r).filter p = unite (l.filter p) (r.filter p) := by
  induction r generalizing l with
  | nil => rfl
  | cons x rest ih =>
    have hstep : unite l (x :: rest) = unite (addNew l x) rest := rfl
    rw [hstep, ih]
    by_cases hp : p x = true
    · have hadd : (addNew l x).filter p = addNew (l.filter p) x := by
        by_cases hx : x ∈ l
        · rw [addNew_of_mem hx, addNew_of_mem (List.mem_filter.2 ⟨hx, hp⟩)]
        · have hnot : x ∉ l.filter p := fun h => hx (List.mem_filter.1 h).1
          rw [addNew_of_not_mem hx, addNew_of_not_mem hnot, List.filter_append]
          simp [hp]
      rw [hadd, List.filter_cons_of_pos hp]
      rfl
    · have hadd : (addNew l x).filter p = l.filter p := by
        by_cases hx : x ∈ l
        · rw [addNew_of_mem hx]
        · rw [addNew_of_not_mem hx, List.filter_append]
          simp [hp]
      rw [hadd, List.filter_cons_of_neg hp]

@[simp]
theorem presentName_none :
    presentName none = none :=
  rfl

@[simp]
theorem presentName_empty :
    presentName (some "") = none := by
  simp [presentName, Option.filter]

theorem presentName_of_ne {n : String} (h : n ≠ "") :
    presentName (some n) = some n := by
  simp [presentName, Option.filter, h]

/-- A name is present if it is there and not empty. -/
theorem presentName_eq_some_iff {name? : Option String} {n : String} :
    presentName name? = some n ↔ name? = some n ∧ n ≠ "" := by
  simp [presentName, Option.filter_eq_some_iff]

/-- Of two names, the first one that is present counts. -/
theorem presentName_or (a b : Option String) :
    presentName ((presentName a).or b) = (presentName a).or (presentName b) := by
  cases a with
  | none => rfl
  | some n =>
    by_cases h : n = ""
    · subst h
      rw [presentName_empty, Option.none_or, Option.none_or]
    · rw [presentName_of_ne h, Option.some_or, Option.some_or, presentName_of_ne h]

namespace Declaration

/-- Merging is associative. -/
theorem merge_assoc (d e f : Declaration) :
    (d.merge e).merge f = d.merge (e.merge f) := by
  simp only [merge, unite_assoc, presentName_or, Option.or_assoc]

/-- Merging with itself changes nothing. -/
theorem merge_self (d : Declaration) :
    d.merge d = d := by
  obtain ⟨name, methods, supertype, interfaces⟩ := d
  have hsuper : (presentName supertype).or supertype = supertype := by
    cases supertype with
    | none => rfl
    | some n =>
      by_cases h : n = ""
      · subst h
        rw [presentName_empty, Option.none_or]
      · rw [presentName_of_ne h, Option.some_or]
  simp only [merge, unite_self, hsuper]

/-- An observation tells as much as the declaration of a type of which nothing else is known. -/
theorem observe_eq_merge (d : Declaration) (o : Observation) :
    d.observe o = d.merge ((named o.typeName).observe o) := by
  have hmethods :
      (if o.methodName = "" then d.methods else addNew d.methods o.methodName) =
        unite d.methods (if o.methodName = "" then [] else addNew [] o.methodName) := by
    by_cases h : o.methodName = ""
    · simp [h]
    · rw [if_neg h, if_neg h]
      rfl
  have hsuper :
      (presentName o.supertype).or d.supertype =
        (presentName ((presentName o.supertype).or none)).or d.supertype := by
    rw [presentName_or, presentName_none, Option.or_none]
  have hinterfaces :
      unite d.interfaces o.interfaces = unite d.interfaces (unite [] o.interfaces) := by
    rw [← unite_assoc, unite_nil]
  simp only [observe, merge, named, hmethods, hsuper, hinterfaces]

end Declaration

end SurfaceCoverage
