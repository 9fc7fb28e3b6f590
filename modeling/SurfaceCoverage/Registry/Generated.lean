import SurfaceCoverage.Pattern.Reader
import SurfaceCoverage.Registry.Join

/-!
# Registrations in generated code

Generated code registers a target class under an identifier.  A pattern with the groups `id` and
`type` finds the registrations in the text; a group that takes no part in a match leaves its half
of the registration open.

**Results.**
* `registrationsOf_eq_ok`: with both groups there is a registration for each match.
-/

namespace SurfaceCoverage

namespace Registry

/-- The name of the group that finds the identifier. -/
def idGroup : String := "id"

/-- The name of the group that finds the target class. -/
def typeGroup : String := "type"

/-- The pattern lacks a group that is needed. -/
structure MissingGroup where
  name : String
  deriving Repr, DecidableEq

/-- What is wrong with the pattern. -/
def MissingGroup.message (_ : MissingGroup) : String :=
  "no such group"

/-- The registration that a match shows. -/
def registrationOf (id type : Nat) (m : Pattern.Point) : Registration :=
  ⟨Pattern.Named.groupText? id m, Pattern.Named.groupText? type m⟩

/-- The registrations that matches of a pattern show. -/
def registrationsOf (p : Pattern.Named) (found : List Pattern.Point) :
    Except MissingGroup (List Registration) :=
  if found.isEmpty then .ok []
  else
    match p.number? idGroup, p.number? typeGroup with
    | some id, some type => .ok (found.map (registrationOf id type))
    | none, _ => .error ⟨idGroup⟩
    | some _, none => .error ⟨typeGroup⟩

/-- The registrations in a text. -/
def registrations (p : Pattern.Named) (text : String) :
    Except MissingGroup (List Registration) :=
  registrationsOf p (p.expr.matches text.toList)

/-- A pattern with its two groups shows a registration for each match. -/
theorem registrationsOf_eq_ok {p : Pattern.Named} {id type : Nat}
    (hid : p.number? idGroup = some id) (htype : p.number? typeGroup = some type)
    (found : List Pattern.Point) :
    registrationsOf p found = .ok (found.map (registrationOf id type)) := by
  rw [registrationsOf]
  cases found with
  | nil => rfl
  | cons m found =>
    rw [List.isEmpty_cons, if_neg Bool.false_ne_true, hid, htype]

end Registry

end SurfaceCoverage
