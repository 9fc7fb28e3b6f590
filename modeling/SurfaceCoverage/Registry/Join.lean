import SurfaceCoverage.ClassMapping
import SurfaceCoverage.Registry.Normalization

/-!
# The registry join

A registry table gives the reference class of every identifier; generated registrations give the
target class.  The join maps a reference class to the target class that is registered under the
same identifier, up to normalization.  On each side the last entry for an identifier counts.
-/

namespace SurfaceCoverage

namespace Registry

/-- A reference class with its identifier. -/
structure TableEntry where
  id : String
  className : String
  deriving Repr, DecidableEq

/-- A registration in generated code; what the pattern did not find is missing. -/
structure Registration where
  id : Option String
  className : Option String
  deriving Repr, DecidableEq

/-- Why registrations cannot be joined: an identifier is missing that would have to change case. -/
structure MissingId where
  normalization : Normalization
  deriving Repr, DecidableEq

/-- What is wrong with the registrations. -/
def MissingId.message (e : MissingId) : String :=
  s!"'NoneType' object has no attribute '{e.normalization.text}'"

/-- The comparable identifier of a registration; without normalization it may be missing. -/
def normalizedId (n : Normalization) (r : Registration) : Except MissingId (Option String) :=
  match r.id with
  | some id => .ok (some (n.apply id))
  | none => if n = .none then .ok none else .error ⟨n⟩

/-- The registered target classes by comparable identifier; the last registration counts. -/
def targetsById (n : Normalization) :
    List Registration → Except MissingId (List (Option String × Option String))
  | [] => .ok []
  | r :: rest =>
      match normalizedId n r with
      | .error e => .error e
      | .ok id =>
          match targetsById n rest with
          | .error e => .error e
          | .ok pairs => .ok ((id, r.className) :: pairs)

/-- The target class that is registered for an identifier, if the last registration has one. -/
def targetFor (n : Normalization) (targets : OrderedMap (Option String) (Option String))
    (id : String) : Option String :=
  (targets.get? (some (n.apply id))).join

/-- The pairs of a reference class and its target class, in the order of the table. -/
def joined (n : Normalization) (targets : OrderedMap (Option String) (Option String))
    (entries : List TableEntry) : List (String × String) :=
  entries.filterMap fun e => (targetFor n targets e.id).map fun t => (e.className, t)

/-- Joins a table with registrations. -/
def join (n : Normalization) (entries : List TableEntry) (registrations : List Registration) :
    Except MissingId ClassMapping :=
  match targetsById n registrations with
  | .error e => .error e
  | .ok pairs => .ok ⟨OrderedMap.ofList (joined n (OrderedMap.ofList pairs) entries)⟩

end Registry

end SurfaceCoverage
