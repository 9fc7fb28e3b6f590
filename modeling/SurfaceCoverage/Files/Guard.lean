import SurfaceCoverage.Files.Path

/-!
# Guards

What stands in a file tree need not be within reach.  The system guards it: it may refuse to search
a directory, to read a file or to write one, and the device may be full before all of a text is
written.  A guard gives its answers by the place and by what is wanted there.
-/

namespace SurfaceCoverage

namespace Files

/-- The numbers of the errors by which a look-up tells that nothing is there. -/
def missingNumbers : List Nat := [2, 9, 20, 40]

/-- A refusal of the system: its error number and text, and whether the error names the path.  It
does not say that nothing is there. -/
structure Refusal where
  number : Nat
  text : String
  isNamed : Bool
  isNoMiss : number ∉ missingNumbers
  deriving Repr, DecidableEq

namespace Refusal

/-- The path or one of its names is too long. -/
def tooLong : Refusal :=
  ⟨36, "File name too long", true, by decide⟩

/-- The user lacks the permission. -/
def denied : Refusal :=
  ⟨13, "Permission denied", true, by decide⟩

/-- Nothing more fits on the device. -/
def deviceFull : Refusal :=
  ⟨28, "No space left on device", false, by decide⟩

end Refusal

/-- What is wanted of what stands in a tree: an entry of a directory is looked up, a link is
followed or read, a directory is listed, a file is read or written, a directory is made. -/
inductive Access where
  | find
  | follow
  | readLink
  | list
  | read
  | write
  | make
  deriving Repr, DecidableEq

/-- What the system refuses: some texts of paths, some accesses to what stands at a list of names,
and, of the bytes that are written to a file, all but the given number.  Other texts are forbidden
altogether, for a reason: they cannot be encoded. -/
structure Guard where
  forbids : String → Option String
  refusesText : String → Option Refusal
  refuses : Access → List String → Option Refusal
  cuts : List String → ByteArray → Option (Nat × Refusal)

namespace Guard

/-- The guard that refuses nothing. -/
def idle : Guard :=
  ⟨fun _ => none, fun _ => none, fun _ _ => none, fun _ _ => none⟩

/-- How many bytes a name may have. -/
def nameLimit : Nat := 255

/-- How many bytes the text of a path may have, and one more. -/
def textLimit : Nat := 4096

/-- The guard that refuses what is too long. -/
def usual : Guard :=
  { idle with
    refusesText := fun text => if text.utf8ByteSize < textLimit then none else some .tooLong
    refuses := fun access names =>
      if access = .find ∧ nameLimit < (names.getLast?.getD "").utf8ByteSize then some .tooLong
      else none }

/-- The guard that also refuses an access to what stands at some names. -/
def denying (g : Guard) (access : Access) (names : List String) : Guard :=
  { g with
    refuses := fun a n => if a = access ∧ n = names then some .denied else g.refuses a n }

end Guard

end Files

end SurfaceCoverage
