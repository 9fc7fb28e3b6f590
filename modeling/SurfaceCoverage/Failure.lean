import SurfaceCoverage.Analysis

/-!
# Kinds of failures

Some failures are refusals: the settings, the tables or the registry of the project are not in
order.  Some are values or files that do not exist.  All others are unforeseen, and their messages
may not say enough.
-/

namespace SurfaceCoverage

/-- How far a failure is foreseen. -/
inductive FailureKind where
  | refusal
  | invalid
  | unforeseen
  deriving Repr, DecidableEq

/-- The kind of a failed operation on a file. -/
def Files.FileError.kind (e : Files.FileError) : FailureKind :=
  match e.cause with
  | .notFound | .noCurrent | .unfit _ => .invalid
  | _ => .unforeseen

/-- The kind of a path that leads nowhere. -/
def Files.PathError.kind : Files.PathError → FailureKind
  | .unfit _ => .invalid
  | .file e => e.kind
  | _ => .unforeseen

/-- The kind of a file that cannot be opened for reading settings, tables or the registry. -/
def Files.FileError.kindOfReading (e : Files.FileError) : FailureKind :=
  if e.cause.isUnfit then .invalid else .refusal

/-- The kind of a text that cannot be read. -/
def Yaml.Error.kind : Yaml.Error → FailureKind
  | .malformed (.badCodePoint n) => if n < Yaml.Fault.codeLimit then .invalid else .unforeseen
  | .malformed .loneHalf => .invalid
  | .malformed _ => .refusal
  | .value .timeForm | .value .emptyNumber | .value (.truth _) => .unforeseen
  | .value _ => .invalid
  | .broken _ => .unforeseen

/-- The kind of a value that cannot be written out. -/
def Yaml.WriteFault.kind : Yaml.WriteFault → FailureKind
  | .digits => .invalid
  | .depth => .unforeseen

/-- The kind of a family that is refused. -/
def Registry.FamilyError.kind : Registry.FamilyError → FailureKind
  | .unwritable fault => fault.kind
  | .badPattern _ .hugeBound | .badPattern _ .tooDeep => .unforeseen
  | .badPattern _ .opposedFlags => .invalid
  | _ => .refusal

/-- The kind of settings that are refused. -/
def Settings.ReadError.kind : Settings.ReadError → FailureKind
  | .badPath e => e.kind
  | .unreadable _ e => e.kindOfReading
  | .yaml _ e => e.kind
  | .unwritable fault => fault.kind
  | .family e => e.kind
  | _ => .refusal

/-- The kind of method tables that are refused. -/
def MethodTables.ReadError.kind : MethodTables.ReadError → FailureKind
  | .unreadable _ e => e.kindOfReading
  | .yaml _ e => e.kind
  | .unwritable fault | .table (.unwritable fault) => fault.kind
  | _ => .refusal

/-- The kind of a registry that gives no mappings. -/
def Registry.ResolveError.kind : Registry.ResolveError → FailureKind
  | .unreadable _ e => e.kindOfReading
  | .notJson _ e =>
      match e.cause with
      | .digits _ => .invalid
      | _ => .refusal
  | .badPath e => e.kind
  | .lacksGroup _ | .lacksId _ => .unforeseen
  | _ => .refusal

/-- The kind of a grammar that is not there. -/
def GrammarError.kind : GrammarError → FailureKind
  | .unknown _ _ | .notInstalled _ => .invalid
  | _ => .unforeseen

/-- The kind of a side that cannot be extracted. -/
def Extraction.SideError.kind : Extraction.SideError → FailureKind
  | .grammar e => e.kind
  | .root e => e.kind

/-- The kind of an analysis that fails. -/
def AnalysisError.kind : AnalysisError → FailureKind
  | .settings e => e.kind
  | .tables e => e.kind
  | .registry e => e.kind
  | .side e => e.kind
  | .report e => e.kind

end SurfaceCoverage
