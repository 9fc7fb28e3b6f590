import SurfaceCoverage.CommandLine.Form
import SurfaceCoverage.Text.CharProperty
import SurfaceCoverage.Text.Quoted

/-!
# The words of a command line

A word is an option if a form has it, in full or as the start of just one long spelling, or if it
looks like one.  Two dashes end the options.  A switch may have further switches behind its letter,
and a setting may have its value behind an equals sign.

**Results.**
* `map_fst_rolesOf`: every word has a role.
-/

namespace SurfaceCoverage

namespace CommandLine

/-- Why a command line is refused. -/
inductive UsageError where
  | ambiguous (word : String) (fitting : List String)
  | needlessValue (spellings : List String) (value : String)
  | lacksValue (spellings : List String)
  | noCommand
  | unknownCommand (word : String)
  | unrecognized (words : List String)
  deriving Repr, DecidableEq

/-- Why a command line is refused, in words. -/
def UsageError.message : UsageError → String
  | .ambiguous word fitting =>
      s!"ambiguous option: {word} could match " ++ ", ".intercalate fitting
  | .needlessValue spellings value =>
      "argument " ++ "/".intercalate spellings ++ ": ignored explicit argument " ++
        Text.quoted value
  | .lacksValue spellings =>
      "argument " ++ "/".intercalate spellings ++ ": expected one argument"
  | .noCommand => "the following arguments are required: command"
  | .unknownCommand word =>
      "argument command: invalid choice: " ++ Text.quoted word ++ " (choose from " ++
        ", ".intercalate (Command.all.map fun c => Text.quoted c.text) ++ ")"
  | .unrecognized words => "unrecognized arguments: " ++ " ".intercalate words

/-- What is attached to an option within its word. -/
inductive Attached where
  | nothing
  | value (v : String)
  | letters (cs : List Char)
  deriving Repr, DecidableEq

/-- What a word is. -/
inductive Role where
  | plain
  | dashes
  | option (effect : Effect) (attached : Attached)
  | unknown
  deriving Repr, DecidableEq

/-- Cuts a text at the first equals sign. -/
def cutAtEquals (cs : List Char) : Option (List Char × List Char) :=
  if '=' ∈ cs then some (cs.takeWhile (· ≠ '='), (cs.dropWhile (· ≠ '=')).drop 1)
  else none

/-- The options of which a word may be the start, each with its spelling. -/
def candidates (f : Form) (cs : List Char) : List (String × Role) :=
  match cs with
  | '-' :: '-' :: _ =>
      let (start, attached) :=
        match cutAtEquals cs with
        | some (start, v) => (start, Attached.value (String.ofList v))
        | none => (cs, .nothing)
      (f.options.filter fun o => start.isPrefixOf o.1.toList).map fun o =>
        (o.1, .option o.2 attached)
  | '-' :: c :: rest =>
      f.options.filterMap fun o =>
        if o.1.toList = ['-', c] then some (o.1, .option o.2 (.letters rest))
        else if cs.isPrefixOf o.1.toList then some (o.1, .option o.2 .nothing)
        else none
  | _ => []

/-- Whether a text is a negative number. -/
def isNegativeNumber (cs : List Char) : Bool :=
  let digits (l : List Char) : Bool := l.all fun c => (Text.digitValue? c).isSome
  let body := match cs.getLast? with
    | some '\n' => cs.dropLast
    | _ => cs
  match body with
  | '-' :: rest =>
      let whole := rest.takeWhile (· ≠ '.')
      match rest.dropWhile (· ≠ '.') with
      | [] => digits whole && !whole.isEmpty
      | _ :: part => digits whole && digits part && !part.isEmpty
  | _ => false

/-- The role of a word that has a spelling in front of an equals sign. -/
def roleOfAssigned? (f : Form) (cs : List Char) : Option Role :=
  (cutAtEquals cs).bind fun p =>
    (f.effect? (String.ofList p.1)).map fun e => .option e (.value (String.ofList p.2))

/-- The role of a word that starts with a dash and is no spelling of an option. -/
def roleOfDashed (f : Form) (word : String) : Except UsageError Role :=
  let cs := word.toList
  match roleOfAssigned? f cs with
  | some role => .ok role
  | none =>
      match candidates f cs with
      | [(_, role)] => .ok role
      | [] => .ok (if isNegativeNumber cs || cs.contains ' ' then .plain else .unknown)
      | many => .error (.ambiguous word (many.map Prod.fst))

/-- The role of a word other than the two dashes. -/
def roleOf (f : Form) (word : String) : Except UsageError Role :=
  if word.toList.head? ≠ some '-' then .ok .plain
  else
    match f.effect? word with
    | some effect => .ok (.option effect .nothing)
    | none => if word = "-" then .ok .plain else roleOfDashed f word

/-- Words with their roles. -/
abbrev Words := List (String × Role)

/-- The words with their roles; behind two dashes all words are plain. -/
def rolesOf (f : Form) : List String → Except UsageError Words
  | [] => .ok []
  | word :: rest =>
      if word = "--" then .ok ((word, .dashes) :: rest.map fun w => (w, .plain))
      else
        match roleOf f word with
        | .error e => .error e
        | .ok role => (rolesOf f rest).map ((word, role) :: ·)

/-- What a word with switches stands for: the switches, and what is left of the word. -/
abbrev Switches := List Switch × Option String

/-- The switches that are written as letters behind a switch; from a letter without one on, the
rest of the word is left over. -/
def lettersOf (f : Form) (before : Switch) : List Char → Except UsageError Switches
  | [] => .ok ([], none)
  | c :: rest =>
      if c = '-' then
        .error (.needlessValue (f.spellings (.switch before)) (String.ofList (c :: rest)))
      else
        match f.effect? (String.ofList ['-', c]) with
        | none => .ok ([], some (String.ofList ('-' :: c :: rest)))
        | some (.setting s) => .error (.lacksValue (f.spellings (.setting s)))
        | some (.switch s) =>
            if rest.head? = some '=' then
              .error (.needlessValue (f.spellings (.switch s)) (String.ofList (rest.drop 1)))
            else (lettersOf f s rest).map fun more => (s :: more.1, more.2)

/-- The switches that a switch stands for, together with what is attached to it. -/
def switchesOf (f : Form) (s : Switch) (attached : Attached) : Except UsageError Switches :=
  match attached with
  | .nothing => .ok ([s], none)
  | .value v => .error (.needlessValue (f.spellings (.switch s)) v)
  | .letters cs => (lettersOf f s cs).map fun more => (s :: more.1, more.2)

theorem map_fst_rolesOf (f : Form) {words : List String} {roles : Words}
    (h : rolesOf f words = .ok roles) :
    roles.map Prod.fst = words := by
  induction words generalizing roles with
  | nil =>
    simp only [rolesOf, Except.ok.injEq] at h
    simp [← h]
  | cons word rest ih =>
    unfold rolesOf at h
    split at h
    · cases h
      simp [Function.comp_def]
    · split at h
      · cases h
      · cases hr : rolesOf f rest with
        | error e => simp [hr, Except.map] at h
        | ok more =>
          simp only [hr, Except.map, Except.ok.injEq] at h
          simp [← h, ih hr]

end CommandLine

end SurfaceCoverage
