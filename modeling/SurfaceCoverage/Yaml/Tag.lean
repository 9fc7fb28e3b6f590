import SurfaceCoverage.Calendar
import SurfaceCoverage.Decimal.Nearest
import SurfaceCoverage.Yaml.Scalar

/-!
# Tags of plain scalars

A tag says what kind of value a node stands for.  A plain scalar without a tag gets one from its
form: a truth value, a number, a time, nothing, or else a text.
-/

namespace SurfaceCoverage

namespace Yaml

/-- The kinds of values that tags name. -/
inductive Tag where
  | null
  | bool
  | int
  | float
  | binary
  | timestamp
  | orderedMap
  | pairs
  | set
  | str
  | seq
  | map
  | merge
  | value
  | other (name : String)
  deriving Repr, DecidableEq

namespace Tag

/-- What the standard tags start with. -/
def standard : String := "tag:yaml.org,2002:"

/-- The standard tags by the words behind their common start. -/
def words : List (String × Tag) :=
  [("null", .null), ("bool", .bool), ("int", .int), ("float", .float), ("binary", .binary),
    ("timestamp", .timestamp), ("omap", .orderedMap), ("pairs", .pairs), ("set", .set),
    ("str", .str), ("seq", .seq), ("map", .map), ("merge", .merge), ("value", .value)]

/-- The tag with the given full name. -/
def ofName (name : String) : Tag :=
  ((words.find? fun w => standard ++ w.1 = name).map Prod.snd).getD (.other name)

/-- The words for truth values, in any of three ways of writing them. -/
def truthWords : List String :=
  ["yes", "Yes", "YES", "no", "No", "NO", "true", "True", "TRUE", "false", "False", "FALSE",
    "on", "On", "ON", "off", "Off", "OFF"]

/-- The words for no value. -/
def nullWords : List String :=
  ["", "~", "null", "Null", "NULL"]

/-- Drops a sign. -/
def unsigned (cs : List Char) : List Char :=
  match cs with
  | '-' :: rest => rest
  | '+' :: rest => rest
  | _ => cs

/-- Whether a character is a digit or a low line. -/
def isDigitOrGap (c : Char) : Bool :=
  c.isDigit || c == '_'

/-- Whether a text starts with a digit and goes on with digits and low lines. -/
def isDigits (cs : List Char) : Bool :=
  cs.head?.any Char.isDigit && cs.all isDigitOrGap

/-- Whether a text is nothing or an exponent: a letter, a sign and digits. -/
def isExponent (cs : List Char) : Bool :=
  match cs with
  | [] => true
  | e :: sign :: ds =>
      (e == 'e' || e == 'E') && (sign == '-' || sign == '+') && !ds.isEmpty && ds.all Char.isDigit
  | _ => false

/-- What may stand next in places of base sixty. -/
inductive Sixty where
  | colon
  | first
  | second
  | done
  deriving Repr, DecidableEq

/-- What follows places of base sixty at the front, each a colon and a number below sixty. -/
def afterSixtiesFrom? (s : Sixty) : List Char → Option (List Char)
  | [] => if s = .second ∨ s = .done then some [] else none
  | c :: rest =>
      match s with
      | .colon => if c = ':' then afterSixtiesFrom? .first rest else none
      | .first =>
          if '0' ≤ c ∧ c ≤ '5' then afterSixtiesFrom? .second rest
          else if c.isDigit then afterSixtiesFrom? .done rest
          else none
      | .second =>
          if c.isDigit then afterSixtiesFrom? .done rest
          else if c = ':' then afterSixtiesFrom? .first rest
          else some (c :: rest)
      | .done => if c = ':' then afterSixtiesFrom? .first rest else some (c :: rest)

/-- What follows one or more places of base sixty at the front. -/
def afterSixties? (cs : List Char) : Option (List Char) :=
  afterSixtiesFrom? .colon cs

/-- Whether a text has the form of a floating-point number. -/
def isFloatForm (cs : List Char) : Bool :=
  let body := unsigned cs
  let whole := body.takeWhile isDigitOrGap
  let rest := body.dropWhile isDigitOrGap
  let decimal :=
    match rest with
    | '.' :: more => isDigits whole && isExponent (more.dropWhile isDigitOrGap)
    | _ => false
  let fraction :=
    match cs with
    | '.' :: more =>
        more.head?.any Char.isDigit && isExponent (more.dropWhile isDigitOrGap)
    | _ => false
  let sixties :=
    isDigits whole &&
      (match afterSixties? rest with
        | some ('.' :: more) => more.all isDigitOrGap
        | _ => false)
  decimal || fraction || sixties ||
    [".inf", ".Inf", ".INF"].contains (String.ofList body) ||
    [".nan", ".NaN", ".NAN"].contains (String.ofList cs)

/-- Whether a text has the form of a whole number. -/
def isIntForm (cs : List Char) : Bool :=
  let body := unsigned cs
  match body with
  | '0' :: 'b' :: ds => !ds.isEmpty && ds.all fun c => c == '0' || c == '1' || c == '_'
  | '0' :: 'x' :: ds => !ds.isEmpty && ds.all fun c => (hexDigit? c).isSome || c == '_'
  | '0' :: ds => ds.all fun c => ('0' ≤ c && c ≤ '7') || c == '_'
  | c :: rest =>
      c.isDigit &&
        (rest.all isDigitOrGap ||
          (match afterSixties? (rest.dropWhile isDigitOrGap) with
            | some [] => true
            | _ => false))
  | [] => false

/-- The fields of a written time. -/
structure TimeFields where
  year : List Char
  month : List Char
  day : List Char
  clock : Option (List Char × List Char × List Char × List Char)
  zone : Option (Option (Bool × List Char × List Char))

/-- One or two digits at the front, and what follows them. -/
def shortNumber? (cs : List Char) : Option (List Char × List Char) :=
  match cs with
  | a :: b :: rest =>
      if a.isDigit && b.isDigit then some ([a, b], rest)
      else if a.isDigit then some ([a], b :: rest)
      else none
  | [a] => if a.isDigit then some ([a], []) else none
  | [] => none

/-- Two digits at the front, and what follows them. -/
def twoDigits? (cs : List Char) : Option (List Char × List Char) :=
  match cs with
  | a :: b :: rest => if a.isDigit && b.isDigit then some ([a, b], rest) else none
  | _ => none

/-- What follows a character at the front. -/
def after? (c : Char) (cs : List Char) : Option (List Char) :=
  match cs with
  | x :: rest => if x = c then some rest else none
  | [] => none

/-- The offset from universal time at the end of a written time. -/
def zone? (cs : List Char) : Option (Option (Option (Bool × List Char × List Char))) :=
  if cs.isEmpty then some none
  else
    match cs.dropWhile fun c => c == ' ' || c == '\t' with
    | ['Z'] => some (some none)
    | sign :: rest =>
        if sign == '-' || sign == '+' then
          match shortNumber? rest with
          | some (hours, []) => some (some (some (sign == '-', hours, [])))
          | some (hours, ':' :: more) =>
              match twoDigits? more with
              | some (minutes, []) => some (some (some (sign == '-', hours, minutes)))
              | _ => none
          | _ => none
        else none
    | [] => none

/-- The fields of a time of day and of the offset behind it. -/
def clock? (cs : List Char) :
    Option ((List Char × List Char × List Char × List Char) ×
      Option (Option (Bool × List Char × List Char))) := do
  let (hour, cs) ← shortNumber? cs
  let (minute, cs) ← (after? ':' cs).bind twoDigits?
  let (second, cs) ← (after? ':' cs).bind twoDigits?
  let (fraction, cs) :=
    match cs with
    | '.' :: rest => rest.span Char.isDigit
    | _ => ([], cs)
  let zone ← zone? cs
  pure ((hour, minute, second, fraction), zone)

/-- The fields of a written time. -/
def timeFields? (cs : List Char) : Option TimeFields := do
  let year := cs.take 4
  if year.length = 4 ∧ year.all Char.isDigit then
    let (month, cs) ← (after? '-' (cs.drop 4)).bind shortNumber?
    let (day, cs) ← (after? '-' cs).bind shortNumber?
    match cs with
    | [] => pure ⟨year, month, day, none, none⟩
    | c :: rest =>
        let rest ←
          if c == 'T' || c == 't' then some rest
          else if c == ' ' || c == '\t' then
            some (rest.dropWhile fun c => c == ' ' || c == '\t')
          else none
        let (clock, zone) ← clock? rest
        pure ⟨year, month, day, some clock, zone⟩
  else
    none

/-- Whether a text has the form of a time; a date alone has two digits for month and day. -/
def isTimeForm (cs : List Char) : Bool :=
  match timeFields? cs with
  | some f => f.clock.isSome || (f.month.length == 2 && f.day.length == 2)
  | none => false

/-- The text without a line feed at its end. -/
def dropLineFeed (cs : List Char) : List Char :=
  if cs.getLast? = some '\n' then cs.dropLast else cs

/-- The tag that the form of a plain scalar tells. -/
def ofForm (text : String) : Tag :=
  let cs := dropLineFeed text.toList
  let s := String.ofList cs
  if text.isEmpty then .null
  else if truthWords.contains s then .bool
  else if isFloatForm cs then .float
  else if isIntForm cs then .int
  else if s = "<<" then .merge
  else if !s.isEmpty && nullWords.contains s then .null
  else if isTimeForm cs then .timestamp
  else if s = "=" then .value
  else .str

end Tag

end Yaml

end SurfaceCoverage
