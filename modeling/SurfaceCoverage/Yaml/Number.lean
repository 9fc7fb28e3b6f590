import SurfaceCoverage.Calendar
import SurfaceCoverage.Decimal.Nearest
import SurfaceCoverage.Text.CaseMap
import SurfaceCoverage.Text.Quoted
import SurfaceCoverage.Yaml.Tag

/-!
# The values of scalars

A scalar with the tag of a number, a truth value or a time is read as one.  Low lines between the
digits of a number are dropped; a number with colons is written to the base sixty.
-/

namespace SurfaceCoverage

namespace Yaml

/-- Why a scalar has no value of the kind that its tag names. -/
inductive ValueFault where
  | time (error : Calendar.FieldError)
  | timeForm
  | whole (base : Nat) (text : String)
  | digits (count : Nat)
  | decimal (text : String)
  | emptyNumber
  | truth (text : String)
  deriving Repr, DecidableEq

/-- What is wrong with a scalar. -/
def ValueFault.message : ValueFault → String
  | .time error => error.message
  | .timeForm => "'NoneType' object has no attribute 'groupdict'"
  | .whole base text =>
      s!"invalid literal for int() with base {base}: {Text.quoted text}"
  | .digits count => Decimal.tooManyDigits count
  | .decimal text => s!"could not convert string to float: {Text.quoted text}"
  | .emptyNumber => "string index out of range"
  | .truth text => Text.quoted text

/-- The value of a character as a digit, if it is one below `base`. -/
def digitBelow? (base : Nat) (c : Char) : Option Nat :=
  ((Text.digitValue? c).or (hexDigit? c)).filter (· < base)

/-- The number that digits to a base write. -/
def digitsOf? (base : Nat) (cs : List Char) : Option Nat :=
  if cs.isEmpty then none
  else cs.foldl (fun n c => n.bind fun n => (digitBelow? base c).map fun d => n * base + d) (some 0)

/-- Drops the mark of a base in front of digits. -/
def dropBaseMark (base : Nat) (cs : List Char) : List Char :=
  match cs with
  | '0' :: m :: rest =>
      if (base = 2 ∧ (m = 'b' ∨ m = 'B')) ∨ (base = 8 ∧ (m = 'o' ∨ m = 'O')) ∨
          (base = 16 ∧ (m = 'x' ∨ m = 'X')) then rest
      else cs
  | _ => cs

/-- The whole number that a text writes to a base. -/
def readWhole (base : Nat) (cs : List Char) : Except ValueFault Int :=
  let body := (Text.trim (String.ofList cs)).toList
  let digits := dropBaseMark base (Tag.unsigned body)
  match digitsOf? base digits with
  | none => .error (.whole base (String.ofList cs))
  | some n =>
      if base = 10 ∧ Decimal.digitLimit < digits.length then .error (.digits digits.length)
      else .ok (if body.head? = some '-' then -(n : Int) else n)

/-- The floating-point number that a text in lower case writes. -/
def readDecimal (cs : List Char) : Except ValueFault Float :=
  let fault := ValueFault.decimal (String.ofList cs)
  let body := (Text.trim (String.ofList cs)).toList
  let negative := body.head? == some '-'
  let digits := Tag.unsigned body
  let plain (c : Char) : Char :=
    match Text.digitValue? c with
    | some d => Char.ofNat (48 + d)
    | none => c
  let digits := digits.map plain
  if ["inf".toList, "infinity".toList].contains digits then
    .ok (if negative then -(1.0 / 0.0) else 1.0 / 0.0)
  else if digits == "nan".toList then .ok (0.0 / 0.0)
  else
    let (whole, rest) := digits.span Char.isDigit
    let (places, rest) :=
      match rest with
      | '.' :: more => more.span Char.isDigit
      | _ => ([], rest)
    if whole.isEmpty && places.isEmpty then .error fault
    else
      match rest with
      | [] => .ok (Decimal.nearest negative (whole ++ places) (-places.length))
      | 'e' :: more =>
          let ds := Tag.unsigned more
          if ds.isEmpty || !ds.all Char.isDigit then .error fault
          else
            let n : Int := Decimal.digitsValue ds
            let e := if more.head? = some '-' then -n else n
            .ok (Decimal.nearest negative (whole ++ places) (e - places.length))
      | _ => .error fault

/-- Cuts a text at every colon. -/
def colonParts : List Char → List (List Char)
  | [] => [[]]
  | c :: rest =>
      match colonParts rest with
      | [] => [[c]]
      | part :: more => if c = ':' then [] :: part :: more else (c :: part) :: more

/-- The results of reading every part, or the first fault. -/
def readParts {α : Type} (read : List Char → Except ValueFault α) :
    List (List Char) → Except ValueFault (List α)
  | [] => .ok []
  | part :: rest =>
      match read part with
      | .error e => .error e
      | .ok a => (readParts read rest).map (a :: ·)

/-- The text of a number without low lines. -/
def withoutGaps (text : String) : List Char :=
  text.toList.filter (· ≠ '_')

/-- The whole number that a scalar writes. -/
def wholeOf (text : String) : Except ValueFault Int :=
  match withoutGaps text with
  | [] => .error .emptyNumber
  | c :: rest =>
      let body := if c = '-' ∨ c = '+' then rest else c :: rest
      let magnitude : Except ValueFault Int :=
        match body with
        | ['0'] => .ok 0
        | '0' :: 'b' :: ds => readWhole 2 ds
        | '0' :: 'x' :: ds => readWhole 16 ds
        | '0' :: _ => readWhole 8 body
        | [] => .error .emptyNumber
        | _ =>
            if body.contains ':' then
              (readParts (readWhole 10) (colonParts body)).map fun ns =>
                ns.foldl (fun n d => n * 60 + d) 0
            else readWhole 10 body
      magnitude.map fun n => if c = '-' then -n else n

/-- Adds up the places of a number to the base sixty, the last one first. -/
def addSixties (base sum : Float) : List Float → Float
  | [] => sum
  | d :: rest => addSixties (base * 60.0) (sum + d * base) rest

/-- The floating-point number that a scalar writes. -/
def decimalOf (text : String) : Except ValueFault Float :=
  match withoutGaps (Text.lower text) with
  | [] => .error .emptyNumber
  | c :: rest =>
      let body := if c = '-' ∨ c = '+' then rest else c :: rest
      let magnitude : Except ValueFault Float :=
        if body == ".inf".toList then .ok (1.0 / 0.0)
        else if body == ".nan".toList then .ok (0.0 / 0.0)
        else if body.contains ':' then
          (readParts readDecimal (colonParts body)).map fun xs => addSixties 1.0 0.0 xs.reverse
        else readDecimal body
      magnitude.map fun x => if c = '-' then -x else x

/-- The truth value that a word stands for. -/
def truthOf (text : String) : Except ValueFault Bool :=
  let word := Text.lower text
  if ["yes", "true", "on"].contains word then .ok true
  else if ["no", "false", "off"].contains word then .ok false
  else .error (.truth word)

/-- The millionths that the digits of a fraction write; further digits are dropped. -/
def microsOf (fraction : List Char) : Nat :=
  Decimal.digitsValue ((fraction ++ List.replicate 6 '0').take 6)

/-- A result of the calendar as a value of a scalar. -/
def fieldsOr {α : Type} : Except Calendar.FieldError α → Except ValueFault α
  | .ok a => .ok a
  | .error e => .error (.time e)

/-- The offset from universal time in minutes that a zone stands for. -/
def zoneOffset (zone : Option (Bool × List Char × List Char)) :
    Except Calendar.FieldError Int :=
  match zone with
  | none => .ok 0
  | some (negative, hours, minutes) =>
      let n : Int := Decimal.digitsValue hours * 60 + Decimal.digitsValue minutes
      Calendar.checkedOffset (if negative then -n else n)

/-- The date that a scalar writes, with the time of day if one is written. -/
def timeOf (text : String) :
    Except ValueFault (Calendar.Date × Option (Calendar.TimeOfDay × Option Int)) :=
  match Tag.timeFields? (Tag.dropLineFeed text.toList) with
  | none => .error .timeForm
  | some f =>
      let n := Decimal.digitsValue
      let date := Calendar.Date.checked (n f.year) (n f.month) (n f.day)
      match f.clock with
      | none => fieldsOr (date.map fun d => (d, none))
      | some (hour, minute, second, fraction) =>
          let offset : Except Calendar.FieldError (Option Int) :=
            match f.zone with
            | none => .ok none
            | some zone => (zoneOffset zone).map some
          fieldsOr do
            let offset ← offset
            let date ← date
            let time ← Calendar.TimeOfDay.checked (n hour) (n minute) (n second)
              (microsOf fraction)
            pure (date, some (time, offset))

end Yaml

end SurfaceCoverage
