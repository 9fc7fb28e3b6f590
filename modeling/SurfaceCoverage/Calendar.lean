/-!
# Dates and times of day

Dates of the Gregorian calendar, and dates with a time of day and possibly an offset from universal
time.  A date that no calendar has is refused with the first field that is out of range.

**Results.**
* `Date.checked_eq_ok_iff`: exactly the dates with a month and a day of that month are accepted.
-/

namespace SurfaceCoverage

namespace Calendar

/-- Why fields make no date or time. -/
inductive FieldError where
  | year (value : Nat)
  | month
  | day
  | hour
  | minute
  | second
  | offset (minutes : Int)
  deriving Repr, DecidableEq

/-- The text of a duration of whole minutes, as days and seconds. -/
def durationText (minutes : Int) : String :=
  let days := minutes.fdiv 1440
  let seconds := minutes.fmod 1440 * 60
  let parts :=
    (if days = 0 then [] else [s!"days={days}"]) ++
      (if seconds = 0 then [] else [s!"seconds={seconds}"])
  "datetime.timedelta(" ++ (if parts.isEmpty then "0" else ", ".intercalate parts) ++ ")"

/-- What is wrong with the fields. -/
def FieldError.message : FieldError → String
  | .year value => s!"year {value} is out of range"
  | .month => "month must be in 1..12"
  | .day => "day is out of range for month"
  | .hour => "hour must be in 0..23"
  | .minute => "minute must be in 0..59"
  | .second => "second must be in 0..59"
  | .offset minutes =>
      "offset must be a timedelta strictly between -timedelta(hours=24) and " ++
        s!"timedelta(hours=24), not {durationText minutes}."

/-- Whether a year has a 29th of February. -/
def isLeap (year : Nat) : Bool :=
  year % 4 == 0 && (year % 100 != 0 || year % 400 == 0)

/-- The number of days of a month. -/
def daysInMonth (year month : Nat) : Nat :=
  match month with
  | 2 => if isLeap year then 29 else 28
  | 4 | 6 | 9 | 11 => 30
  | _ => 31

/-- A date. -/
structure Date where
  year : Nat
  month : Nat
  day : Nat
  deriving Repr, DecidableEq

/-- A time of day. -/
structure TimeOfDay where
  hour : Nat
  minute : Nat
  second : Nat
  micros : Nat
  deriving Repr, DecidableEq

/-- A date with a time of day, and the offset from universal time in minutes if it is known. -/
structure DateTime where
  date : Date
  time : TimeOfDay
  offset : Option Int
  deriving Repr, DecidableEq

/-- The date with the given fields, if there is one. -/
def Date.checked (year month day : Nat) : Except FieldError Date :=
  if year = 0 then .error (.year year)
  else if month = 0 ∨ 12 < month then .error .month
  else if day = 0 ∨ daysInMonth year month < day then .error .day
  else .ok ⟨year, month, day⟩

theorem Date.checked_eq_ok_iff (year month day : Nat) (d : Date) :
    Date.checked year month day = .ok d ↔
      d = ⟨year, month, day⟩ ∧ 0 < year ∧ (0 < month ∧ month ≤ 12) ∧
        (0 < day ∧ day ≤ daysInMonth year month) := by
  unfold Date.checked
  split
  · simp; omega
  · split
    · simp; omega
    · split
      · simp; omega
      · simp only [Except.ok.injEq]
        constructor
        · rintro rfl
          exact ⟨rfl, by omega, by omega, by omega⟩
        · rintro ⟨rfl, -⟩
          rfl

/-- The time of day with the given fields, if there is one. -/
def TimeOfDay.checked (hour minute second micros : Nat) : Except FieldError TimeOfDay :=
  if 23 < hour then .error .hour
  else if 59 < minute then .error .minute
  else if 59 < second then .error .second
  else .ok ⟨hour, minute, second, micros⟩

/-- An offset of less than a day. -/
def checkedOffset (minutes : Int) : Except FieldError Int :=
  if minutes.natAbs < 1440 then .ok minutes else .error (.offset minutes)

/-- Days since the start of the calendar. -/
def Date.dayNumber (d : Date) : Nat :=
  let y := d.year - 1
  let before := (List.range (d.month - 1)).foldl (fun n m => n + daysInMonth d.year (m + 1)) 0
  y * 365 + y / 4 - y / 100 + y / 400 + before + d.day

/-- The instant in millionths of a second, on the clock of universal time. -/
def DateTime.instant (t : DateTime) (offset : Int) : Int :=
  let minutes : Int := (t.date.dayNumber * 1440 + t.time.hour * 60 + t.time.minute : Nat)
  ((minutes - offset) * 60 + t.time.second) * 1000000 + t.time.micros

/-- Whether two times name one instant; a time with an offset never equals one without. -/
def DateTime.same (a b : DateTime) : Bool :=
  match a.offset, b.offset with
  | none, none => a == b
  | some x, some y => a.instant x == b.instant y
  | _, _ => false

/-- A number with at least `width` digits. -/
def padded (width n : Nat) : String :=
  let ds := Nat.toDigits 10 n
  String.ofList (List.replicate (width - ds.length) '0' ++ ds)

/-- A date as year, month and day with hyphens. -/
def Date.text (d : Date) : String :=
  s!"{padded 4 d.year}-{padded 2 d.month}-{padded 2 d.day}"

/-- A date as the expression that makes it. -/
def Date.expression (d : Date) : String :=
  s!"datetime.date({d.year}, {d.month}, {d.day})"

/-- The hours and minutes of an offset, with its sign. -/
def offsetText (minutes : Int) : String :=
  let sign := if minutes < 0 then "-" else "+"
  let n := minutes.natAbs
  s!"{sign}{padded 2 (n / 60)}:{padded 2 (n % 60)}"

/-- A time as its date, a blank and its clock time. -/
def DateTime.text (t : DateTime) : String :=
  let clock := s!"{padded 2 t.time.hour}:{padded 2 t.time.minute}:{padded 2 t.time.second}"
  let fraction := if t.time.micros = 0 then "" else "." ++ padded 6 t.time.micros
  t.date.text ++ " " ++ clock ++ fraction ++
    (match t.offset with
      | none => ""
      | some m => offsetText m)

/-- A time as the expression that makes it; seconds and their fractions show only when needed. -/
def DateTime.expression (t : DateTime) : String :=
  let d := t.date
  let seconds :=
    if t.time.micros ≠ 0 then [toString t.time.second, toString t.time.micros]
    else if t.time.second ≠ 0 then [toString t.time.second]
    else []
  let zone :=
    match t.offset with
    | none => []
    | some 0 => ["tzinfo=datetime.timezone.utc"]
    | some m => [s!"tzinfo=datetime.timezone({durationText m})"]
  let fields :=
    [toString d.year, toString d.month, toString d.day, toString t.time.hour,
      toString t.time.minute] ++ seconds ++ zone
  "datetime.datetime(" ++ ", ".intercalate fields ++ ")"

end Calendar

end SurfaceCoverage
