import SurfaceCoverage.Calendar
import SurfaceCoverage.Decimal.Nearest
import SurfaceCoverage.Decimal.Shortest
import SurfaceCoverage.Text.Quoted

/-!
# The values of YAML documents

A document holds scalars of several kinds, sequences and mappings.  A mapping may have keys of any
scalar kind; two keys are one key when they are equal as values, and numbers are compared across
their kinds.

**Results.**
* `sameKey_text`: text keys are one key exactly when they are the same text.
-/

namespace SurfaceCoverage

namespace Yaml

/-- A value of a YAML document.  A mapping keeps the order in which its keys were first written, a
set that of its members; a pair is an entry of an ordered mapping.  A collection that contains
itself is a loop: its place tells it from other ones, and it stands among the collections of the
document that lie on loops, in which a loop has no such collections of its own. -/
inductive Value where
  | null
  | bool (b : Bool)
  | int (n : Int)
  | float (x : Float)
  | text (s : String)
  | bytes (b : List UInt8)
  | date (d : Calendar.Date)
  | dateTime (t : Calendar.DateTime)
  | list (items : List Value)
  | map (entries : List (Value × Value))
  | set (members : List Value)
  | pair (key value : Value)
  | loop (loops : List (Nat × Value)) (place : Nat)
  deriving Inhabited

mutual

/-- A value whose loops stand among the given collections. -/
def Value.attach (loops : List (Nat × Value)) : Value → Value
  | .list items => .list (attachAll loops items)
  | .map entries => .map (attachEntries loops entries)
  | .set members => .set (attachAll loops members)
  | .pair k v => .pair (k.attach loops) (v.attach loops)
  | .loop _ place => .loop loops place
  | v => v

/-- Values whose loops stand among the given collections. -/
def attachAll (loops : List (Nat × Value)) : List Value → List Value
  | [] => []
  | v :: rest => v.attach loops :: attachAll loops rest

/-- Entries whose loops stand among the given collections. -/
def attachEntries (loops : List (Nat × Value)) : List (Value × Value) → List (Value × Value)
  | [] => []
  | (k, v) :: rest => (k.attach loops, v.attach loops) :: attachEntries loops rest

end

/-- The collection that a loop is, and any other value itself. -/
def Value.opened : Value → Value
  | .loop loops place =>
      (((loops.find? fun l => l.1 = place).map Prod.snd).getD .null).attach loops
  | v => v

/-- The whole number that a floating-point number equals, if it is one. -/
def wholeFloat? (x : Float) : Option Int :=
  match Decimal.Double.ofFloat x with
  | .finite negative m e =>
      let f := Decimal.Fraction.ofBinary m e
      if f.num % f.den = 0 then
        let n : Int := ((f.num / f.den : Nat) : Int)
        some (if negative then -n else n)
      else none
  | _ => none

/-- The whole number that a value equals, if it is one. -/
def Value.whole? : Value → Option Int
  | .bool b => some (if b then 1 else 0)
  | .int n => some n
  | .float x => wholeFloat? x
  | _ => none

/-- Whether two scalars are the same key of a mapping. -/
def Value.sameKey (a b : Value) : Bool :=
  match a, b with
  | .text s, .text t => s == t
  | .null, .null => true
  | .bytes s, .bytes t => s == t
  | .date s, .date t => s == t
  | .dateTime s, .dateTime t => s.same t
  | a, b =>
      match a.whole?, b.whole? with
      | some m, some n => m == n
      | none, none =>
          match a, b with
          | .float x, .float y => x == y
          | _, _ => false
      | _, _ => false

@[simp]
theorem sameKey_text (s t : String) :
    (Value.text s).sameKey (.text t) = (s == t) :=
  rfl

/-- Whether a value can be a key: sequences, mappings and sets cannot. -/
def Value.isKey : Value → Bool
  | .list _ | .map _ | .set _ | .loop _ _ => false
  | .pair k v => k.isKey && v.isKey
  | _ => true

/-- Writes an entry: in place of the entry with the same key, at the end otherwise. -/
def putEntry (k v : Value) : List (Value × Value) → List (Value × Value)
  | [] => [(k, v)]
  | e :: rest => if e.1.sameKey k then (e.1, v) :: rest else e :: putEntry k v rest

/-- Whether a value is empty: nothing, no, zero or without parts. -/
def Value.isEmpty : Value → Bool
  | .null => true
  | .bool b => !b
  | .int n => n == 0
  | .float x => x == 0.0
  | .text s => s.isEmpty
  | .bytes b => b.isEmpty
  | .list items => items.isEmpty
  | .map entries => entries.isEmpty
  | .set members => members.isEmpty
  | .date _ | .dateTime _ | .pair _ _ | .loop _ _ => false

/-- The value that a mapping has for a text key. -/
def field? (key : String) (entries : List (Value × Value)) : Option Value :=
  (entries.find? fun e => e.1.sameKey (.text key)).map Prod.snd

/-- Why a value cannot be written out: a whole number in it has too many digits, or it is nested too
deeply. -/
inductive WriteFault where
  | digits
  | depth
  deriving Repr, DecidableEq

/-- Why a value cannot be written out, in words. -/
def WriteFault.message : WriteFault → String
  | .digits =>
      s!"Exceeds the limit ({Decimal.digitLimit} digits) for integer string conversion; " ++
        "use sys.set_int_max_str_digits() to increase the limit"
  | .depth => "maximum recursion depth exceeded while getting the repr of an object"

/-- A whole number in decimal digits, unless there are too many of them. -/
def wholeText (n : Int) : Except WriteFault String :=
  if Decimal.digitLimit < (toString n.natAbs).length then .error .digits else .ok (toString n)

/-- A value as the expression that makes it, if it is nested no deeper than `depth`.  Inside of the
loops at the places in `around` these are not written out again. -/
def Value.expressionWithin : Nat → List Nat → Value → Except WriteFault String
  | 0, _, _ => .error .depth
  | depth + 1, around, v =>
      match v with
      | .null => .ok "None"
      | .bool b => .ok (if b then "True" else "False")
      | .int n => wholeText n
      | .float x => .ok (Decimal.text x)
      | .text s => .ok (Text.quoted s)
      | .bytes b => .ok (Text.quotedBytes b)
      | .date d => .ok d.expression
      | .dateTime t => .ok t.expression
      | .list items => do
          let items ← items.mapM (expressionWithin depth around)
          return "[" ++ ", ".intercalate items ++ "]"
      | .map entries => do
          let entries ← entries.mapM fun e => do
            let key ← expressionWithin depth around e.1
            let value ← expressionWithin depth around e.2
            return key ++ ": " ++ value
          return "\x7b" ++ ", ".intercalate entries ++ "\x7d"
      | .set members => do
          let members ← members.mapM (expressionWithin depth around)
          return if members.isEmpty then "set()"
            else "\x7b" ++ ", ".intercalate members ++ "\x7d"
      | .pair key value => do
          let key ← expressionWithin depth around key
          let value ← expressionWithin depth around value
          return "(" ++ key ++ ", " ++ value ++ ")"
      | .loop loops place =>
          let isOpen := around.contains place
          match (Value.loop loops place).opened with
          | .map entries =>
              if isOpen then .ok "\x7b...\x7d"
              else expressionWithin depth (place :: around) (.map entries)
          | v => if isOpen then .ok "[...]" else expressionWithin depth (place :: around) v

/-- A value as the expression that makes it. -/
def Value.expression (depth : Nat) (v : Value) : Except WriteFault String :=
  v.expressionWithin depth []

/-- A value as text: texts and times as they are, the rest as expressions. -/
def Value.display (depth : Nat) : Value → Except WriteFault String
  | .text s => .ok s
  | .date d => .ok d.text
  | .dateTime t => .ok t.text
  | v => v.expression depth

end Yaml

end SurfaceCoverage
