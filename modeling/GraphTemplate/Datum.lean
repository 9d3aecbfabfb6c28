import GraphTemplate.Binary64.Decimal
import GraphTemplate.DataType
import GraphTemplate.Value.Text

/-!
Scalar values of the data types. `ofValue?` tells whether a value has a data type as it is, and
`cast` converts values of other kinds. Patterns are matched against the canonical text of a datum:
numbers without exponents, moments in universal time to the second.
-/

namespace GraphTemplate

inductive Datum where
  | int (n : Int)
  | float (x : Binary64)
  | string (s : String)
  | bool (b : Bool)
  | datetime (m : Moment)
  deriving DecidableEq

namespace Datum

def scalar : Datum → Scalar
  | int _ => .int
  | float _ => .float
  | string _ => .string
  | bool _ => .bool
  | datetime _ => .datetime

def calendarOverflow : Fault := .outOfRange "date value out of range"

def toUniversal (m : Moment) : Except Fault Moment :=
  match m.toUniversal? with
  | some u => .ok u
  | none => .error calendarOverflow

def floatOfRatio (n : Int) (d : Nat) : Except Fault Binary64 :=
  let x := Binary64.ofRatio (decide (n < 0)) n.natAbs d
  if x.isInfinite then .error (.outOfRange "number too large to convert to float") else .ok x

/-- The datum that a value of the data type is; whole numbers are no floats and truth values are no
numbers. -/
def ofValue? (s : Scalar) (v : Value) : Except Fault (Option Datum) :=
  match s, v with
  | .int, .int n => .ok (some (int n))
  | .float, .float x _ => .ok (some (float x))
  | .float, .fraction n d => (floatOfRatio n d).map (some ∘ float)
  | .string, .text t => .ok (some (string t))
  | .bool, .bool b => .ok (some (bool b))
  | .datetime, .moment m => .ok (some (datetime m))
  | _, _ => .ok none

def canonicalText : Datum → Except Fault String
  | int n => Value.intText n
  | float x => .ok x.plainText
  | string s => .ok s
  | bool b => .ok (if b then "true" else "false")
  | datetime m => (toUniversal m).map Moment.zuluText

/-- Whether a datum equals the one that a restriction names. Moments are compared as instants. -/
def meets (d wanted : Datum) : Except Fault Bool :=
  match d, wanted with
  | int a, int b => .ok (a == b)
  | float a, float b => .ok (a.same b)
  | string a, string b => .ok (a == b)
  | bool a, bool b => .ok (a == b)
  | datetime a, datetime b => (toUniversal a).map (·.same b)
  | _, _ => .ok false

def malformedInteger (v : String) : Fault :=
  .badValue ("invalid literal for int() with base 10: " ++ v)

def malformedFloat (v : String) : Fault := .badValue ("could not convert string to float: " ++ v)

def integerOf (cs : List Char) (shown : String) : Except Fault Int :=
  match readInteger cs with
  | .ok n => .ok n
  | .error .malformed => .error (malformedInteger shown)
  | .error (.tooLong n) => .error (.integerTooLong (some n))

def floatOf (cs : List Char) (shown : String) : Except Fault Binary64 :=
  match readBinary64? cs with
  | some x => .ok x
  | none => .error (malformedFloat shown)

/-- Octets as characters for reading numbers, which are written in ASCII alone. -/
def numeralChars (octets : List Nat) : List Char :=
  octets.map fun n => if n < 128 then Char.ofNat n else '\uFFFD'

def toInteger : Value → Except Fault Int
  | .bool b => .ok (if b then 1 else 0)
  | .int n => .ok n
  | .float x _ =>
    if x.isFinite then .ok x.truncate
    else if x.isNaN then .error (.badValue "cannot convert float NaN to integer")
    else .error (.outOfRange "cannot convert float infinity to integer")
  | .decimal d _ =>
    match d.truncate? with
    | some n => .ok n
    | none =>
      if d.isNaN then .error (.badValue "cannot convert NaN to integer")
      else .error (.outOfRange "cannot convert Infinity to integer")
  | .fraction n d => .ok (Int.tdiv n d)
  | .text s => integerOf s.toList (quoted s)
  | .bytes m octets => integerOf (numeralChars octets) (Value.octetsText m octets)
  | _ => .error .wrongKind

def toFloat : Value → Except Fault Binary64
  | .bool b => .ok (.ofInt (if b then 1 else 0))
  | .int n => floatOfRatio n 1
  | .float x _ => .ok x
  | .decimal (.nan _ signaling _) _ =>
    if signaling then .error (.badValue "cannot convert signaling NaN to float") else .ok .nan
  | .decimal d _ => floatOf d.text.toList (quoted d.text)
  | .fraction n d => floatOfRatio n d
  | .text s => floatOf s.toList (quoted s)
  | .bytes m octets => floatOf (numeralChars octets) (Value.octetsText m octets)
  | _ => .error .wrongKind

/-- A value converted to a data type; what is no moment is converted to text. -/
def cast (t : DataType) (v : Value) : Except Fault Datum :=
  match t, v with
  | .scalar .bool, v => .ok (bool v.isTruthy)
  | .scalar .int, v => (toInteger v).map int
  | .scalar .float, v => (toFloat v).map float
  | .scalar .datetime, .moment m => .ok (datetime m)
  | _, v => v.toText.map string

theorem scalar_of_ofValue? {s : Scalar} {v : Value} {d : Datum}
    (h : ofValue? s v = .ok (some d)) : d.scalar = s := by
  unfold ofValue? at h
  split at h <;> try (simp only [Except.ok.injEq, Option.some.injEq, reduceCtorEq] at h)
  all_goals try (subst h; rfl)
  unfold floatOfRatio at h
  dsimp only at h
  split at h
  · cases h
  · cases h; rfl

end Datum

end GraphTemplate
