import GraphTemplate.DecimalNumber
import GraphTemplate.Moment

/-!
Values that templates are matched against. A value keeps everything that a verdict or a message can
depend on: its kind, and for values without equality of their own which object it is.
-/

namespace GraphTemplate

inductive SequenceKind where
  | list
  | tuple
  | deque
  deriving DecidableEq

inductive MappingKind where
  | plain
  | ordered
  /-- A class of mappings with a name of its own. -/
  | named (name : String)
  deriving DecidableEq

inductive RecordKind where
  | dataclass
  | namedTuple
  | object
  | nameless
  deriving DecidableEq

inductive Special where
  | function
  | module
  | plainClass
  | dataclassClass
  | object (identity : Nat)
  /-- A collection inside itself. -/
  | endless (isMapping : Bool)
  deriving DecidableEq

/-- `identity` tells apart values that are equal only to themselves. -/
inductive Value where
  | null
  | bool (b : Bool)
  | int (n : Int)
  | float (x : Binary64) (identity : Nat)
  | decimal (d : DecimalNumber) (identity : Nat)
  | fraction (numerator : Int) (denominator : Nat)
  | text (s : String)
  | bytes (isMutable : Bool) (octets : List Nat)
  | date (d : Date)
  | moment (m : Moment)
  | range (start stop step : Int)
  | sequence (kind : SequenceKind) (items : List Value)
  | set (frozen : Bool) (items : List Value)
  | mapping (kind : MappingKind) (entries : List (Value × Value))
  | record (kind : RecordKind) (name : String) (identity : Nat) (fields : List (String × Value))
  | special (s : Special)

namespace Value

def ofRatio (numerator : Int) (denominator : Nat) : Value :=
  let g := Nat.gcd numerator.natAbs denominator
  .fraction (numerator / g) (denominator / g)

/-- The number of terms of an arithmetic progression that stops before `stop`. -/
def rangeLength (start stop step : Int) : Nat :=
  if 0 < step then ((stop - start + step - 1) / step).toNat
  else if step < 0 then ((start - stop - step - 1) / -step).toNat
  else 0

def rangeItems (start stop step : Int) : List Int :=
  (List.range (rangeLength start stop step)).map fun (i : Nat) => start + i * step

/-- The elements of an ordered sequence; texts and octet strings do not count as sequences. -/
def elements? : Value → Option (List Value)
  | sequence _ items => some items
  | range a b s => some ((rangeItems a b s).map .int)
  | bytes true octets => some (octets.map fun (n : Nat) => .int n)
  | record .namedTuple _ _ fields => some (fields.map Prod.snd)
  | _ => none

def entries? : Value → Option (List (Value × Value))
  | mapping _ entries => some entries
  | _ => none

def isTruthy : Value → Bool
  | null => false
  | bool b => b
  | int n => n != 0
  | float x _ => !x.isZero
  | decimal d _ => !d.isZero
  | fraction n _ => n != 0
  | text s => !s.isEmpty
  | bytes _ octets => !octets.isEmpty
  | range a b s => rangeLength a b s != 0
  | sequence _ items => !items.isEmpty
  | set _ items => !items.isEmpty
  | mapping _ entries => !entries.isEmpty
  | record .namedTuple _ _ fields => !fields.isEmpty
  | _ => true

def kindName : Value → String
  | null => "NoneType"
  | bool _ => "bool"
  | int _ => "int"
  | float .. => "float"
  | decimal .. => "Decimal"
  | fraction .. => "Fraction"
  | text _ => "str"
  | bytes false _ => "bytes"
  | bytes true _ => "bytearray"
  | date _ => "date"
  | moment _ => "datetime"
  | range .. => "range"
  | sequence .list _ => "list"
  | sequence .tuple _ => "tuple"
  | sequence .deque _ => "deque"
  | set false _ => "set"
  | set true _ => "frozenset"
  | mapping .plain _ => "dict"
  | mapping .ordered _ => "OrderedDict"
  | mapping (.named name) _ => name
  | record .nameless .. => "SimpleNamespace"
  | record _ name _ _ => name
  | special .function => "builtin_function_or_method"
  | special .module => "module"
  | special .plainClass => "ABCMeta"
  | special .dataclassClass => "type"
  | special (.object _) => "object"
  | special (.endless isMapping) => if isMapping then "dict" else "list"

end Value

end GraphTemplate
