import GraphTemplate.Binary64.Decimal
import GraphTemplate.Fault
import GraphTemplate.Text.Quoted
import GraphTemplate.Value

/-!
The text of values as messages show them. A value by itself is shown plainly; inside another value
texts are quoted and values without a literal form name their kind. Integers too long to be written
make the whole text fail.
-/

namespace GraphTemplate

namespace Value

def intText (n : Int) : Except Fault String :=
  match integerText? n with
  | some s => .ok s
  | none => .error (.integerTooLong none)

def joined (parts : List String) : String := ", ".intercalate parts

def bracketed (opening closing body : String) : String := opening ++ body ++ closing

def called (name body : String) : String := name ++ bracketed "(" ")" body

def octetsText (isMutable : Bool) (octets : List Nat) : String :=
  let body := String.ofList (quoteOctets isMutable octets)
  if isMutable then called "bytearray" body else body

def natText (n : Nat) : String := String.ofList (Nat.toDigits 10 n)

def plainIntText (n : Int) : String := if n < 0 then "-" ++ natText n.natAbs else natText n.natAbs

/-- The parts of a duration that are not zero, days first; days alone carry the sign. -/
def durationText (micros : Int) : String :=
  let days := Int.fdiv micros 86400000000
  let rest := (Int.fmod micros 86400000000).toNat
  let part (name : String) (n : Int) : List String :=
    if n = 0 then [] else [name ++ "=" ++ plainIntText n]
  let parts := part "days" days ++ part "seconds" (rest / 1000000 : Nat) ++
    part "microseconds" (rest % 1000000 : Nat)
  called "datetime.timedelta" (if parts.isEmpty then "0" else joined parts)

def offsetForm (o : Offset) : String :=
  if o.micros = 0 then "datetime.timezone.utc"
  else called "datetime.timezone" (durationText o.micros)

def dateForm (d : Date) : String :=
  called "datetime.date" (joined [natText d.year, natText d.month, natText d.day])

/-- Date and time to the minute, then seconds and microseconds up to the last that is not zero. -/
def momentForm (m : Moment) : String :=
  let clock := if m.clock.microsecond ≠ 0 then [m.clock.second, m.clock.microsecond]
    else if m.clock.second ≠ 0 then [m.clock.second] else []
  let numbers := [m.date.year, m.date.month, m.date.day, m.clock.hour, m.clock.minute] ++ clock
  let zone := match m.offset with
    | some o => ["tzinfo=" ++ offsetForm o]
    | none => []
  called "datetime.datetime" (joined (numbers.map natText ++ zone))

def specialText : Special → String
  | .function => "<built-in function len>"
  | .module => "<module 'os'>"
  | .plainClass => "<class 'fractions.Fraction'>"
  | .dataclassClass => "<class 'dataclass'>"
  | .object _ => "<object object>"
  | .endless isMapping => if isMapping then "\x7b...\x7d" else "[...]"

/-- Sets show their integers in ascending order. -/
def inSetOrder (parts : List (Value × String)) : List String :=
  (parts.mergeSort fun a b =>
    match a.1, b.1 with
    | .int m, .int n => m ≤ n
    | _, _ => true).map Prod.snd

def setText (frozen : Bool) (parts : List String) : String :=
  if parts.isEmpty then if frozen then "frozenset()" else "set()"
  else
    let body := bracketed "\x7b" "\x7d" (joined parts)
    if frozen then called "frozenset" body else body

def sequenceText (kind : SequenceKind) (parts : List String) : String :=
  match kind, parts with
  | .tuple, [x] => bracketed "(" ",)" x
  | .tuple, xs => bracketed "(" ")" (joined xs)
  | .list, xs => bracketed "[" "]" (joined xs)
  | .deque, xs => called "deque" (bracketed "[" "]" (joined xs))

def mappingText (kind : MappingKind) (parts : List (String × String)) : String :=
  match kind with
  | .ordered =>
    if parts.isEmpty then "OrderedDict()"
    else
      called "OrderedDict" (bracketed "[" "]" (joined (parts.map fun p =>
        bracketed "(" ")" (joined [p.1, p.2]))))
  | _ => bracketed "\x7b" "\x7d" (joined (parts.map fun p => p.1 ++ ": " ++ p.2))

/-- Objects of a plain class tell none of their fields. -/
def objectText (name : String) : String := bracketed "<" " object>" name

def recordText (kind : RecordKind) (name : String) (parts : List (String × String)) : String :=
  let body := joined (parts.map fun p => p.1 ++ "=" ++ p.2)
  match kind with
  | .nameless => called "namespace" body
  | _ => called name body

mutual

def form : Value → Except Fault String
  | null => .ok "None"
  | bool b => .ok (if b then "True" else "False")
  | int n => intText n
  | float x _ => .ok x.text
  | decimal d _ => .ok (called "Decimal" ("'" ++ d.text ++ "'"))
  | fraction n d => do return called "Fraction" (joined [← intText n, ← intText d])
  | text s => .ok (quoted s)
  | bytes m octets => .ok (octetsText m octets)
  | date d => .ok (dateForm d)
  | moment m => .ok (momentForm m)
  | range a b s => do
    let ends := [← intText a, ← intText b]
    let step ← intText s
    return called "range" (joined (if s = 1 then ends else ends ++ [step]))
  | sequence kind items => do return sequenceText kind (← forms items)
  | set frozen items => do return setText frozen (inSetOrder (items.zip (← forms items)))
  | mapping kind entries => do return mappingText kind (← entryForms entries)
  | record .object name _ _ => .ok (objectText name)
  | record kind name _ fields => do return recordText kind name (← fieldForms fields)
  | special s => .ok (specialText s)

def forms : List Value → Except Fault (List String)
  | [] => .ok []
  | v :: vs => do return (← v.form) :: (← forms vs)

def entryForms : List (Value × Value) → Except Fault (List (String × String))
  | [] => .ok []
  | (k, v) :: es => do return (← k.form, ← v.form) :: (← entryForms es)

def fieldForms : List (String × Value) → Except Fault (List (String × String))
  | [] => .ok []
  | (k, v) :: fs => do return (k, ← v.form) :: (← fieldForms fs)

end

def toText : Value → Except Fault String
  | text s => .ok s
  | decimal d _ => .ok d.text
  | fraction n d => do
    if d = 1 then intText n else return (← intText n) ++ "/" ++ (← intText d)
  | date d => .ok (String.ofList (Moment.dateText d))
  | moment m => .ok m.text
  | v => v.form

end Value

end GraphTemplate
