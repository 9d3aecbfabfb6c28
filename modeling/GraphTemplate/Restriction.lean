import GraphTemplate.Datum
import GraphTemplate.Moment.Reading
import GraphTemplate.Pattern.Matching
import GraphTemplate.Pattern.Reader

/-!
Restrictions on values and on the keys of maps: a value that is wanted, or a pattern that has to
occur in the canonical text. A restriction is built from its text for the type of what it restricts.
-/

namespace GraphTemplate

inductive RestrictionKind where
  | value
  | regexp
  | keyValue
  | keyRegexp
  deriving DecidableEq

namespace RestrictionKind

def all : List RestrictionKind := [value, regexp, keyValue, keyRegexp]

def name : RestrictionKind → String
  | value => "value"
  | regexp => "regexp"
  | keyValue => "key value"
  | keyRegexp => "key regexp"

def isKey : RestrictionKind → Bool
  | keyValue | keyRegexp => true
  | _ => false

def isRegexp : RestrictionKind → Bool
  | regexp | keyRegexp => true
  | _ => false

end RestrictionKind

inductive Demand where
  | equals (d : Datum)
  | matching (p : Pattern)

structure Restriction where
  scalar : Scalar
  onKeys : Bool
  demand : Demand
  raw : String

inductive RestrictionError where
  | undefinedType (raw : String)
  | keysWithoutMap (descriptor : Descriptor)
  | pattern (raw : String)
  | wrongType (raw : String) (scalar : Scalar)
  | moment (raw : String) (error : Moment.ZuluError)

namespace Moment.ZuluError

def message (raw : String) : Moment.ZuluError → String
  | layout =>
    "time data " ++ quoted raw ++ " does not match format '%Y-%m-%dT%H:%M:%SZ'"
  | trailing rest => "unconverted data remains: " ++ String.ofList rest
  | calendar e => e.message

end Moment.ZuluError

def RestrictionError.message : RestrictionError → String
  | undefinedType raw =>
    "restriction \"" ++ raw ++ "\" can't be inferred because of undefined or wrong data type of " ++
      "restricted property"
  | keysWithoutMap descriptor =>
    "data type \"" ++ descriptor.text ++ "\" can't have key restrictions"
  | pattern raw => "restriction \"" ++ raw ++ "\" has wrong regexp schema"
  | wrongType raw scalar =>
    "restriction \"" ++ raw ++ "\" doesn't match \"" ++ scalar.name ++ "\" data type"
  | moment raw e =>
    "\"datetime\" restriction doesn't match RFC3339 (YYYY-MM-DDTHH:MM:SSZ) format: " ++
      e.message raw

/-- A text that is no restriction, or one whose conversion fails. -/
inductive RestrictionFailure where
  | invalid (error : RestrictionError)
  | fault (fault : Fault)

namespace Restriction

def kind (r : Restriction) : RestrictionKind :=
  match r.onKeys, r.demand with
  | false, .equals _ => .value
  | false, .matching _ => .regexp
  | true, .equals _ => .keyValue
  | true, .matching _ => .keyRegexp

def isRegexp (r : Restriction) : Bool :=
  match r.demand with
  | .matching _ => true
  | .equals _ => false

def withoutBreak (cs : List Char) : List Char :=
  if cs.getLast? == some '\n' then cs.dropLast else cs

def isDigits (cs : List Char) : Bool := !cs.isEmpty && cs.all isDecimalDigit

def readFloat? (cs : List Char) : Option Binary64 :=
  let whole := cs.takeWhile isDecimalDigit
  match cs.dropWhile isDecimalDigit with
  | '.' :: part =>
    if isDigits whole && isDigits part then
      some (.ofDecimal false (digitsValue (whole ++ part)) (-(part.length : Int)))
    else none
  | _ => none

def readDatum (scalar : Scalar) (raw : String) : Except RestrictionFailure Datum :=
  let wrong : RestrictionFailure := .invalid (.wrongType raw scalar)
  let cs := raw.toList
  match scalar with
  | .int =>
    let ds := withoutBreak cs
    if isDigits ds then
      if ds.length ≤ digitLimit then .ok (.int (digitsValue ds : Nat))
      else .error (.fault (.integerTooLong (some ds.length)))
    else .error wrong
  | .float =>
    match readFloat? (withoutBreak cs) with
    | some x => .ok (.float x)
    | none => .error wrong
  | .string => .ok (.string raw)
  | .bool =>
    if raw == "true" then .ok (.bool true)
    else if raw == "false" then .ok (.bool false)
    else .error wrong
  | .datetime =>
    if Moment.isZuluShaped cs then
      match Moment.ofZulu cs with
      | .ok m => .ok (.datetime m)
      | .error e => .error (.invalid (.moment raw e))
    else .error wrong

def readPattern (raw : String) : Except RestrictionFailure Pattern :=
  match Pattern.read raw with
  | .ok p => .ok p
  | .error .malformed => .error (.invalid (.pattern raw))
  | .error .tooManyRepeats =>
    .error (.fault (.outOfRange "the repetition number is too large"))
  | .error .conflictingScripts =>
    .error (.fault (.badValue "ASCII and UNICODE flags are incompatible"))

def restrictedType (descriptor : Descriptor) (kind : RestrictionKind) (raw : String) :
    Except RestrictionError Scalar :=
  match descriptor.valueType? with
  | none => .error (.undefinedType raw)
  | some value =>
    if kind.isKey then
      match descriptor.keyType? with
      | some key => .ok key
      | none => .error (.keysWithoutMap descriptor)
    else .ok value

def build (descriptor : Descriptor) (kind : RestrictionKind) (raw : String) :
    Except RestrictionFailure Restriction :=
  match restrictedType descriptor kind raw with
  | .error e => .error (.invalid e)
  | .ok scalar =>
    if kind.isRegexp then
      (readPattern raw).map fun p => ⟨scalar, kind.isKey, .matching p, raw⟩
    else
      (readDatum scalar raw).map fun d => ⟨scalar, kind.isKey, .equals d, raw⟩

/-- Whether a value of the restricted type is as the restriction asks; values of other types never
are. -/
def accepts (r : Restriction) (v : Value) : Except Fault Bool := do
  let some d ← Datum.ofValue? r.scalar v | return false
  match r.demand with
  | .matching p => return p.occursIn (← d.canonicalText)
  | .equals wanted => d.meets wanted

/-- The first restriction to one value that the pattern of `r` rejects. -/
def contradiction? (r : Restriction) : List Restriction → Except Fault (Option Restriction)
  | [] => .ok none
  | s :: rest =>
    match r.demand, s.demand with
    | .matching p, .equals d => do
      if p.occursIn (← d.canonicalText) then contradiction? r rest else return some s
    | _, _ => contradiction? r rest

end Restriction

end GraphTemplate
