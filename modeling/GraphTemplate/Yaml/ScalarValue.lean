import GraphTemplate.Binary64
import GraphTemplate.Datum
import GraphTemplate.Yaml.Kind

/-!
The values of scalars of every kind. A text that its kind has no value for is a fault, unless the
document itself is to blame.
-/

namespace GraphTemplate.Yaml

namespace ScalarValue

def digitOf? (base : Nat) (c : Char) : Option Nat := do
  let n ← (digitValue? c).or (Scalar.hexDigitValue? c)
  if n < base then some n else none

def withoutPrefix (letter : Char) (cs : List Char) : List Char :=
  match cs with
  | '0' :: c :: rest => if lowerChar c == letter then rest else cs
  | _ => cs

/-- An integer in a base that is a power of two; a zero and the letter of the base may precede
its digits. -/
def basedInteger (base : Nat) (letter : Char) (cs : List Char) : Except Fault Int :=
  let (negative, body) := spanSign (trimNumeral cs)
  let ds := withoutPrefix letter body
  match ds.mapM (digitOf? base) with
  | some (d :: rest) =>
    .ok (signedInt negative ((d :: rest).foldl (fun n d => n * base + d) 0))
  | _ =>
    .error (.badValue ("invalid literal for int() with base " ++ toString base ++ ": " ++
      quoted (String.ofList cs)))

def betweenColons : List Char → List (List Char)
  | [] => [[]]
  | c :: cs =>
    if c == ':' then [] :: betweenColons cs
    else
      match betweenColons cs with
      | p :: ps => (c :: p) :: ps
      | [] => [[c]]

def withoutLines (s : String) : List Char := s.toList.filter (· != '_')

/-- A number's sign and the text after it. A text cannot be empty. -/
def signed (cs : List Char) : Except Fault (Bool × List Char) :=
  if cs.isEmpty then .error .emptyText else .ok (spanSign cs)

def decimal (cs : List Char) : Except Fault Int := Datum.integerOf cs (quoted (String.ofList cs))

def integer (s : String) : Except Fault Int := do
  let (negative, body) ← signed (withoutLines s)
  let magnitude ← match body with
    | ['0'] => pure 0
    | '0' :: 'b' :: ds => basedInteger 2 'b' ds
    | '0' :: 'x' :: ds => basedInteger 16 'x' ds
    | '0' :: _ => basedInteger 8 'o' body
    | [] => throw .emptyText
    | _ =>
      if body.contains ':' then do
        let parts ← (betweenColons body).mapM decimal
        pure (parts.foldl (fun n d => n * 60 + d) 0)
      else decimal body
  return if negative then -magnitude else magnitude

def fractional (cs : List Char) : Except Fault Binary64 :=
  Datum.floatOf cs (quoted (String.ofList cs))

/-- Adds up parts of sixty, the least first, each time with rounding. -/
def sumSixties (base : Nat) (sum : Binary64) : List Binary64 → Except Fault Binary64
  | [] => .ok sum
  | d :: ds => do
    let unit ← Datum.floatOfRatio base 1
    sumSixties (base * 60) (sum.add (d.mul unit)) ds

def float (s : String) : Except Fault Binary64 := do
  let (negative, body) ← signed ((withoutLines s).map lowerChar)
  let apply (x : Binary64) : Binary64 := if negative then x.negate else x
  match String.ofList body with
  | ".inf" => return .infinity negative
  | ".nan" => return .nan
  | _ =>
    if body.contains ':' then
      let parts ← (betweenColons body).mapM fractional
      return apply (← sumSixties 1 (.zero false) parts.reverse)
    else return apply (← fractional body)

def micros (digits : List Char) : Nat :=
  digitsValue ((digits ++ List.replicate 6 '0').take 6)

def offsetOf : Zone → Except Fault Offset
  | .universal => .ok Offset.zero
  | .offset negative hours minutes =>
    let n : Int := (hours * 60 + minutes) * 60000000
    let n := if negative then -n else n
    match Offset.ofMicros? n with
    | some o => .ok o
    | none => .error (.badValue
        ("offset must be a timedelta strictly between -timedelta(hours=24) and " ++
          "timedelta(hours=24), not " ++ Value.durationText n ++ "."))

def calendar {α : Type} : Except CalendarError α → Except Fault α
  | .ok a => .ok a
  | .error e => .error (.badValue e.message)

def stampValue (s : Stamp) : Except Fault Value := do
  match s.time with
  | none => return .date (← calendar (Date.ofParts s.year s.month s.day))
  | some t => do
    let offset ← t.zone.mapM offsetOf
    let date ← calendar (Date.ofParts s.year s.month s.day)
    let clock ← calendar (Clock.ofParts t.hour t.minute t.second (micros t.fraction))
    return .moment ⟨date, clock, offset⟩

def timestamp (s : String) : Except Fault Value :=
  match Stamp.ofChars? s.toList with
  | some stamp => stampValue stamp
  | none => .error .missingPart

def sextet? (c : Char) : Option Nat :=
  if 'A' ≤ c && c ≤ 'Z' then some (c.toNat - 65)
  else if 'a' ≤ c && c ≤ 'z' then some (c.toNat - 71)
  else if '0' ≤ c && c ≤ '9' then some (c.toNat + 4)
  else if c == '+' then some 62
  else if c == '/' then some 63
  else none

/-- Octets from sextets, four to three; `held` are those of a group not yet full, and `pads` the
padding after them. Other characters are skipped, and padding that fills a group ends the text. -/
def octetsOf? (held : List Nat) (pads : Nat) : List Char → Option (List Nat)
  | [] => if held.isEmpty then some [] else none
  | c :: cs =>
    if c == '=' then
      if 2 ≤ held.length && 4 ≤ held.length + pads + 1 then some []
      else octetsOf? held (pads + 1) cs
    else
      match sextet? c, held with
      | none, _ => octetsOf? held pads cs
      | some n, [] => octetsOf? [n] 0 cs
      | some n, [a] => (octetsOf? [a, n] 0 cs).map ((a * 4 + n / 16) :: ·)
      | some n, [a, b] => (octetsOf? [a, b, n] 0 cs).map ((b % 16 * 16 + n / 4) :: ·)
      | some n, _ :: _ :: c :: _ => (octetsOf? [] 0 cs).map ((c % 4 * 64 + n) :: ·)

def binary? (s : String) : Option (List Nat) :=
  if s.toList.all fun c => c.toNat < 128 then octetsOf? [] 0 s.toList else none

def truth (s : String) : Except Fault Bool :=
  let word := lowercase s
  if Kind.trueWords.contains word then .ok true
  else if Kind.falseWords.contains word then .ok false
  else .error .unknownWord

end ScalarValue

/-- The value of a scalar of a kind; none if the kind has no scalars or not this one. -/
def Kind.scalarValue (kind : Kind) (s : String) : Except Fault (Option Value) :=
  match kind with
  | .null => .ok (some .null)
  | .bool => (ScalarValue.truth s).map (some ∘ .bool)
  | .int => (ScalarValue.integer s).map (some ∘ .int)
  | .float => (ScalarValue.float s).map fun x => some (.float x 0)
  | .binary => .ok ((ScalarValue.binary? s).map (.bytes false))
  | .timestamp => (ScalarValue.timestamp s).map some
  | .text => .ok (some (.text s))
  | _ => .ok none

end GraphTemplate.Yaml
