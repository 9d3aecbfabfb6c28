import GraphTemplate.PropertyKeys
import GraphTemplate.Restriction

/-!
Properties of node and edge types, and the verdict on a value of a property. A value passes if it
has the property's type and satisfies one of its restrictions, if there are any. Of a container the
first element alone is checked for its type; the others are, if there are restrictions.
-/

namespace GraphTemplate

structure Property where
  key : String
  descriptor : Descriptor
  values : List Restriction
  keys : List Restriction

namespace Property

/-- Whether one of the restrictions accepts a value; those after it are not tried. -/
def anyAccepts (v : Value) : List Restriction → Except Fault Bool
  | [] => .ok false
  | r :: rs => do if ← r.accepts v then return true else anyAccepts v rs

/-- The text of a value in messages: canonical if it has the data type. -/
def shown (s : Scalar) (v : Value) : Except Fault String := do
  match ← Datum.ofValue? s v with
  | some d => d.canonicalText
  | none => v.toText

def checkRestrictions (p : Property) (s : Scalar) (restrictions : List Restriction)
    (what : String) (v : Value) : Check Unit := do
  if restrictions.isEmpty then return
  if ← Check.lift (anyAccepts v restrictions) then return
  let text ← Check.lift (shown s v)
  Check.violated (.rejected p.key text what (restrictions.map (·.raw)))

def wrongType {α : Type} (p : Property) (v : Value) : Check α := do
  let text ← Check.lift v.toText
  Check.violated (.wrongType p.key text p.descriptor.text)

def hasType (s : Scalar) (v : Value) : Check Bool := do
  return (← Check.lift (Datum.ofValue? s v)).isSome

def checkScalar (p : Property) (s : Scalar) (v : Value) : Check Unit := do
  if ← hasType s v then p.checkRestrictions s p.values "value" v
  else p.wrongType v

def checkItems (p : Property) (s : Scalar) : List Value → Check Unit
  | [] => .ok ()
  | v :: vs => do
    p.checkRestrictions s p.values "array-value" v
    checkItems p s vs

def checkArray (p : Property) (s : Scalar) (v : Value) : Check Unit := do
  let some items := v.elements? | p.wrongType v
  if let first :: _ := items then
    unless ← hasType s first do p.wrongType v
  p.checkItems s items

def checkEntries (p : Property) (key value : Scalar) : List (Value × Value) → Check Unit
  | [] => .ok ()
  | (k, v) :: es => do
    let shownKey ← Check.lift k.toText
    p.checkRestrictions value p.values ("map-value under \"" ++ shownKey ++ "\" key") v
    p.checkRestrictions key p.keys "map-key" k
    checkEntries p key value es

def checkMap (p : Property) (key value : Scalar) (v : Value) : Check Unit := do
  let some entries := v.entries? | p.wrongType v
  if let (k, w) :: _ := entries then
    unless ← hasType key k do p.wrongType v
    unless ← hasType value w do p.wrongType v
  p.checkEntries key value entries

def check (p : Property) (v : Value) : Check Unit :=
  match p.descriptor with
  | .undefined => Check.violated (.untypedProperty p.key)
  | .scalar s => p.checkScalar s v
  | .array item => p.checkArray item v
  | .map key value => p.checkMap key value v

end Property

structure EntityType where
  name : String
  properties : NameTable Property

namespace EntityType

def checkPairs (t : EntityType) (entries : List (Value × Value)) :
    List (Value × String) → Check Unit
  | [] => .ok ()
  | (k, name) :: rest => do
    match t.properties.get? name, entries.find? (·.1.sameKey k) with
    | some p, some e => p.check e.2
    | _, _ => pure ()
    checkPairs t entries rest

/-- Checks the keys of properties, then every value. -/
def check (t : EntityType) (entries : List (Value × Value)) : Check Unit := do
  t.checkPairs entries (← PropertyKeys.pairing t.properties.names (entries.map Prod.fst))

end EntityType

end GraphTemplate
