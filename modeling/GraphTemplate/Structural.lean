import GraphTemplate.Template

/-!
Values of unknown shape: mappings and records that are judged as a node, an edge or both. The type
is the one that the value's class is named after, else the first that a field names; that field then
is no property.
-/

namespace GraphTemplate

/-- What a value of unknown shape has passed as. -/
inductive Match where
  | node
  | edge
  | both
  deriving DecidableEq

namespace Match

def name : Match → String
  | node => "node"
  | edge => "edge"
  | both => "both"

def message : Match → String
  | both =>
    "unknown value: value had been both successfully validated: and as node, and as edge"
  | m => "unknown value: value had been successfully validated as " ++ m.name

end Match

namespace Value

def textKeys (fields : List (String × Value)) : List (Value × Value) :=
  fields.map fun f => (.text f.1, f.2)

/-- Fields whose names do not begin with an underscore. -/
def publicFields (fields : List (String × Value)) : List (String × Value) :=
  fields.filter fun f => f.1.toList.head? != some '_'

def fields? : Value → Option (List (Value × Value))
  | mapping _ entries => some entries
  | record .dataclass _ _ fields => some (textKeys fields)
  | record .namedTuple _ _ fields => some (textKeys fields)
  | record .object _ _ fields => some (textKeys (publicFields fields))
  | record .nameless _ _ fields => some (textKeys (publicFields fields))
  | _ => none

/-- The name of a value's class, if it has one that is not that of a generic container. -/
def className? : Value → Option String
  | mapping (.named name) _ => some name
  | record .nameless .. => none
  | record _ name _ _ => some name
  | _ => none

/-- Whether a key is the one that is left out. Nothing is left out for the key `null`, and a number
that differs from itself is never left out. -/
def isOmitted (omitted : Option Value) (key : Value) : Bool :=
  match omitted with
  | none | some null => false
  | some k => !key.isNaN && key.sameKey k

end Value

/-- A type that a value may have been meant for, and the key of the field that names it. -/
structure Candidate where
  type : EntityType
  omitted : Option Value

namespace Candidate

def ofFields? (types : NameTable EntityType) : List (Value × Value) → Option Candidate
  | [] => none
  | (key, .text name) :: rest =>
    match types.get? name with
    | some type => some ⟨type, some key⟩
    | none => ofFields? types rest
  | _ :: rest => ofFields? types rest

def find? (types : NameTable EntityType) (className : Option String)
    (fields : List (Value × Value)) : Option Candidate :=
  match (className.filter (!·.isEmpty)).bind types.get? with
  | some type => some ⟨type, none⟩
  | none => ofFields? types fields

def properties (c : Candidate) (fields : List (Value × Value)) : List (Value × Value) :=
  fields.filter fun f => !Value.isOmitted c.omitted f.1

def check (c : Candidate) (kind : EntityKind) (fields : List (Value × Value)) : Check Unit :=
  Check.within (Template.entityContext kind c.type.name) (c.type.check (c.properties fields))

def complaint (kind : EntityKind) (candidate : Option Candidate)
    (fields : List (Value × Value)) : Except Fault (Option String) :=
  match candidate with
  | none => .ok (some ("there is no such " ++ kind.name ++ " type in template"))
  | some c =>
    match c.check kind fields with
    | .ok _ => .ok none
    | .error (.violation v) => .ok (some v.message)
    | .error (.fault f) => .error f

end Candidate

namespace Template

def candidate? (t : Template) (kind : EntityKind) (v : Value) (fields : List (Value × Value)) :
    Option Candidate :=
  Candidate.find? (t.typesOf kind) v.className? fields

def checkUnknown (t : Template) (v : Value) : Check Match := do
  let some fields := v.fields? | Check.violated (.unsupported v.kindName)
  let asNode := t.candidate? .node v fields
  let asEdge := t.candidate? .edge v fields
  if asNode.isNone && asEdge.isNone then Check.violated .noMatchingType
  let nodeComplaint ← Check.lift (Candidate.complaint .node asNode fields)
  let edgeComplaint ← Check.lift (Candidate.complaint .edge asEdge fields)
  match nodeComplaint, edgeComplaint with
  | none, none => return .both
  | none, some _ => return .node
  | some _, none => return .edge
  | some n, some e => Check.violated (.neither n e)

end Template

end GraphTemplate
