import GraphTemplate.Datum
import GraphTemplate.Document.Shape

/-!
Template documents: what a template's source says, before anything in it is understood. Types and
restrictions are texts as they were written, and names keep the order of the source.
-/

namespace GraphTemplate

structure RestrictionTexts where
  values : List String
  regexps : List String
  keyValues : List String
  keyRegexps : List String
  deriving DecidableEq

structure PropertyEntry where
  type : String
  restrictions : RestrictionTexts
  deriving DecidableEq

/-- The bounds are zero where the source has none. -/
structure ConnectionEntry where
  edge : String
  min : Int
  max : Int
  deriving DecidableEq

abbrev PropertyEntries := NameTable PropertyEntry
abbrev ConnectionEntries := NameTable (List ConnectionEntry)

structure EdgeEntry where
  properties : PropertyEntries
  deriving DecidableEq

structure LabelEntry where
  properties : PropertyEntries
  connections : ConnectionEntries
  deriving DecidableEq

structure NodeEntry where
  labels : List String
  properties : PropertyEntries
  connections : ConnectionEntries
  deriving DecidableEq

structure Document where
  labels : NameTable LabelEntry
  nodes : NameTable NodeEntry
  edges : NameTable EdgeEntry
  deriving DecidableEq

namespace Shape

def properties : Shape :=
  table (closed [("type", text),
    ("restrictions", closed [("values", list text), ("regexps", list text),
      ("key_values", list text), ("key_regexps", list text)])])

def connections : Shape :=
  table (list (closed [("edge", text), ("ratio", closed [("min", integer), ("max", integer)])]))

def document : Shape :=
  closed [("labels", table (closed [("properties", properties), ("connections", connections)])),
    ("nodes", table (closed [("labels", list text), ("properties", properties),
      ("connections", connections)])),
    ("edges", table (closed [("properties", properties)]))]

end Shape

inductive DocumentFailure where
  | shape (message : String)
  | fault (f : Fault)
  deriving DecidableEq

namespace Document

def part (key : String) : Value → Value
  | .mapping _ entries => (Shape.field? key entries).getD .null
  | _ => .null

def textOf : Value → String
  | .text s => s
  | _ => ""

def itemsOf : Value → List Value
  | .sequence _ items => items
  | _ => []

def textsOf (v : Value) : List String := (itemsOf v).map textOf

def fieldsOf : Value → List (String × Value)
  | .mapping _ entries => entries.map fun e => (textOf e.1, e.2)
  | _ => []

def tableOf {α : Type} (entry : Value → α) (v : Value) : NameTable α :=
  NameTable.ofList ((fieldsOf v).map fun f => (f.1, entry f.2))

/-- Parts in order, up to the first that fails. -/
def tableOfM {α : Type} (entry : Value → Except Fault α) (v : Value) :
    Except Fault (NameTable α) := do
  return NameTable.ofList (← (fieldsOf v).mapM fun f => do return (f.1, ← entry f.2))

def restrictionsOf (v : Value) : RestrictionTexts where
  values := textsOf (part "values" v)
  regexps := textsOf (part "regexps" v)
  keyValues := textsOf (part "key_values" v)
  keyRegexps := textsOf (part "key_regexps" v)

def propertyOf (v : Value) : PropertyEntry :=
  ⟨textOf (part "type" v), restrictionsOf (part "restrictions" v)⟩

def propertiesOf : Value → PropertyEntries := tableOf propertyOf

def boundOf : Value → Except Fault Int
  | .text s => Datum.integerOf s.toList (quoted s)
  | _ => .ok 0

def connectionOf (v : Value) : Except Fault ConnectionEntry := do
  let ratio := part "ratio" v
  return ⟨textOf (part "edge" v), ← boundOf (part "min" ratio), ← boundOf (part "max" ratio)⟩

def connectionsOf : Value → Except Fault ConnectionEntries :=
  tableOfM fun v => (itemsOf v).mapM connectionOf

def edgeOf (v : Value) : EdgeEntry := ⟨propertiesOf (part "properties" v)⟩

def labelOf (v : Value) : Except Fault LabelEntry := do
  return ⟨propertiesOf (part "properties" v), ← connectionsOf (part "connections" v)⟩

def nodeOf (v : Value) : Except Fault NodeEntry := do
  return ⟨textsOf (part "labels" v), propertiesOf (part "properties" v),
    ← connectionsOf (part "connections" v)⟩

def ofShaped (v : Value) : Except Fault Document := do
  let edges := tableOf edgeOf (part "edges" v)
  let labels ← tableOfM labelOf (part "labels" v)
  let nodes ← tableOfM nodeOf (part "nodes" v)
  return ⟨labels, nodes, edges⟩

def empty : Document := ⟨.empty, .empty, .empty⟩

/-- The document that data describes; no data describes an empty one. -/
def ofValue (v : Value) : Except DocumentFailure Document :=
  match v with
  | .null => .ok empty
  | v =>
    match Shape.document.complaint? v with
    | some c =>
      match c.message with
      | .ok message => .error (.shape message)
      | .error f => .error (.fault f)
    | none =>
      match ofShaped v with
      | .ok d => .ok d
      | .error f => .error (.fault f)

end Document

end GraphTemplate
