import GraphTemplate.Document
import GraphTemplate.Graph

/-!
Graphs from plain data: `nodes` by their ids, each with a type and perhaps properties, and
`connections`, each from a main to a subject node by an edge. Ids are compared as texts.
-/

namespace GraphTemplate

inductive End where
  | main
  | subject
  deriving DecidableEq

def End.name : End → String
  | main => "main"
  | subject => "subject"

inductive GraphDataError where
  | notMapping
  | nodesNotMapping
  | untypedNode (id : String)
  | nodeProperties (id : String)
  | connectionNotMapping (index : Nat)
  | untypedEdge (index : Nat)
  | undefinedEnd (index : Nat) (which : End) (id : String)
  | edgeProperties (index : Nat)
  | fault (f : Fault)
  deriving DecidableEq

namespace GraphDataError

def connection (index : Nat) : String := "connection " ++ toString index

/-- The text of an error; faults that are no errors of the data have none. -/
def message? : GraphDataError → Option String
  | notMapping => some "graph data must be a mapping"
  | nodesNotMapping => some "graph nodes must be a mapping"
  | untypedNode id => some ("node \"" ++ id ++ "\" must have a type")
  | nodeProperties id => some ("node \"" ++ id ++ "\" properties must be a mapping")
  | connectionNotMapping index => some (connection index ++ " must be a mapping")
  | untypedEdge index => some (connection index ++ " must have an edge with a type")
  | undefinedEnd index which id =>
    some (connection index ++ " refers to undefined " ++ which.name ++ " node \"" ++ id ++ "\"")
  | edgeProperties index => some (connection index ++ " edge properties must be a mapping")
  | fault (.badValue reason) => some reason
  | fault _ => none

end GraphDataError

structure Connection where
  main : String
  subject : String
  edge : Entity

structure GraphData where
  nodes : NameTable Entity
  connections : List Connection

namespace GraphData

abbrev Reading := Except GraphDataError

def lift {α : Type} : Except Fault α → Reading α
  | .ok a => .ok a
  | .error f => .error (.fault f)

def part? (key : String) (entries : List (Value × Value)) : Option Value :=
  Shape.field? key entries

def entity (untyped misshapen : GraphDataError) (v : Value) : Reading Entity := do
  let some entries := v.entries? | throw untyped
  let some type := part? "type" entries | throw untyped
  let typeName ← lift type.toText
  match part? "properties" entries with
  | none | some .null => return ⟨typeName, []⟩
  | some p =>
    match p.entries? with
    | some properties => return ⟨typeName, properties⟩
    | none => throw misshapen

def nodeList : List (Value × Value) → Reading (List (String × Entity))
  | [] => .ok []
  | (k, v) :: es => do
    let id ← lift k.toText
    let node ← entity (.untypedNode id) (.nodeProperties id) v
    return (id, node) :: (← nodeList es)

/-- The id at an end of a connection; one that is left out has the text of `null`. -/
def endId (nodes : NameTable Entity) (index : Nat) (which : End)
    (entries : List (Value × Value)) : Reading String := do
  let id ← lift ((part? which.name entries).getD .null).toText
  if nodes.contains id then return id else throw (.undefinedEnd index which id)

def connection (nodes : NameTable Entity) (index : Nat) (v : Value) : Reading Connection := do
  let some entries := v.entries? | throw (.connectionNotMapping index)
  let edge := (part? "edge" entries).getD .null
  let some fields := edge.entries? | throw (.untypedEdge index)
  if (part? "type" fields).isNone then throw (.untypedEdge index)
  let main ← endId nodes index .main entries
  let subject ← endId nodes index .subject entries
  let e ← entity (.untypedEdge index) (.edgeProperties index) edge
  return ⟨main, subject, e⟩

def connectionList (nodes : NameTable Entity) (index : Nat) :
    List Value → Reading (List Connection)
  | [] => .ok []
  | v :: vs => do
    let c ← connection nodes index v
    return c :: (← connectionList nodes (index + 1) vs)

/-- What a value yields one after the other: elements, keys, characters or octets. -/
def yielded? : Value → Option (List Value)
  | .text s => some (s.toList.map fun c => .text c.toString)
  | .bytes _ octets => some (octets.map fun (n : Nat) => .int n)
  | .set _ items => some items
  | .mapping _ entries => some (entries.map Prod.fst)
  | v => v.elements?

/-- Something else in place of what is nothing, zero or empty. -/
def orElse (v : Option Value) (other : Value) : Value :=
  match v with
  | some v => if v.isTruthy then v else other
  | none => other

def ofEntries (entries : List (Value × Value)) : Reading GraphData := do
  let some nodeEntries := (orElse (part? "nodes" entries) (.mapping .plain [])).entries?
    | throw .nodesNotMapping
  let nodes := NameTable.ofList (← nodeList nodeEntries)
  let some listed := yielded? (orElse (part? "connections" entries) (.sequence .list []))
    | throw (.fault .wrongKind)
  return ⟨nodes, ← connectionList nodes 1 listed⟩

def ofValue : Value → Reading GraphData
  | .null => ofEntries []
  | v =>
    match v.entries? with
    | some entries => ofEntries entries
    | none => throw .notMapping

def noEntity : Entity := ⟨"", []⟩

/-- Nodes and edges are numbered in the order of the data. -/
def contents (d : GraphData) : Contents where
  node n := (d.nodes.values[n]?).getD noEntity
  edge i := ((d.connections.map Connection.edge)[i]?).getD noEntity

def nodeId (d : GraphData) (id : String) : Option NodeId := d.nodes.names.idxOf? id

def triplets (d : GraphData) : List Graph.PartialTriplet :=
  d.connections.zipIdx.map fun c => ⟨d.nodeId c.1.main, d.nodeId c.1.subject, some c.2⟩

def graph (d : GraphData) : Except Fault Graph :=
  Graph.ofParts d.contents (List.range d.nodes.size) d.triplets

end GraphData

end GraphTemplate
