import GraphTemplate.Entity
import GraphTemplate.NameTable
import GraphTemplate.Value.Text

/-!
Graphs of nodes that differ in content. Nodes and edges have an identity, and their contents may be
edited while the graph holds them. A node that is stored is found by its identity; any other node is
found by its content, through an index that is brought up to date whenever an edited row is met.
Rows keep their numbers when others are removed. A lookup of a row that is empty or not there fails,
and so does one of an entry that a table does not have.
-/

namespace GraphTemplate

abbrev NodeId := Nat
abbrev EdgeId := Nat

structure Contents where
  node : NodeId → Entity
  edge : EdgeId → Entity

namespace Contents

def setNode (w : Contents) (n : NodeId) (e : Entity) : Contents :=
  { w with node := fun m => if m = n then e else w.node m }

def setEdge (w : Contents) (i : EdgeId) (e : Entity) : Contents :=
  { w with edge := fun j => if j = i then e else w.edge j }

end Contents

/-- A main node, a subject node and the edge from one to the other. -/
structure Triplet (ν ε : Type) where
  main : ν
  subject : ν
  edge : ε
  deriving DecidableEq

structure Row where
  node : NodeId
  /-- Outgoing edges under the rows of their subjects. -/
  children : List (Nat × List EdgeId)

structure Graph where
  /-- Rows in the order of insertion; removed ones are left empty. -/
  rows : List (Option Row)
  /-- Rows by content. -/
  index : List (Entity × Nat)
  /-- The contents that rows were last seen with. -/
  keys : List (Nat × Entity)
  /-- Rows by the nodes in them. -/
  owners : List (NodeId × Nat)

namespace Graph

def empty : Graph := ⟨[], [], [], []⟩

instance : Inhabited Graph := ⟨empty⟩

def row? (g : Graph) (r : Nat) : Option Row := (g.rows[r]?).join

def key? (g : Graph) (r : Nat) : Option Entity := g.keys.lookup r

def indexed? (g : Graph) (c : Entity) : Option Nat :=
  (g.index.find? (·.1.alike c)).map Prod.snd

def enter (c : Entity) (r : Nat) : List (Entity × Nat) → List (Entity × Nat)
  | [] => [(c, r)]
  | e :: es => if e.1.alike c then (e.1, r) :: es else e :: enter c r es

/-- The index without the entry of a content, if that is an entry for the row. -/
def leave (g : Graph) (c : Entity) (r : Nat) : List (Entity × Nat) :=
  if g.indexed? c = some r then g.index.filter fun e => !e.1.alike c else g.index

/-- Operations leave their changes behind when they fail. -/
abbrev Action := ExceptT Fault (StateM Graph)

def rowAt (r : Nat) : Action Row := do
  let some row := (← get).row? r | throw .missingPart
  return row

def keyAt (r : Nat) : Action Entity := do
  let some c := (← get).key? r | throw .missingPart
  return c

def hashed (e : Entity) : Action Entity := ExceptT.mk (pure e.hashed)

/-- Brings the index up to date with the present content of a row, which is the result. -/
def refresh (w : Contents) (r : Nat) : Action Entity := do
  let row ← rowAt r
  let c ← hashed (w.node row.node)
  let old ← keyAt r
  unless c.alike old do
    modify fun g => { g with
      index := enter c r (g.leave old r)
      keys := Entries.put r c g.keys }
  return c

def ownRow (n : NodeId) : Action (Option Nat) := do
  let g ← get
  match g.owners.lookup n with
  | none => return none
  | some r =>
    let some row := g.rows[r]? | throw .missingPart
    return if row.any (·.node == n) then some r else none

/-- The row of a node: its own, or that of a node with the same content. -/
def find (w : Contents) (n : NodeId) : Action (Option Nat) := do
  match ← ownRow n with
  | some r => do
    let _ ← refresh w r
    return some r
  | none => do
    let c ← hashed (w.node n)
    match (← get).indexed? c with
    | none => return none
    | some r => do
      let now ← refresh w r
      return if now.alike c then some r else none

/-- The row is there before its content is looked at. -/
def insertRow (w : Contents) (n : NodeId) : Action Nat := do
  let r := (← get).rows.length
  modify fun g => { g with rows := g.rows ++ [some ⟨n, []⟩] }
  let c ← hashed (w.node n)
  modify fun g => { g with
    index := enter c r g.index
    keys := Entries.put r c g.keys
    owners := Entries.put n r g.owners }
  return r

def positionOf (w : Contents) (c : Entity) : List EdgeId → Except Fault (Option Nat)
  | [] => .ok none
  | i :: is => do
    let d ← (w.edge i).hashed
    if d.alike c then return some 0
    else return (← positionOf w c is).map (· + 1)

def edgePosition (w : Contents) (main subject : Nat) (i : EdgeId) : Action (Option Nat) := do
  let c ← hashed (w.edge i)
  let row ← rowAt main
  ExceptT.mk (pure (positionOf w c ((row.children.lookup subject).getD [])))

def liveRows (g : Graph) : List Row := g.rows.filterMap id

def size (g : Graph) : Nat := g.keys.length

def nodes (g : Graph) : List NodeId := g.liveRows.map Row.node

def nodesOfType (w : Contents) (g : Graph) (typeName : String) : List NodeId :=
  g.nodes.filter fun n => (w.node n).typeName == typeName

def nodeAt (g : Graph) (r : Nat) : Except Fault NodeId :=
  match g.row? r with
  | some row => .ok row.node
  | none => .error .missingPart

def links (row : Row) : List (Nat × EdgeId) :=
  row.children.flatMap fun c => c.2.map fun i => (c.1, i)

def rowTriplets (g : Graph) (row : Row) : Except Fault (List (Triplet NodeId EdgeId)) :=
  (links row).mapM fun l => do return ⟨row.node, ← g.nodeAt l.1, l.2⟩

def rowChildren (g : Graph) (row : Row) : Except Fault (List (NodeId × EdgeId)) :=
  (links row).mapM fun l => do return (← g.nodeAt l.1, l.2)

/-- Whether a name passes a filter; one without a name lets all names pass. -/
def passes (wanted : Option String) (name : String) : Bool :=
  match wanted with
  | some s => s.isEmpty || s == name
  | none => true

def passingTriplets (w : Contents) (g : Graph) (main subject edge : Option String) :
    Except Fault (List (Triplet NodeId EdgeId)) := do
  let parts ← g.liveRows.mapM fun row => do
    if passes main (w.node row.node).typeName then
      return (← g.rowTriplets row).filter fun t =>
        passes subject (w.node t.subject).typeName && passes edge (w.edge t.edge).typeName
    else return []
  return parts.flatten

def allTriplets (w : Contents) (g : Graph) : Except Fault (List (Triplet NodeId EdgeId)) :=
  g.passingTriplets w none none none

def typedTriplets (w : Contents) (g : Graph) (main : String) (subject edge : Option String) :
    Except Fault (List (Triplet NodeId EdgeId)) :=
  g.passingTriplets w (some main) subject edge

def contains (w : Contents) (n : NodeId) : Action Bool := do
  return (← find w n).isSome

def tripletsOfNode (w : Contents) (n : NodeId) : Action (List (Triplet NodeId EdgeId)) := do
  let some r ← find w n | return []
  let row ← rowAt r
  ExceptT.mk (pure ((← get).rowTriplets row))

def children (w : Contents) (n : NodeId) : Action (List (NodeId × EdgeId)) := do
  let some r ← find w n | return []
  let row ← rowAt r
  ExceptT.mk (pure ((← get).rowChildren row))

def addNode (w : Contents) (n : NodeId) : Action Bool := do
  if (← find w n).isSome then return false
  let _ ← insertRow w n
  return true

def withoutChild (r : Nat) (row : Row) : Row :=
  { row with children := Entries.remove r row.children }

/-- Empties a row, and removes the edges to it. -/
def removeRow (r : Nat) : Action Unit := do
  modify fun g => { g with rows := g.rows.map (·.map (withoutChild r)) }
  let row ← rowAt r
  let c ← keyAt r
  modify fun g => { g with index := g.leave c r, keys := Entries.remove r g.keys }
  unless ((← get).owners.lookup row.node).isSome do throw .missingPart
  modify fun g => { g with
    rows := g.rows.set r none
    owners := Entries.remove row.node g.owners }

def removeNode (w : Contents) (n : NodeId) : Action Bool := do
  let some r ← find w n | return false
  removeRow r
  return true

def appendEdge (subject : Nat) (i : EdgeId) : List (Nat × List EdgeId) → List (Nat × List EdgeId)
  | [] => [(subject, [i])]
  | c :: cs => if c.1 = subject then (subject, c.2 ++ [i]) :: cs else c :: appendEdge subject i cs

/-- Edges with one less under its subject; a subject without edges is left out. -/
def dropEdge (subject position : Nat) : List (Nat × List EdgeId) → List (Nat × List EdgeId)
  | [] => []
  | c :: cs =>
    if c.1 = subject then
      let rest := c.2.eraseIdx position
      if rest.isEmpty then cs else (subject, rest) :: cs
    else c :: dropEdge subject position cs

def editChildren (r : Nat) (change : List (Nat × List EdgeId) → List (Nat × List EdgeId)) :
    Action Unit := do
  let row ← rowAt r
  modify fun g => { g with
    rows := g.rows.set r (some { row with children := change row.children }) }

def removeEdgeAt (main subject position : Nat) : Action Unit := do
  let row ← rowAt main
  let some edges := row.children.lookup subject | throw .missingPart
  unless position < edges.length do throw .missingPart
  editChildren main (dropEdge subject position)

abbrev PartialTriplet := Triplet (Option NodeId) (Option EdgeId)

def findPart (w : Contents) : Option NodeId → Action (Option Nat)
  | some n => find w n
  | none => pure none

/-- Whether an edge with the content of the given one already joins two rows. -/
def joined (w : Contents) : Option Nat → Option Nat → Option EdgeId → Action Bool
  | some main, some subject, some i => do return (← edgePosition w main subject i).isSome
  | _, _, _ => pure false

def ensureMain (w : Contents) : Option Nat → Option NodeId → Action (Option Nat)
  | none, some n => do return some (← insertRow w n)
  | row, _ => pure row

/-- The subject may be the main node that has just been inserted. -/
def ensureSubject (w : Contents) : Option Nat → Option NodeId → Action (Option Nat)
  | none, some n => do
    match ← find w n with
    | some r => return some r
    | none => return some (← insertRow w n)
  | row, _ => pure row

def join : Option Nat → Option Nat → Option EdgeId → Action Bool
  | some main, some subject, some i => do
    editChildren main (appendEdge subject i)
    return true
  | _, _, _ => pure false

/-- Inserts the parts of a triplet that are not there. An edge needs both nodes; nodes without an
edge are inserted unconnected. Tells whether anything was inserted. -/
def addTriplet (w : Contents) (t : PartialTriplet) : Action Bool := do
  let main ← findPart w t.main
  let subject ← findPart w t.subject
  if ← joined w main subject t.edge then return false
  let main' ← ensureMain w main t.main
  let subject' ← ensureSubject w subject t.subject
  let isJoined ← join main' subject' t.edge
  return (main.isNone && t.main.isSome) || (subject.isNone && t.subject.isSome) || isJoined

def removeEdge (w : Contents) (t : PartialTriplet) : Action Bool := do
  let some main := t.main | return false
  let some subject := t.subject | return false
  let some i := t.edge | return false
  let m ← find w main
  let s ← find w subject
  let some m := m | return false
  let some s := s | return false
  let some position ← edgePosition w m s i | return false
  removeEdgeAt m s position
  return true

def addNodes (w : Contents) : List NodeId → Action Unit
  | [] => pure ()
  | n :: ns => do
    let _ ← addNode w n
    addNodes w ns

def addTriplets (w : Contents) : List PartialTriplet → Action Unit
  | [] => pure ()
  | t :: ts => do
    let _ ← addTriplet w t
    addTriplets w ts

def ofParts (w : Contents) (nodes : List NodeId) (triplets : List PartialTriplet) :
    Except Fault Graph :=
  let build : Action Unit := do
    addNodes w nodes
    addTriplets w triplets
  match build.run.run empty with
  | (.ok _, g) => .ok g
  | (.error f, _) => .error f

def shownProperties (e : Entity) : Except Fault String := do
  return "<<" ++ (← (Value.mapping .plain e.properties).toText) ++ ">>"

def edgeLine (w : Contents) (i : EdgeId) : Except Fault String := do
  let e := w.edge i
  return "     '--[" ++ quoted e.typeName ++ "] " ++ (← shownProperties e)

def childLines (w : Contents) : List (Nat × List EdgeId) → Except Fault (List String)
  | [] => .ok []
  | (subject, edges) :: cs => do
    let shown ← edges.mapM (edgeLine w)
    return (" '--(" ++ toString subject ++ ")") :: shown ++ (← childLines w cs)

def rowLines (w : Contents) (r : Nat) (row : Row) : Except Fault (List String) := do
  let e := w.node row.node
  let head := "(" ++ toString r ++ ") (" ++ quoted e.typeName ++ ") " ++ (← shownProperties e)
  return head :: (← childLines w row.children)

def dumpFrom (w : Contents) (r : Nat) : List (Option Row) → Except Fault (List String)
  | [] => .ok []
  | none :: rows => dumpFrom w (r + 1) rows
  | some row :: rows => do return (← rowLines w r row) ++ (← dumpFrom w (r + 1) rows)

def dump (w : Contents) (g : Graph) : Except Fault String := do
  return "\n".intercalate (← dumpFrom w 0 g.rows)

end Graph

end GraphTemplate
