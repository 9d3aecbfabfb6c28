import GraphTemplate.Value.Equality
import GraphTemplate.Yaml.ScalarValue

/-!
The data of a document with values of all kinds. Mappings may merge others into themselves. Of
several errors the one in the outermost collection counts, and of those the first.
-/

namespace GraphTemplate.Yaml

/-- An error and how many collections deep it lies. -/
structure Trouble where
  depth : Nat
  error : Error

abbrev Loading := Except Trouble

namespace Loading

def fail {α : Type} (depth : Nat) (error : Error) : Loading α := .error ⟨depth, error⟩

def both {α β : Type} : Loading α → Loading β → Loading (α × β)
  | .ok a, .ok b => .ok (a, b)
  | .error e, .ok _ => .error e
  | .ok _, .error f => .error f
  | .error e, .error f => .error (if f.depth < e.depth then f else e)

end Loading

namespace Node

def unsuitable (n : Node) : Error := .misplaced .unsuitable n.start

mutual

/-- The entries of a mapping, those that it merges first. -/
def mergedEntries : List (Node × Node) → Except Error (List (Node × Node) × List (Node × Node))
  | [] => .ok ([], [])
  | (k, v) :: es => do
    if k.kind = .merge then
      let first ← mergeSource v
      let (merged, own) ← mergedEntries es
      return (first ++ merged, own)
    else
      let (merged, own) ← mergedEntries es
      return (merged, (k, v) :: own)

def mergeSource : Node → Except Error (List (Node × Node))
  | mapping _ _ entries => do
    let (merged, own) ← mergedEntries entries
    return merged ++ own
  | sequence _ _ items => mergeItems items
  | scalar start .. => .error (.misplaced .unsuitable start)
  | endless start isMapping =>
    if isMapping then .ok [] else .error (.misplaced .unsuitable start)

/-- Mappings later in a sequence come first. -/
def mergeItems : List Node → Except Error (List (Node × Node))
  | [] => .ok []
  | mapping _ _ entries :: rest => do
    let (merged, own) ← mergedEntries entries
    let others ← mergeItems rest
    return others ++ (merged ++ own)
  | n :: _ => .error (unsuitable n)

end

def flatEntries (entries : List (Node × Node)) : Except Error (List (Node × Node)) := do
  let (merged, own) ← mergedEntries entries
  return merged ++ own

mutual

def scalarText : Node → Except Error String
  | scalar _ _ _ text => .ok text
  | mapping start _ entries => valueText start entries
  | n => .error (unsuitable n)

def valueText (start : Mark) : List (Node × Node) → Except Error String
  | [] => .error (.misplaced .unsuitable start)
  | (k, v) :: es => if k.kind = .value then v.scalarText else valueText start es

end

/-- The value that a node has as a scalar of a kind. Only a scalar itself is a moment. -/
def scalarValue (kind : Kind) (n : Node) : Except Error Value := do
  let text ← n.scalarText
  match kind, n with
  | .timestamp, mapping .. => .error (.fault .wrongKind)
  | _, _ =>
    match kind.scalarValue text with
    | .ok (some v) => return v
    | .ok none => .error (unsuitable n)
    | .error f => .error (.fault f)

mutual

def height : Node → Nat
  | scalar .. => 0
  | endless .. => 0
  | sequence _ _ items => heightOfItems items + 1
  | mapping _ _ entries => heightOfEntries entries + 1

def heightOfItems : List Node → Nat
  | [] => 0
  | n :: ns => max n.height (heightOfItems ns)

def heightOfEntries : List (Node × Node) → Nat
  | [] => 0
  | (k, v) :: es => max (max k.height v.height) (heightOfEntries es)

end

def isCollection : Kind → Bool
  | .list | .mapping | .set | .pairs => true
  | _ => false

def atDepth {α : Type} (depth : Nat) : Except Error α → Loading α
  | .ok a => .ok a
  | .error e => Loading.fail depth e

/-- A scalar as a key; collections are none. -/
def keyValue (depth : Nat) (k : Node) : Loading Value :=
  if k.kind = .value then atDepth depth (k.scalarText.map .text)
  else if isCollection k.kind then Loading.fail depth (.misplaced .unhashableKey k.start)
  else atDepth depth (k.scalarValue k.kind)

def loadItems (load : Node → Loading Value) : List Node → Loading (List Value)
  | [] => .ok []
  | n :: ns => do
    let (v, vs) ← Loading.both (load n) (loadItems load ns)
    return v :: vs

def loadEntries (load : Node → Loading Value) (depth : Nat) :
    List (Node × Node) → Loading (List (Value × Value))
  | [] => .ok []
  | (k, v) :: es => do
    let entry := Loading.both (keyValue depth k) (load v)
    let (e, rest) ← Loading.both entry (loadEntries load depth es)
    return e :: rest

/-- Of entries with one key the first gives the place and the last the value. -/
def loadMapping (load : Node → Loading Value) (depth : Nat) (entries : List (Node × Node)) :
    Loading (List (Value × Value)) := do
  let entries ← atDepth depth (flatEntries entries)
  return Value.entriesOf (← loadEntries load depth entries)

def loadPair (load : Node → Loading Value) (depth : Nat) : Node → Loading (Value × Value)
  | mapping _ _ [(k, v)] => Loading.both (load k) (load v)
  | n => Loading.fail depth (unsuitable n)

def loadPairs (load : Node → Loading Value) (depth : Nat) : List Node → Loading (List Value)
  | [] => .ok []
  | n :: ns => do
    let (p, ps) ← Loading.both (loadPair load depth n) (loadPairs load depth ns)
    return .sequence .tuple [p.1, p.2] :: ps

/-- The data of a node inside `depth` collections and at most `fuel` high. -/
def load : Nat → Nat → Node → Loading Value
  | 0, depth, n => Loading.fail depth (unsuitable n)
  | fuel + 1, depth, n =>
    let inner := load fuel (depth + 1)
    match n, n.kind with
    | endless _ isMapping, _ => .ok (.special (.endless isMapping))
    | sequence _ _ items, .list => do return .sequence .list (← loadItems inner items)
    | sequence _ _ items, .pairs => do
      return .sequence .list (← loadPairs inner (depth + 1) items)
    | mapping _ _ entries, .mapping => do
      return .mapping .plain (← loadMapping inner (depth + 1) entries)
    | mapping _ _ entries, .set => do
      return .set false ((← loadMapping inner (depth + 1) entries).map Prod.fst)
    | n, kind =>
      if isCollection kind then Loading.fail (depth + 1) (unsuitable n)
      else atDepth depth (n.scalarValue kind)

end Node

def loadTyped (source : Source) : Except Error Value := do
  match ← Node.ofSource? source with
  | some root =>
    match Node.load (root.height + 1) 0 root with
    | .ok v => return v
    | .error t => throw t.error
  | none => return .null

end GraphTemplate.Yaml
