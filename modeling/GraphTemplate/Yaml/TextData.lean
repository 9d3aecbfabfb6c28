import GraphTemplate.Value
import GraphTemplate.Yaml.Node

/-!
The data of a document whose scalars are all texts: tags mean nothing, keys are texts, and no
mapping has a key twice. All keys of a mapping are looked at before the first of its values.
-/

namespace GraphTemplate.Yaml.Node

def text? : Node → Option String
  | scalar _ _ _ text => some text
  | _ => none

mutual

def textData : Node → Except Error Value
  | scalar _ _ _ text => .ok (.text text)
  | sequence _ _ items => do return .sequence .list (← textItems items)
  | mapping _ _ entries => do
    checkKeys entries []
    return .mapping .plain (← textEntries entries)
  | endless place _ => .error (.misplaced .recursiveNode place)

def textItems : List Node → Except Error (List Value)
  | [] => .ok []
  | n :: ns => do return (← n.textData) :: (← textItems ns)

/-- Refuses a text that is a key already. Keys of other kinds only have to be sound themselves. -/
def checkKeys : List (Node × Node) → List String → Except Error Unit
  | [], _ => .ok ()
  | (k, _) :: es, seen => do
    let _ ← k.textData
    match k.text? with
    | some t =>
      if seen.contains t then .error (.misplaced (.duplicateKey t) k.start)
      else checkKeys es (t :: seen)
    | none => checkKeys es seen

def textEntries : List (Node × Node) → Except Error (List (Value × Value))
  | [] => .ok []
  | (k, v) :: es => do
    match k.text? with
    | some t => return (.text t, ← v.textData) :: (← textEntries es)
    | none => .error (.misplaced .unhashableKey k.start)

end

end GraphTemplate.Yaml.Node

namespace GraphTemplate.Yaml

/-- Finds the nodes of a source; one without a document has none. -/
abbrev Composer := Source → Except Error (Option Node)

def loadTextBy (compose : Composer) (source : Source) : Except Error Value := do
  match ← compose source with
  | some root => root.textData
  | none => return .null

def loadText : Source → Except Error Value := loadTextBy Node.ofSource?

end GraphTemplate.Yaml
