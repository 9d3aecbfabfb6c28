import GraphTemplate.Build.Connections
import GraphTemplate.Build.Properties
import GraphTemplate.Yaml.TextData

/-!
Templates from documents and their sources. Labels are gone from the result: nodes have the
properties and connections of the labels they wear. A document with defects yields no template but
one line for every defect, in the order of the lines.
-/

namespace GraphTemplate

inductive TemplateFailure where
  | unreadable (reason : String)
  | unloadable (error : Yaml.Error)
  | misshapen (message : String)
  | noEdges
  | noNodes
  | defective (lines : List String)
  | fault (f : Fault)
  deriving DecidableEq

/-- What comes of reading a stream: its content, the reason why the system refuses to read it, or
any other failure, such as content in another encoding than that of the stream. -/
inductive Delivery where
  | content (source : Yaml.Source)
  | refused (reason : String)
  | failed (f : Fault)

structure Built where
  result : Except TemplateFailure Template
  log : List LogLine

namespace Build

open Assembly

def edgeType (name : String) (entry : EdgeEntry) : Assembly EntityType := do
  return ⟨name, ← properties ["edges", name] entry.properties⟩

def labelProperties (name : String) (entry : LabelEntry) : Assembly (NameTable Property) :=
  properties ["labels", name] entry.properties

def nodeLabels (defined : List String) (node : String) (index : Nat) : List String →
    Assembly (List String)
  | [] => pure []
  | label :: rest => do
    if defined.contains label then
      return label :: (← nodeLabels defined node (index + 1) rest)
    else
      report ["nodes", node, "labels", toString index] (.undefinedLabel node label)
      nodeLabels defined node (index + 1) rest

/-- A node type with its own properties only, and the labels it wears. -/
structure BareNode where
  properties : NameTable Property
  labels : List String

def bareNode (labels : List String) (name : String) (entry : NodeEntry) : Assembly BareNode := do
  let own ← properties ["nodes", name] entry.properties
  return ⟨own, ← nodeLabels labels name 1 entry.labels⟩

def inherit (own : NameTable Property) (label : NameTable Property) : NameTable Property :=
  label.entries.foldl (fun t e => if t.contains e.1 then t else t.insert e.1 e.2) own

/-- The properties of a node: its own, then those of its labels in order. -/
def nodeProperties (labels : NameTable (NameTable Property)) (node : BareNode) :
    NameTable Property :=
  node.labels.foldl (fun t label =>
    match labels.get? label with
    | some properties => inherit t properties
    | none => t) node.properties

/-- The nodes that wear a label, once for every time they list it. -/
def wearers (nodes : List (String × BareNode)) (label : String) : List String :=
  nodes.flatMap fun n => (n.2.labels.filter (· == label)).map fun _ => n.1

structure Counts where
  edges : Nat
  labels : Nat
  nodes : Nat
  connections : Nat

def Counts.text (c : Counts) : String :=
  "\x7b'edges': " ++ toString c.edges ++ ", 'labels': " ++ toString c.labels ++ ", 'nodes': " ++
    toString c.nodes ++ ", 'connections': " ++ toString c.connections ++ "\x7d"

/-- The template of a document, good only if no defect is reported. -/
def assemble (gather : Gathering) (d : Document) : Assembly Template := do
  let edges ← stage gather "edges" edgeType d.edges.entries
  let labels ← stage gather "labels" labelProperties d.labels.entries
  let labelTable := NameTable.ofList labels
  let links ←
    stage gather "label connections" (labelLinks d.edges.names d.labels.names) d.labels.entries
  let nodes ← stage gather "nodes" (bareNode d.labels.names) d.nodes.entries
  let scope : Scope := ⟨d.edges.names, d.nodes.names, NameTable.ofList links, wearers nodes⟩
  let nodeTable := NameTable.ofList nodes
  let rules ← stage gather "node connections" (fun name entry =>
    scope.nodeLinks name ((nodeTable.get? name).map BareNode.labels |>.getD [])
      entry.connections) d.nodes.entries
  return {
    nodes := NameTable.ofList
      (nodes.map fun n => (n.1, ⟨n.1, nodeProperties labelTable n.2⟩))
    edges := NameTable.ofList edges
    rules := NameTable.ofList rules }

def counts (d : Document) (t : Template) : Counts :=
  ⟨t.edges.size, d.labels.size, t.nodes.size, t.allRules.length⟩

/-- Lines in the order of their code points. -/
def lines (defects : List Defect) : List String := PropertyKeys.sorted (defects.map Defect.line)

def ofDocumentBy (gather : Gathering) (d : Document) : Built :=
  let (result, findings) := (assemble gather d).alone
  match result with
  | .error f => ⟨.error (.fault f), findings.log⟩
  | .ok t =>
    if findings.defects.isEmpty then
      ⟨.ok t, findings.log ++ [⟨.debug, "Template built: " ++ (counts d t).text⟩]⟩
    else
      ⟨.error (.defective (lines findings.defects)), findings.log ++
        [⟨.error, "Template has " ++ toString findings.defects.length ++ " error(s)"⟩]⟩

/-- Builds the template of a document on a single worker, which runs the tasks of a stage in the
order of the entries. -/
def ofDocument : Document → Built := ofDocumentBy fun _ => .all

def ofSourceBy (compose : Yaml.Composer) (source : Yaml.Source) : Built :=
  match Yaml.loadTextBy compose source with
  | .error (.fault f) => ⟨.error (.fault f), []⟩
  | .error e => ⟨.error (.unloadable e), []⟩
  | .ok data =>
    match Document.ofValue data with
    | .error (.fault f) => ⟨.error (.fault f), []⟩
    | .error (.shape message) => ⟨.error (.misshapen message), []⟩
    | .ok d =>
      if d.edges.isEmpty then ⟨.error .noEdges, []⟩
      else if d.nodes.isEmpty then ⟨.error .noNodes, []⟩
      else ofDocument d

def ofDeliveryBy (compose : Yaml.Composer) : Delivery → Built
  | .content source => ofSourceBy compose source
  | .refused reason => ⟨.error (.unreadable reason), []⟩
  | .failed f => ⟨.error (.fault f), []⟩

def ofSource : Yaml.Source → Built := ofSourceBy Yaml.Node.ofSource?

def ofDelivery : Delivery → Built := ofDeliveryBy Yaml.Node.ofSource?

end Build

namespace TemplateFailure

def wholeDocument (message : String) : String := "template >> " ++ message

/-- The lines that tell of a failure, if it is one of the source. What is wrong with the form of a
document is not told. -/
def lines? : TemplateFailure → Option (List String)
  | unreadable reason => some [wholeDocument ("can't read file: " ++ reason)]
  | unloadable _ => some [wholeDocument ".yaml parsing error:"]
  | misshapen message => some [wholeDocument (".yaml parsing error: " ++ message)]
  | noEdges => some [wholeDocument "there is no any edge definition"]
  | noNodes => some [wholeDocument "there is no any node definition"]
  | defective lines => some lines
  | fault _ => none

end TemplateFailure

end GraphTemplate
