import GraphTemplate.Build
import GraphTemplate.Proofs.Build.Declarations
import GraphTemplate.Proofs.Build.Links
import GraphTemplate.Proofs.NameTable

/-! A document with its template, its defects and its first fault, each read without a run. A build
comes to just that: it finds every defect, and no defect hides, makes or changes another one. -/
namespace GraphTemplate

namespace Document

open Build Assembly

variable (d : Document)

def labelDefects (node : String) (labels : List String) (index : Nat) : List Defect :=
  (labels.zipIdx index).filterMap fun label =>
    if label.1 ∈ d.labels.names then none
    else some ⟨["nodes", node, "labels", toString label.2], .undefinedLabel node label.1⟩

def defects : List Defect :=
  (d.edges.entries.flatMap fun e => e.2.properties.defects ["edges", e.1]) ++
  (d.labels.entries.flatMap fun e => e.2.properties.defects ["labels", e.1]) ++
  (d.labels.entries.flatMap fun e => d.connectionDefects .label e.1 e.2.connections.entries) ++
  (d.nodes.entries.flatMap fun e =>
    e.2.properties.defects ["nodes", e.1] ++ d.labelDefects e.1 e.2.labels 1) ++
  (d.nodes.entries.flatMap fun e => d.connectionDefects .node e.1 e.2.connections.entries)

def fault? : Option Fault :=
  ((d.edges.entries.findSome? fun e => e.2.properties.fault?).or
    (d.labels.entries.findSome? fun e => e.2.properties.fault?)).or
    (d.nodes.entries.findSome? fun e => e.2.properties.fault?)

def wornLabels (entry : NodeEntry) : List String := entry.labels.filter (d.labels.names.contains ·)

def bareNodes : List (String × BareNode) :=
  d.nodes.entries.map fun e => (e.1, ⟨e.2.properties.table, d.wornLabels e.2⟩)

def labelLinking (label : String) : Linking Bounds where
  owner := .label
  main := label
  hasSubject := d.labels.names.contains
  hasEdge := d.edges.names.contains
  isDeclared _ := true
  make _ c := ⟨c.min, c.max⟩

def labelTable (e : String × LabelEntry) : LinkTable Bounds :=
  (d.labelLinking e.1).enterAll d .empty e.2.connections.entries

def scope : Scope where
  edges := d.edges.names
  nodes := d.nodes.names
  labelLinks := NameTable.ofList (d.labels.entries.map fun e => (e.1, d.labelTable e))
  wearers := wearers d.bareNodes

def nodeLinking (node : String) : Linking Rule where
  owner := .node
  main := node
  hasSubject := d.nodes.names.contains
  hasEdge := d.edges.names.contains
  isDeclared r := r.label.isNone
  make subject c := ⟨node, subject, c.edge, c.min, c.max, none⟩

/-- The connections of a node: those of its labels, then its own in their place. -/
def nodeTable (e : String × NodeEntry) : LinkTable Rule :=
  (d.nodeLinking e.1).enterAll d (d.scope.expand e.1 (d.wornLabels e.2)) e.2.connections.entries

def template : Template where
  nodes := NameTable.ofList (d.bareNodes.map fun n =>
    (n.1, ⟨n.1, nodeProperties (NameTable.ofList (d.labels.entries.map fun e =>
      (e.1, e.2.properties.table))) n.2⟩))
  edges := NameTable.ofList (d.edges.entries.map fun e => (e.1, ⟨e.1, e.2.properties.table⟩))
  rules := NameTable.ofList (d.nodes.entries.map fun e => (e.1, d.nodeTable e))

def findings (gather : Gathering) : Findings :=
  stageFindings gather "edges" (fun e => e.2.properties.findings ["edges", e.1]) d.edges.entries ++
  (stageFindings gather "labels" (fun e => e.2.properties.findings ["labels", e.1])
    d.labels.entries ++
  (stageFindings gather "label connections"
    (fun e => ⟨d.connectionDefects .label e.1 e.2.connections.entries, []⟩) d.labels.entries ++
  (stageFindings gather "nodes"
    (fun e => e.2.properties.findings ["nodes", e.1] ++ ⟨d.labelDefects e.1 e.2.labels 1, []⟩)
    d.nodes.entries ++
  stageFindings gather "node connections"
    (fun e => ⟨d.connectionDefects .node e.1 e.2.connections.entries, []⟩) d.nodes.entries)))

theorem labelDefects_cons (node label : String) (labels : List String) (index : Nat) :
    d.labelDefects node (label :: labels) index =
      if label ∈ d.labels.names then d.labelDefects node labels (index + 1)
      else ⟨["nodes", node, "labels", toString index], .undefinedLabel node label⟩ ::
        d.labelDefects node labels (index + 1) := by
  unfold labelDefects
  rw [List.zipIdx_cons, List.filterMap_cons]
  by_cases hl : label ∈ d.labels.names
  · simp only [hl, if_true]
  · simp only [hl, if_false]

theorem perm_defects_findings {gather : Gathering} (h : gather.KeepsDefects) :
    (d.findings gather).defects.Perm d.defects := by
  unfold findings defects
  simp only [Findings.append_eq, List.append_assoc, ← PropertyEntries.defects_findings]
  exact (h.perm_stage _ _ _).append ((h.perm_stage _ _ _).append ((h.perm_stage _ _ _).append
    ((h.perm_stage _ _ _).append (h.perm_stage _ _ _))))

variable {d}

theorem follows_labelLinking (label : String) : (d.labelLinking label).Follows d where
  hasSubject s := List.contains_eq_mem s _
  hasEdge e := List.contains_eq_mem e _
  isDeclared _ _ := rfl

theorem follows_nodeLinking (node : String) : (d.nodeLinking node).Follows d where
  hasSubject s := List.contains_eq_mem s _
  hasEdge e := List.contains_eq_mem e _
  isDeclared _ _ := rfl

end Document

namespace Build

open Assembly

variable {d : Document}

theorem comes_edgeType (name : String) (entry : EdgeEntry) :
    Comes (edgeType name entry) entry.properties.fault? ⟨name, entry.properties.table⟩
      (entry.properties.findings ["edges", name]) :=
  (comes_properties _ _).map rfl

theorem comes_labelProperties (name : String) (entry : LabelEntry) :
    Comes (labelProperties name entry) entry.properties.fault? entry.properties.table
      (entry.properties.findings ["labels", name]) :=
  comes_properties _ _

theorem comes_nodeLabels (d : Document) (node : String) (labels : List String) (index : Nat) :
    Comes (nodeLabels d.labels.names node index labels) none
      (labels.filter (d.labels.names.contains ·)) ⟨d.labelDefects node labels index, []⟩ := by
  induction labels generalizing index with
  | nil => exact comes_pure []
  | cons label labels ih =>
    unfold nodeLabels
    rw [Document.labelDefects_cons]
    by_cases hl : label ∈ d.labels.names
    · have hc : d.labels.names.contains label = true := by
        rwa [List.contains_eq_mem, decide_eq_true_eq]
      rw [if_pos hc, List.filter_cons_of_pos hc, if_pos hl]
      exact (ih (index + 1)).map rfl
    · have hc : ¬d.labels.names.contains label = true := by
        rwa [List.contains_eq_mem, decide_eq_true_eq]
      rw [if_neg hc, List.filter_cons_of_neg hc, if_neg hl]
      exact (comes_report _ _).bind (ih (index + 1)) rfl rfl

theorem comes_bareNode (d : Document) (name : String) (entry : NodeEntry) :
    Comes (bareNode d.labels.names name entry) entry.properties.fault?
      ⟨entry.properties.table, d.wornLabels entry⟩
      (entry.properties.findings ["nodes", name] ++ ⟨d.labelDefects name entry.labels 1, []⟩) :=
  (comes_properties _ _).bind ((comes_nodeLabels d name entry.labels 1).map rfl) Option.or_none rfl

theorem comes_labelLinks (d : Document) (e : String × LabelEntry) :
    Comes (labelLinks d.edges.names d.labels.names e.1 e.2) none (d.labelTable e)
      ⟨d.connectionDefects .label e.1 e.2.connections.entries, []⟩ :=
  Linking.comes_addSubjects (Document.follows_labelLinking e.1) e.2.connections.distinct
    fun _ _ _ => rfl

end Build

end GraphTemplate
