import GraphTemplate.Build.Findings
import GraphTemplate.Document
import GraphTemplate.Template

/-!
Connections of labels and nodes from their entries in a document. An entry with a defect is left
out. A node has the connections of its labels, each to all nodes that wear the label's subject,
and those of its own, which go before them.
-/

namespace GraphTemplate

structure Bounds where
  min : Int
  max : Int
  deriving DecidableEq

namespace Build

open Assembly

def connectionDefects (owner : Owner) (main subject : String) (entry : ConnectionEntry)
    (hasSubject hasEdge isRepeated : Bool) : List (List String × Defect.Cause) :=
  (if hasSubject then [] else [([], .undefinedSubject owner main subject)]) ++
    (if hasEdge then [] else [([], .undefinedEdge owner main entry.edge)]) ++
    (if isRepeated then [([], .repeated owner main subject entry.edge)] else []) ++
    (if entry.min < 0 then [(["ratio", "min"], .minimum)] else []) ++
    (if entry.max = 0 || entry.max < Rule.unbounded then [(["ratio", "max"], .maximum)] else [])

def reportAll (place : List String) : List (List String × Defect.Cause) → Assembly Unit
  | [] => pure ()
  | (rest, cause) :: others => do
    report (place ++ rest) cause
    reportAll place others

/-- What connections of one owner are entered into, and what is known about the names in them. -/
structure Linking (α : Type) where
  owner : Owner
  main : String
  hasSubject : String → Bool
  hasEdge : String → Bool
  /-- Whether an entry of the table is one that must not be declared again. -/
  isDeclared : α → Bool
  make : String → ConnectionEntry → α

namespace Linking

variable {α : Type}

def isRepeated (l : Linking α) (t : LinkTable α) (subject edge : String) : Bool :=
  (t.get? subject edge).any l.isDeclared

def addEntries (l : Linking α) (subject : String) (index : Nat) (t : LinkTable α) :
    List ConnectionEntry → Assembly (LinkTable α)
  | [] => pure t
  | entry :: rest => do
    let place := [l.owner.sectionName, l.main, "connections", subject, toString index]
    let defects := connectionDefects l.owner l.main subject entry (l.hasSubject subject)
      (l.hasEdge entry.edge) (l.isRepeated t subject entry.edge)
    reportAll place defects
    let t' := if defects.isEmpty then t.insert subject entry.edge (l.make subject entry) else t
    addEntries l subject (index + 1) t' rest

def addSubjects (l : Linking α) (t : LinkTable α) :
    List (String × List ConnectionEntry) → Assembly (LinkTable α)
  | [] => pure t
  | (subject, entries) :: rest => do
    addSubjects l (← l.addEntries subject 1 t entries) rest

end Linking

def labelLinks (edges : List String) (labels : List String) (name : String)
    (entry : LabelEntry) : Assembly (LinkTable Bounds) :=
  let l : Linking Bounds :=
    { owner := .label
      main := name
      hasSubject := labels.contains
      hasEdge := edges.contains
      isDeclared := fun _ => true
      make := fun _ c => ⟨c.min, c.max⟩ }
  l.addSubjects .empty entry.connections.entries

structure Scope where
  edges : List String
  nodes : List String
  /-- The connections of every label. -/
  labelLinks : NameTable (LinkTable Bounds)
  /-- The nodes that wear a label. -/
  wearers : String → List String

namespace Scope

def expandLabel (s : Scope) (main : String) (t : LinkTable Rule) (label : String) :
    LinkTable Rule :=
  match s.labelLinks.get? label with
  | none => t
  | some links =>
    links.entries.foldl (fun t link =>
      link.2.entries.foldl (fun t edge =>
        (s.wearers link.1).foldl (fun t subject =>
          t.insertMissing subject edge.1
            ⟨main, subject, edge.1, edge.2.min, edge.2.max, some label⟩) t) t) t

/-- The connections that a node has from its labels. Of two for one link the first stays. -/
def expand (s : Scope) (main : String) (labels : List String) : LinkTable Rule :=
  labels.foldl (s.expandLabel main) .empty

def nodeLinks (s : Scope) (name : String) (labels : List String) (entries : ConnectionEntries) :
    Assembly (LinkTable Rule) :=
  let l : Linking Rule :=
    { owner := .node
      main := name
      hasSubject := s.nodes.contains
      hasEdge := s.edges.contains
      isDeclared := fun r => r.label.isNone
      make := fun subject c => ⟨name, subject, c.edge, c.min, c.max, none⟩ }
  l.addSubjects (s.expand name labels) entries.entries

end Scope

end Build

end GraphTemplate
