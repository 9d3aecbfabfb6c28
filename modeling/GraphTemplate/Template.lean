import GraphTemplate.Graph
import GraphTemplate.Property

/-!
Templates: the types of nodes and edges, and the rules for the edges between nodes of two types.
The checks end with the first violation found.
-/

namespace GraphTemplate

/-- How many edges of a type a node may have to nodes of a type, for each node of the main type.
There is no upper bound if `max` is -1. -/
structure Rule where
  main : String
  subject : String
  edge : String
  min : Int
  max : Int
  /-- The label that the rule comes from, if it is not declared by the node type itself. -/
  label : Option String
  deriving DecidableEq

namespace Rule

def unbounded : Int := -1

def allows (r : Rule) (count : Int) : Bool :=
  decide (r.min ≤ count) && (r.max == unbounded || decide (count ≤ r.max))

theorem allows_iff (r : Rule) (count : Int) :
    r.allows count = true ↔ r.min ≤ count ∧ (r.max = -1 ∨ count ≤ r.max) := by
  simp [allows, unbounded]

def triple (r : Rule) : Triple := ⟨r.main, r.subject, r.edge⟩

def checkCount (r : Rule) (count : Int) : Check Unit :=
  if count < r.min then Check.violated (.belowMinimum r.triple count r.min)
  else if r.allows count then .ok ()
  else Check.violated (.aboveMaximum r.triple count r.max)

theorem checkCount_eq_ok_iff (r : Rule) (count : Int) :
    r.checkCount count = .ok () ↔ r.allows count = true := by
  unfold checkCount
  split
  · next h => simp [Check.violated, allows, Int.not_le.2 h]
  · split <;> simp_all [Check.violated]

end Rule

/-- What is said about links: under the type of the subject, then that of the edge. -/
abbrev LinkTable (α : Type) := NameTable (NameTable α)

namespace LinkTable

variable {α : Type}

def get? (t : LinkTable α) (subject edge : String) : Option α :=
  (NameTable.get? t subject).bind (·.get? edge)

def insert (t : LinkTable α) (subject edge : String) (a : α) : LinkTable α :=
  NameTable.insert t subject (((NameTable.get? t subject).getD .empty).insert edge a)

def insertMissing (t : LinkTable α) (subject edge : String) (a : α) : LinkTable α :=
  if (t.get? subject edge).isSome then t else t.insert subject edge a

def toList (t : LinkTable α) : List α := (NameTable.values t).flatMap NameTable.values

theorem get?_insert (t : LinkTable α) (subject edge subject' edge' : String) (a : α) :
    (t.insert subject edge a).get? subject' edge' =
      if subject' = subject ∧ edge' = edge then some a else t.get? subject' edge' := by
  by_cases hs : subject' = subject
  · subst hs
    by_cases he : edge' = edge
    · subst he
      simp [get?, insert]
    · cases h : NameTable.get? t subject' <;> simp [get?, insert, he, h]
  · simp [get?, insert, hs]

theorem get?_insertMissing (t : LinkTable α) (subject edge subject' edge' : String) (a : α) :
    (t.insertMissing subject edge a).get? subject' edge' =
      if subject' = subject ∧ edge' = edge then some ((t.get? subject edge).getD a)
      else t.get? subject' edge' := by
  unfold insertMissing
  split
  · next h =>
    obtain ⟨b, hb⟩ := Option.isSome_iff_exists.1 h
    split
    · next hse => simp [hse.1, hse.2, hb]
    · rfl
  · next h =>
    have hn : t.get? subject edge = none := by simpa using h
    rw [get?_insert]
    split
    · simp [hn]
    · rfl

end LinkTable

abbrev RuleTable := NameTable (LinkTable Rule)

namespace RuleTable

def get? (t : RuleTable) (main subject edge : String) : Option Rule :=
  (NameTable.get? t main).bind (LinkTable.get? · subject edge)

def ofMain (t : RuleTable) (main : String) : List Rule :=
  match NameTable.get? t main with
  | some links => LinkTable.toList links
  | none => []

def toList (t : RuleTable) : List Rule := (NameTable.values t).flatMap LinkTable.toList

end RuleTable

structure Template where
  nodes : NameTable EntityType
  edges : NameTable EntityType
  rules : RuleTable

namespace Template

def rule? (t : Template) (main subject edge : String) : Option Rule :=
  t.rules.get? main subject edge

def allRules (t : Template) : List Rule := t.rules.toList

def namesText (names : List String) : String :=
  "[" ++ ", ".intercalate ((PropertyKeys.sorted names).map quoted) ++ "]"

def summary (t : Template) : String :=
  "Template(nodes=" ++ namesText t.nodes.names ++ ", edges=" ++ namesText t.edges.names ++
    ", connections=" ++ toString t.allRules.length ++ ")"

def typesOf (t : Template) : EntityKind → NameTable EntityType
  | .node => t.nodes
  | .edge => t.edges

def entityContext (kind : EntityKind) (name : String) : String :=
  "\"" ++ name ++ "\"-" ++ kind.name

def checkEntity (t : Template) (kind : EntityKind) (e : Entity) : Check Unit :=
  match (t.typesOf kind).get? e.typeName with
  | some type => Check.within (entityContext kind e.typeName) (type.check e.properties)
  | none => Check.violated (.unknownType kind e.typeName)

def checkNode (t : Template) (e : Entity) : Check Unit := t.checkEntity .node e
def checkEdge (t : Template) (e : Entity) : Check Unit := t.checkEntity .edge e

def present {α : Type} : Option α → Check α
  | some a => .ok a
  | none => .error (.fault .missingPart)

def checkTriplet (t : Template) (triplet : Triplet (Option Entity) (Option Entity)) :
    Check Unit := do
  let main ← present triplet.main
  let subject ← present triplet.subject
  let edge ← present triplet.edge
  if (t.rule? main.typeName subject.typeName edge.typeName).isNone then
    Check.violated (.undeclared ⟨main.typeName, subject.typeName, edge.typeName⟩)
  Check.within "Main node of triplet" (t.checkNode main)
  Check.within "Subject node of triplet" (t.checkNode subject)
  Check.within "Edge of triplet" (t.checkEdge edge)

/-- Whether a rule joins nodes of a type, at either end, by edges of a type. -/
def joins (node edge : String) (r : Rule) : Bool :=
  r.edge == edge && (r.main == node || r.subject == node)

/-- Checks a node and an edge whose other end is not known. -/
def checkDuplet (t : Template) (node edge : Option Entity) : Check Unit := do
  let node ← present node
  let edge ← present edge
  unless t.allRules.any (joins node.typeName edge.typeName) do
    Check.violated (.noConnection node.typeName edge.typeName)
  Check.within "Node of duplet" (t.checkNode node)
  Check.within "Edge of duplet" (t.checkEdge edge)

abbrev Link := String × String

def linkOf (w : Contents) (subject : NodeId) (edge : EdgeId) : Link :=
  ((w.node subject).typeName, (w.edge edge).typeName)

def checkChildren (t : Template) (w : Contents) : List (NodeId × EdgeId) → Check Unit
  | [] => .ok ()
  | (subject, edge) :: rest => do
    t.checkEdge (w.edge edge)
    t.checkNode (w.node subject)
    checkChildren t w rest

/-- Checks the number of edges for every link that occurs, each once. -/
def checkLinks (t : Template) (main : String) (counted : List Link) : List Link → List Link →
    Check Unit
  | _, [] => .ok ()
  | seen, link :: rest =>
    if seen.contains link then checkLinks t main counted seen rest
    else
      match t.rule? main link.1 link.2 with
      | some rule => do
        rule.checkCount (counted.count link)
        checkLinks t main counted (link :: seen) rest
      | none => Check.violated (.undeclared ⟨main, link.1, link.2⟩)

def checkUnused (links : List Link) : List Rule → Check Unit
  | [] => .ok ()
  | rule :: rest => do
    unless links.contains (rule.subject, rule.edge) do rule.checkCount 0
    checkUnused links rest

abbrev GraphCheck := ExceptT Failure (StateM Graph)

def asked {α : Type} (action : Graph.Action α) : GraphCheck α := ExceptT.adapt Failure.fault action

def judged (check : Check Unit) : GraphCheck Unit := ExceptT.mk (pure check)

def checkMain (t : Template) (w : Contents) (n : NodeId) : GraphCheck Unit := do
  judged (t.checkNode (w.node n))
  let children ← asked (Graph.children w n)
  judged (t.checkChildren w children)
  let counted := children.map fun c => linkOf w c.1 c.2
  let triplets ← asked (Graph.tripletsOfNode w n)
  let links := triplets.map fun t => linkOf w t.subject t.edge
  judged (t.checkLinks (w.node n).typeName counted [] links)
  judged (checkUnused links (t.rules.ofMain (w.node n).typeName))

def checkMains (t : Template) (w : Contents) : List NodeId → GraphCheck Unit
  | [] => pure ()
  | n :: ns => do
    t.checkMain w n
    checkMains t w ns

def checkGraph (t : Template) (w : Contents) : GraphCheck Unit := do
  t.checkMains w (← get).nodes

end Template

end GraphTemplate
