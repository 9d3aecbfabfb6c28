import GraphTemplate.Restriction

/-!
What comes to light while a template is built: defects, each with its place in the document, and
lines of the log. A defect never ends a build, so that all of them are found at once; only a fault
ends it, after the other entries of the same stage.
-/

namespace GraphTemplate

inductive Owner where
  | node
  | label
  deriving DecidableEq

namespace Owner

def name : Owner → String
  | node => "node"
  | label => "label"

def sectionName : Owner → String
  | node => "nodes"
  | label => "labels"

end Owner

namespace Defect

inductive Cause where
  | type (error : DescriptorError)
  | restriction (error : RestrictionError)
  | undefinedLabel (node label : String)
  | undefinedSubject (owner : Owner) (main subject : String)
  | undefinedEdge (owner : Owner) (main edge : String)
  /-- A connection that is declared before. -/
  | repeated (owner : Owner) (main subject edge : String)
  | minimum
  | maximum

def Cause.message : Cause → String
  | type e => e.message
  | restriction e => e.message
  | undefinedLabel node label =>
    "\"" ++ node ++ "\" node has undefined label \"" ++ label ++ "\" to attach it to node type"
  | undefinedSubject owner main subject =>
    owner.name ++ " \"" ++ main ++ "\" has undefined subject " ++ owner.name ++ " \"" ++ subject ++
      "\" to create connection"
  | undefinedEdge owner main edge =>
    owner.name ++ " \"" ++ main ++ "\" has undefined edge \"" ++ edge ++ "\" to create connection"
  | repeated owner main subject edge =>
    owner.name ++ "-connection with \"" ++ main ++ "\" main, \"" ++ edge ++ "\" edge and \"" ++
      subject ++ "\" subject already exists"
  | minimum => "\"min\" can't be less than 0"
  | maximum =>
    "\"max\" can't be equal to 0 or be less than -1 (-1 is considered as positive infinity)"

end Defect

structure Defect where
  /-- Names on the way from the document to the place. -/
  place : List String
  cause : Defect.Cause

namespace Defect

def placeText (place : List String) : String := " | ".intercalate ("template" :: place)

def line (d : Defect) : String := placeText d.place ++ " >> " ++ d.cause.message

end Defect

inductive LogLevel where
  | debug
  | warning
  | error
  deriving DecidableEq

def LogLevel.name : LogLevel → String
  | debug => "DEBUG"
  | warning => "WARNING"
  | error => "ERROR"

structure LogLine where
  level : LogLevel
  message : String
  deriving DecidableEq

structure Findings where
  defects : List Defect
  log : List LogLine

namespace Findings

def none : Findings := ⟨[], []⟩

def append (f f' : Findings) : Findings := ⟨f.defects ++ f'.defects, f.log ++ f'.log⟩

instance : Append Findings := ⟨append⟩

def all : List Findings → Findings
  | [] => none
  | f :: fs => f ++ all fs

end Findings

/-- A part of a build. What it has found stays when it ends with a fault. -/
abbrev Assembly := ExceptT Fault (StateM Findings)

/-- Puts together what the tasks of a stage find, given the name of the stage and what each task
finds. The tasks run on several workers, which decide on the order. -/
abbrev Gathering := String → List Findings → Findings

namespace Assembly

def add (found : Findings) : Assembly Unit := modify fun f => f ++ found

def report (place : List String) (cause : Defect.Cause) : Assembly Unit :=
  add ⟨[⟨place, cause⟩], []⟩

def say (level : LogLevel) (message : String) : Assembly Unit := add ⟨[], [⟨level, message⟩]⟩

def lift {α : Type} (result : Except Fault α) : Assembly α := ExceptT.mk (pure result)

def alone {α : Type} (m : Assembly α) : Except Fault α × Findings := m.run.run .none

/-- A stage of the build. All its tasks are run, whatever becomes of the others; of several faults
it ends with that of the first entry. -/
def stage {α β : Type} (gather : Gathering) (name : String) (task : String → α → Assembly β)
    (entries : List (String × α)) : Assembly (List (String × β)) := do
  say .debug ("Stage '" ++ name ++ "': " ++ toString entries.length ++ " entries")
  let runs := entries.map fun e => (e.1, (task e.1 e.2).alone)
  add (gather name (runs.map fun r => r.2.2))
  lift (runs.mapM fun r => return (r.1, ← r.2.1))

end Assembly

end GraphTemplate
