import GraphTemplate.Structural

/-!
The verdict on anything that a template can judge. The first violation is a part of the verdict and
no failure; only faults are failures.
-/

namespace GraphTemplate

inductive Verdict where
  | valid
  | matched (m : Match)
  | invalid (v : Violation)
  deriving DecidableEq

namespace Verdict

def isOk : Verdict → Bool
  | invalid _ => false
  | _ => true

def match? : Verdict → Option Match
  | matched m => some m
  | _ => none

def violation? : Verdict → Option Violation
  | invalid v => some v
  | _ => none

def message : Verdict → String
  | valid => "value is valid"
  | matched m => m.message
  | invalid v => v.message

def ofCheck {α : Type} (pass : α → Verdict) : Check α → Except Fault Verdict
  | .ok a => .ok (pass a)
  | .error (.violation v) => .ok (invalid v)
  | .error (.fault f) => .error f

end Verdict

inductive Subject where
  | node (e : Entity)
  | edge (e : Entity)
  | triplet (t : Triplet (Option Entity) (Option Entity))
  | duplet (node edge : Option Entity)
  | unknown (v : Value)

namespace Template

def judge (t : Template) : Subject → Except Fault Verdict
  | .node e => Verdict.ofCheck (fun _ => .valid) (t.checkNode e)
  | .edge e => Verdict.ofCheck (fun _ => .valid) (t.checkEdge e)
  | .triplet r => Verdict.ofCheck (fun _ => .valid) (t.checkTriplet r)
  | .duplet n e => Verdict.ofCheck (fun _ => .valid) (t.checkDuplet n e)
  | .unknown v => Verdict.ofCheck .matched (t.checkUnknown v)

/-- The verdict on a graph, and the graph with its index brought up to date. -/
def judgeGraph (t : Template) (w : Contents) (g : Graph) : Except Fault Verdict × Graph :=
  let (result, g') := ((t.checkGraph w).run).run g
  (Verdict.ofCheck (fun _ => .valid) result, g')

end Template

end GraphTemplate
