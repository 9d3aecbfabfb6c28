import GraphTemplate.Fault

/-!
Violations: why data does not fit a template. A violation knows its cause and the contexts it was
found in, outermost first; its message is the contexts followed by the cause.
-/

namespace GraphTemplate

inductive EntityKind where
  | node
  | edge
  deriving DecidableEq

def EntityKind.name : EntityKind → String
  | node => "node"
  | edge => "edge"

structure Triple where
  main : String
  subject : String
  edge : String
  deriving DecidableEq

namespace Violation

inductive Cause where
  | unknownType (kind : EntityKind) (typeName : String)
  /-- Properties that are not declared, or declared ones that are not there; one list is not
  empty. -/
  | keys (extra missing : List String)
  | wrongType (key shown expected : String)
  /-- A value, an element or a key that no restriction accepts. -/
  | rejected (key shown what : String) (restrictions : List String)
  | untypedProperty (key : String)
  | undeclared (triple : Triple)
  | belowMinimum (triple : Triple) (count bound : Int)
  | aboveMaximum (triple : Triple) (count bound : Int)
  | noConnection (node edge : String)
  | unsupported (kindName : String)
  | noMatchingType
  | neither (asNode asEdge : String)
  deriving DecidableEq

def quotedList (names : List String) : String :=
  ", ".intercalate (names.map fun n => "\"" ++ n ++ "\"")

/-- What is wrong with the keys of an entity: some are not declared, some declared ones are not
there, or both. -/
inductive KeysMismatch where
  | extra
  | missing
  | both
  deriving DecidableEq

def KeysMismatch.of (extra missing : List String) : KeysMismatch :=
  if extra.isEmpty then .missing else if missing.isEmpty then .extra else .both

def keysMessage (extra missing : List String) : String :=
  let has := "has extra " ++ quotedList extra ++ " properties"
  let lacks := "doesn't have " ++ quotedList missing ++ " properties"
  "validated entity " ++
    match KeysMismatch.of extra missing with
    | .extra => has
    | .missing => lacks
    | .both => has ++ " and " ++ lacks

def countMessage (t : Triple) (count : Int) (comparison : String) (bound : Int) : String :=
  "\"" ++ t.main ++ "\"-node has " ++ toString count ++ " \"" ++ t.edge ++ "\"-connections to \"" ++
    t.subject ++ "\" nodes which is " ++ comparison ++ " of " ++ toString bound

def Cause.message : Cause → String
  | unknownType kind typeName =>
    "\"" ++ typeName ++ "\"-" ++ kind.name ++ ": there is no such " ++ kind.name ++
      " type in template"
  | keys extra missing => keysMessage extra missing
  | wrongType key shown expected =>
    "\"" ++ key ++ "\"-property: \"" ++ shown ++ "\" value doesn't match \"" ++ expected ++
      "\" data type"
  | rejected key shown what restrictions =>
    "\"" ++ key ++ "\"-property: \"" ++ shown ++ "\" " ++ what ++ " doesn't match any of " ++
      quotedList restrictions ++ " restrictions"
  | untypedProperty key => "\"" ++ key ++ "\"-property: value doesn't match any possible data type"
  | undeclared t =>
    "there is no connection in template with \"" ++ t.main ++ "\" main node, \"" ++ t.edge ++
      "\" edge and \"" ++ t.subject ++ "\" subject node"
  | belowMinimum t count bound => countMessage t count "less than minimum" bound
  | aboveMaximum t count bound => countMessage t count "more than maximum" bound
  | noConnection node edge =>
    "there is no connection in template with \"" ++ node ++ "\" node and \"" ++ edge ++ "\" edge"
  | unsupported kindName =>
    "unknown value: value of type \"" ++ kindName ++
      "\" can't be evaluated - it's not a mapping or a record"
  | noMatchingType =>
    "unknown value: values type name doesn't match any of the templates nodes or edges"
  | neither asNode asEdge =>
    "unknown value: value had failed both validations: as node - " ++ asNode ++ "; as edge - " ++
      asEdge

end Violation

structure Violation where
  cause : Violation.Cause
  contexts : List String
  deriving DecidableEq

namespace Violation

def message (v : Violation) : String :=
  v.contexts.foldr (fun c m => c ++ ": " ++ m) v.cause.message

def within (context : String) (v : Violation) : Violation :=
  { v with contexts := context :: v.contexts }

end Violation

/-- A check ends early with a violation, or with a fault that is none. -/
inductive Failure where
  | violation (v : Violation)
  | fault (f : Fault)
  deriving DecidableEq

abbrev Check := Except Failure

namespace Check

def violated {α : Type} (cause : Violation.Cause) : Check α := .error (.violation ⟨cause, []⟩)

def lift {α : Type} : Except Fault α → Check α
  | .ok a => .ok a
  | .error f => .error (.fault f)

def within {α : Type} (context : String) : Check α → Check α
  | .error (.violation v) => .error (.violation (v.within context))
  | c => c

theorem within_eq_ok {α : Type} {context : String} {c : Check α} {a : α} :
    within context c = .ok a ↔ c = .ok a := by
  unfold within
  split
  · simp
  · rfl

end Check

end GraphTemplate
