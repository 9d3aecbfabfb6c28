import GraphTemplate.PropertyKeys

/-!
Shapes that the data of a template document must have, and the first place where it has another
one. Apart from single texts, an empty text has every shape: it stands for a section left out.
-/

namespace GraphTemplate

inductive Shape where
  | text
  /-- The text of a decimal integer. -/
  | integer
  | list (item : Shape)
  /-- A mapping whose keys are all known. -/
  | closed (fields : List (String × Shape))
  | table (entry : Shape)

namespace Shape

inductive Step where
  | key (name : String)
  | index (n : Nat)
  deriving DecidableEq

def Step.text : Step → String
  | key name => name
  | index n => toString n

inductive Defect where
  | notText
  | notInteger
  /-- A value of a kind that the shape does not have. -/
  | unsuitable
  | unknownKeys (names : List String)
  deriving DecidableEq

structure Complaint where
  path : List Step
  value : Value
  defect : Defect

namespace Complaint

def under (step : Step) (c : Complaint) : Complaint := { c with path := step :: c.path }

def unknownKeysMessage (names : List String) : String :=
  "Additional properties are not allowed (" ++ ", ".intercalate (names.map quoted) ++
    (if names.length = 1 then " was" else " were") ++ " unexpected)"

def defectMessage (c : Complaint) : Except Fault String :=
  match c.defect with
  | .notText => do return (← c.value.form) ++ " is not of type 'string'"
  | .notInteger => do return (← c.value.form) ++ " does not match '^[-+]?\\\\d+$'"
  | .unsuitable => do return (← c.value.form) ++ " is not valid under any of the given schemas"
  | .unknownKeys names => .ok (unknownKeysMessage names)

def message (c : Complaint) : Except Fault String := do
  return "/" ++ "/".intercalate (c.path.map Step.text) ++ ": " ++ (← c.defectMessage)

end Complaint

/-- A sign, digits and perhaps one line break at the end. -/
def isIntegerText (s : String) : Bool :=
  let cs := (spanSign s.toList).2
  let ds := if cs.getLast? == some '\n' then cs.dropLast else cs
  !ds.isEmpty && ds.all isDecimalDigit

def isEmptyText : Value → Bool
  | .text s => s.isEmpty
  | _ => false

def field? (key : String) : List (Value × Value) → Option Value
  | [] => none
  | (.text k, v) :: es => if k = key then some v else field? key es
  | _ :: es => field? key es

def textKeys (entries : List (Value × Value)) : List String :=
  entries.filterMap fun e =>
    match e.1 with
    | .text k => some k
    | _ => none

def least : List (String × Complaint) → Option Complaint
  | [] => none
  | (k, c) :: rest =>
    if rest.all fun e => decide (k ≤ e.1) then some (c.under (.key k)) else least rest

def unknownKeys? (known : List String) (v : Value) (entries : List (Value × Value)) :
    Option Complaint :=
  let extra := PropertyKeys.sorted ((textKeys entries).filter fun k => !known.contains k)
  if extra.isEmpty then none else some ⟨[], v, .unknownKeys extra⟩

mutual

/-- The complaint about the innermost value that comes first. -/
def complaint? : Shape → Value → Option Complaint
  | text, v =>
    match v with
    | .text _ => none
    | _ => some ⟨[], v, .notText⟩
  | integer, v =>
    match v with
    | .text s => if isIntegerText s then none else some ⟨[], v, .notInteger⟩
    | _ => some ⟨[], v, .notText⟩
  | list item, v =>
    match v with
    | .sequence .list items => firstItem item 0 items
    | _ => if isEmptyText v then none else some ⟨[], v, .unsuitable⟩
  | closed fields, v =>
    match v with
    | .mapping .plain entries =>
      (least (fieldComplaints fields entries)).or
        (unknownKeys? (fields.map Prod.fst) v entries)
    | _ => if isEmptyText v then none else some ⟨[], v, .unsuitable⟩
  | table entry, v =>
    match v with
    | .mapping .plain entries => least (entryComplaints entry entries)
    | _ => if isEmptyText v then none else some ⟨[], v, .unsuitable⟩

def firstItem (item : Shape) (n : Nat) : List Value → Option Complaint
  | [] => none
  | v :: vs =>
    match complaint? item v with
    | some c => some (c.under (.index n))
    | none => firstItem item (n + 1) vs

def entryComplaints (entry : Shape) : List (Value × Value) → List (String × Complaint)
  | [] => []
  | (.text k, v) :: es =>
    match complaint? entry v with
    | some c => (k, c) :: entryComplaints entry es
    | none => entryComplaints entry es
  | _ :: es => entryComplaints entry es

def fieldComplaints : List (String × Shape) → List (Value × Value) → List (String × Complaint)
  | [], _ => []
  | (k, shape) :: fields, entries =>
    match (field? k entries).bind (complaint? shape) with
    | some c => (k, c) :: fieldComplaints fields entries
    | none => fieldComplaints fields entries

end

end Shape

end GraphTemplate
