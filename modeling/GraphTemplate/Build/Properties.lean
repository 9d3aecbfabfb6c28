import GraphTemplate.Build.Findings
import GraphTemplate.Document
import GraphTemplate.Property

/-!
Properties of edges, labels and nodes from their entries in a document. A restriction that is none
is left out. Patterns that reject a wanted value are worth a warning.
-/

namespace GraphTemplate

namespace RestrictionTexts

def fieldName : RestrictionKind → String
  | .value => "values"
  | .regexp => "regexps"
  | .keyValue => "key_values"
  | .keyRegexp => "key_regexps"

def ofKind (r : RestrictionTexts) : RestrictionKind → List String
  | .value => r.values
  | .regexp => r.regexps
  | .keyValue => r.keyValues
  | .keyRegexp => r.keyRegexps

end RestrictionTexts

namespace Build

open Assembly

def descriptor (place : List String) (text : String) : Assembly Descriptor := do
  match Descriptor.read text with
  | .ok d => return d
  | .error e => do
    report (place ++ ["type"]) (.type e)
    return .undefined

def restrictionsOfKind (place : List String) (descriptor : Descriptor) (kind : RestrictionKind)
    (index : Nat) : List String → Assembly (List Restriction)
  | [] => pure []
  | raw :: rest => do
    match Restriction.build descriptor kind raw with
    | .ok r => return r :: (← restrictionsOfKind place descriptor kind (index + 1) rest)
    | .error (.invalid e) => do
      report (place ++ ["restrictions", RestrictionTexts.fieldName kind, toString index])
        (.restriction e)
      restrictionsOfKind place descriptor kind (index + 1) rest
    | .error (.fault f) => throw f

def restrictions (place : List String) (descriptor : Descriptor) (texts : RestrictionTexts) :
    List RestrictionKind → Assembly (List Restriction)
  | [] => pure []
  | kind :: kinds => do
    let first ← restrictionsOfKind place descriptor kind 1 (texts.ofKind kind)
    return first ++ (← restrictions place descriptor texts kinds)

def contradictionMessage (place : List String) (r found : Restriction) : String :=
  Defect.placeText (place ++ ["restrictions"]) ++ " >> " ++ found.kind.name ++
    " restriction \"" ++ found.raw ++ "\" can never match " ++ r.kind.name ++ " restriction \"" ++
    r.raw ++ "\""

def warnContradictions (place : List String) (all : List Restriction) :
    List Restriction → Assembly Unit
  | [] => pure ()
  | r :: rest => do
    if let some found ← lift (r.contradiction? all) then
      say .warning (contradictionMessage place r found)
    warnContradictions place all rest

def property (owner : List String) (key : String) (entry : PropertyEntry) : Assembly Property := do
  let place := owner ++ ["properties", key]
  let descriptor ← descriptor place entry.type
  let all ← restrictions place descriptor entry.restrictions RestrictionKind.all
  let values := all.filter fun r => !r.onKeys
  let keys := all.filter (·.onKeys)
  warnContradictions place values values
  warnContradictions place keys keys
  return ⟨key, descriptor, values, keys⟩

/-- Properties one after the other, up to the first fault. -/
def propertyList (owner : List String) : List (String × PropertyEntry) →
    Assembly (List (String × Property))
  | [] => pure []
  | (key, entry) :: rest => do
    let p ← property owner key entry
    return (key, p) :: (← propertyList owner rest)

def properties (owner : List String) (entries : PropertyEntries) :
    Assembly (NameTable Property) := do
  return NameTable.ofList (← propertyList owner entries.entries)

end Build

end GraphTemplate
