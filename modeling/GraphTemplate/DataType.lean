/-!
Data types of properties and their textual descriptors: a scalar by its name, an array as
`array-<scalar>` and a map as `map-<scalar>-<scalar>`, keys first. Containers hold scalars only.
-/

namespace GraphTemplate

inductive Scalar where
  | int
  | float
  | string
  | bool
  | datetime
  deriving DecidableEq

namespace Scalar

def all : List Scalar := [int, float, string, bool, datetime]

def name : Scalar → String
  | int => "int"
  | float => "float"
  | string => "string"
  | bool => "bool"
  | datetime => "datetime"

def ofName? (s : String) : Option Scalar := all.find? (·.name == s)

theorem ofName?_name (s : Scalar) : ofName? s.name = some s := by cases s <;> decide

theorem name_of_ofName? {s : String} {t : Scalar} (h : ofName? s = some t) : t.name = s := by
  simpa using List.find?_some h

end Scalar

inductive DataType where
  | null
  | scalar (s : Scalar)
  | array
  | map
  deriving DecidableEq

def DataType.name : DataType → String
  | null => "null"
  | scalar s => s.name
  | array => "array"
  | map => "map"

inductive Descriptor where
  | undefined
  | scalar (s : Scalar)
  | array (item : Scalar)
  | map (key value : Scalar)
  deriving DecidableEq

inductive DescriptorError where
  | subtypesOfScalar (base : String)
  | arrayArity
  | arrayItem (name : String)
  | mapArity
  | mapKey (name : String)
  | mapValue (name : String)
  | mapBoth (key value : String)
  | unknown (text : String)
  deriving DecidableEq

namespace Descriptor

def dataType : Descriptor → DataType
  | undefined => .null
  | scalar s => .scalar s
  | array _ => .array
  | map .. => .map

/-- The type of what restrictions on values restrict: a scalar itself, or what a container holds. -/
def valueType? : Descriptor → Option Scalar
  | undefined => none
  | scalar s => some s
  | array item => some item
  | map _ value => some value

def keyType? : Descriptor → Option Scalar
  | map key _ => some key
  | _ => none

def text : Descriptor → String
  | undefined => "null"
  | scalar s => s.name
  | array item => "array-" ++ item.name
  | map key value => "map-" ++ key.name ++ "-" ++ value.name

/-- The pieces of a text between its dashes; there is one more of them than there are dashes. -/
def pieces : List Char → List (List Char)
  | [] => [[]]
  | c :: cs =>
    if c = '-' then [] :: pieces cs
    else
      match pieces cs with
      | p :: ps => (c :: p) :: ps
      | [] => [[c]]

def ofPieces (descriptor : String) : List String → Except DescriptorError Descriptor
  | [] => .error (.unknown descriptor)
  | base :: subtypes =>
    match Scalar.ofName? base with
    | some s => if subtypes.isEmpty then .ok (scalar s) else .error (.subtypesOfScalar base)
    | none =>
      if base == "array" then
        match subtypes with
        | [item] =>
          match Scalar.ofName? item with
          | some s => .ok (array s)
          | none => .error (.arrayItem item)
        | _ => .error .arrayArity
      else if base == "map" then
        match subtypes with
        | [key, value] =>
          match Scalar.ofName? key, Scalar.ofName? value with
          | some k, some v => .ok (map k v)
          | none, some _ => .error (.mapKey key)
          | some _, none => .error (.mapValue value)
          | none, none => .error (.mapBoth key value)
        | _ => .error .mapArity
      else .error (.unknown descriptor)

def read (descriptor : String) : Except DescriptorError Descriptor :=
  ofPieces descriptor ((pieces descriptor.toList).map String.ofList)

theorem pieces_ne_nil (cs : List Char) : pieces cs ≠ [] := by
  cases cs with
  | nil => simp [pieces]
  | cons c cs =>
    unfold pieces
    split
    · simp
    · split <;> simp

end Descriptor

namespace DescriptorError

def keyMessage (name : String) : String := "data type \"map\" has wrong key data subtype \"" ++
  name ++ "\""

def valueMessage (name : String) : String := "data type \"map\" has wrong value data subtype \"" ++
  name ++ "\""

def message : DescriptorError → String
  | subtypesOfScalar base => "data type \"" ++ base ++ "\" can't have subtypes"
  | arrayArity => "data type \"array\" must have exactly 1 subtype"
  | arrayItem name => "data type \"array\" has wrong value data subtype \"" ++ name ++ "\""
  | mapArity =>
    "data type \"map\" must have exactly 2 subtypes - 1 for keys and 1 for values"
  | mapKey name => keyMessage name
  | mapValue name => valueMessage name
  | mapBoth key value => keyMessage key ++ "; " ++ valueMessage value
  | unknown text => "undefined data type \"" ++ text ++ "\""

end DescriptorError

end GraphTemplate
