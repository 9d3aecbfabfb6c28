/-!
Arguments of a command: switches, which may carry a value, and words. A switch is written `--long`,
`--long=value`, or as a letter after a single dash; letters may follow each other, and the rest
after one that takes a value is its value.
-/

namespace GraphTemplate.CommandLine

structure Switch where
  long : String
  short : Option Char
  takesValue : Bool
  deriving DecidableEq

structure Arguments where
  given : List (String × String)
  words : List String
  deriving DecidableEq

namespace Arguments

def empty : Arguments := ⟨[], []⟩

def give (name value : String) (a : Arguments) : Arguments :=
  { a with given := (name, value) :: a.given }

def addWord (word : String) (a : Arguments) : Arguments := { a with words := word :: a.words }

def has (a : Arguments) (name : String) : Bool := (a.given.lookup name).isSome

def value? (a : Arguments) (name : String) : Option String := a.given.reverse.lookup name

/-- Switches of one argument, and the name of the one whose value is the next argument. -/
structure Letters where
  given : List (String × String)
  pending : Option String

def letters? (switches : List Switch) : List Char → Option Letters
  | [] => some ⟨[], none⟩
  | c :: cs => do
    let s ← switches.find? (·.short == some c)
    if s.takesValue then
      return if cs.isEmpty then ⟨[], some s.long⟩ else ⟨[(s.long, String.ofList cs)], none⟩
    else
      let rest ← letters? switches cs
      return ⟨(s.long, "") :: rest.given, rest.pending⟩

def long? (switches : List Switch) (cs : List Char) : Option Letters := do
  let name := String.ofList (cs.takeWhile (· != '='))
  let s ← switches.find? (·.long == name)
  match s.takesValue, cs.dropWhile (· != '=') with
  | true, _ :: value => return ⟨[(name, String.ofList value)], none⟩
  | true, [] => return ⟨[], some name⟩
  | false, [] => return ⟨[(name, "")], none⟩
  | false, _ => none

/-- Reads arguments, after a switch that waits for its value if there is one. With `stops` the
first word ends the switches. -/
def readAfter? (switches : List Switch) (stops : Bool) : Option String → List String →
    Option Arguments
  | none, [] => some empty
  | some _, [] => none
  | some name, arg :: rest => (readAfter? switches stops none rest).map (give name arg)
  | none, arg :: rest =>
    let go (l : Letters) : Option Arguments := do
      let a ← readAfter? switches stops l.pending rest
      return { a with given := l.given ++ a.given }
    match arg.toList with
    | ['-', '-'] => some ⟨[], rest⟩
    | '-' :: '-' :: cs => (long? switches cs).bind go
    | '-' :: c :: cs => (letters? switches (c :: cs)).bind go
    | _ =>
      if stops then some ⟨[], arg :: rest⟩
      else (readAfter? switches stops none rest).map (addWord arg)

def read? (switches : List Switch) (stops : Bool) : List String → Option Arguments :=
  readAfter? switches stops none

end Arguments

end GraphTemplate.CommandLine
