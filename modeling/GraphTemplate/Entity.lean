import GraphTemplate.Fault
import GraphTemplate.Value.Equality

/-!
Nodes and edges as data: a type name and properties under their keys. Two entities are equal if
their type names are and their properties are alike; those with a part that can be changed in place
cannot be compared.
-/

namespace GraphTemplate

structure Entity where
  typeName : String
  properties : List (Value × Value)

namespace Entity

def isHashable (e : Entity) : Bool := (Value.entriesFault? e.properties).isNone

def alike (a b : Entity) : Bool :=
  a.typeName == b.typeName &&
    (Value.mapping .plain a.properties).alike (.mapping .plain b.properties)

def hashed (e : Entity) : Except Fault Entity :=
  match Value.entriesFault? e.properties with
  | none => .ok e
  | some f => .error f

def same (a b : Entity) : Except Fault Bool := do
  let a ← a.hashed
  let b ← b.hashed
  return a.alike b

def setProperty (e : Entity) (key value : Value) : Entity :=
  { e with properties := Value.putEntry key value e.properties }

def dropProperty (e : Entity) (key : Value) : Entity :=
  { e with properties := e.properties.filter fun p => !p.1.sameKey key }

theorem hashed_eq_ok_iff {e e' : Entity} : e.hashed = .ok e' ↔ e.isHashable = true ∧ e' = e := by
  unfold hashed isHashable
  split
  · next h => simp [h, eq_comm]
  · next h => simp [h]

theorem hashed_of_isHashable {e : Entity} (h : e.isHashable = true) : e.hashed = .ok e :=
  hashed_eq_ok_iff.2 ⟨h, rfl⟩

theorem same_eq_ok {a b : Entity} (ha : a.isHashable = true) (hb : b.isHashable = true) :
    a.same b = .ok (a.alike b) := by
  simp [same, hashed_of_isHashable ha, hashed_of_isHashable hb, bind, Except.bind, pure,
    Except.pure]

end Entity

end GraphTemplate
