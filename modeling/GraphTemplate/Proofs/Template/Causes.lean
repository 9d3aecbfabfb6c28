import GraphTemplate.Template

/-! What checks tell. A violation that is found in a value names the property, its type or its
restrictions; only a property without a type is told to have none. -/
namespace GraphTemplate

namespace Check

variable {α β : Type} {p : Violation.Cause → Prop}

/-- Every violation that a check ends with has a cause of some sort. -/
def Tells (p : Violation.Cause → Prop) (c : Check α) : Prop :=
  ∀ v, c = .error (.violation v) → p v.cause

theorem tells_ok (a : α) : Tells p (.ok a) := fun _ h => nomatch h

theorem tells_lift (r : Except Fault α) : Tells p (lift r) := by
  intro v h
  cases r <;> exact nomatch h

theorem tells_violated {cause : Violation.Cause} (h : p cause) :
    Tells p (violated cause : Check α) := by
  intro v hv
  obtain rfl := Failure.violation.inj (Except.error.inj hv)
  exact h

theorem Tells.bind {c : Check α} {k : α → Check β} (h : Tells p c) (hk : ∀ a, Tells p (k a)) :
    Tells p (c >>= k) := by
  intro v hv
  cases c with
  | error e => exact h v (congrArg Except.error (Except.error.inj hv))
  | ok a => exact hk a v hv

theorem Tells.mono {q : Violation.Cause → Prop} {c : Check α} (h : Tells p c)
    (hq : ∀ cause, p cause → q cause) : Tells q c :=
  fun v hv => hq v.cause (h v hv)

theorem Tells.within {context : String} {c : Check α} (h : Tells p c) :
    Tells p (within context c) := by
  intro v hv
  unfold Check.within at hv
  split at hv
  · next v' =>
    obtain rfl := Failure.violation.inj (Except.error.inj hv)
    exact h v' rfl
  · exact h v hv

end Check

namespace Property

open Check

variable {p : Property}

inductive Told (p : Property) : Violation.Cause → Prop where
  | wrongType (shown : String) : Told p (.wrongType p.key shown p.descriptor.text)
  | value (shown what : String) : Told p (.rejected p.key shown what (p.values.map (·.raw)))
  | key (shown what : String) : Told p (.rejected p.key shown what (p.keys.map (·.raw)))

theorem tells_wrongType {α : Type} (v : Value) : Tells p.Told (p.wrongType v : Check α) :=
  (tells_lift _).bind fun _ => tells_violated (.wrongType _)

theorem tells_hasType (s : Scalar) (v : Value) : Tells p.Told (hasType s v) :=
  (tells_lift _).bind fun _ => tells_ok _

theorem tells_checkRestrictions {s : Scalar} {rs : List Restriction} {what : String} {v : Value}
    (h : ∀ shown, p.Told (.rejected p.key shown what (rs.map (·.raw)))) :
    Tells p.Told (p.checkRestrictions s rs what v) := by
  unfold checkRestrictions
  split
  · exact tells_ok ()
  · refine (tells_lift _).bind fun accepted => ?_
    cases accepted with
    | true => exact tells_ok ()
    | false => exact (tells_lift _).bind fun _ => tells_violated (h _)

theorem tells_checkItems (s : Scalar) (vs : List Value) : Tells p.Told (p.checkItems s vs) := by
  induction vs with
  | nil => exact tells_ok ()
  | cons v vs ih => exact (tells_checkRestrictions fun _ => .value _ _).bind fun _ => ih

theorem tells_checkEntries (key value : Scalar) (es : List (Value × Value)) :
    Tells p.Told (p.checkEntries key value es) := by
  induction es with
  | nil => exact tells_ok ()
  | cons e es ih =>
    refine (tells_lift _).bind fun _ => ?_
    refine (tells_checkRestrictions fun _ => .value _ _).bind fun _ => ?_
    exact (tells_checkRestrictions fun _ => .key _ _).bind fun _ => ih

/-- A check that goes on if a value has a type tells of the wrong type otherwise. -/
theorem tells_typed {c : Check Unit} {s : Scalar} {v w : Value} (h : Tells p.Told c) :
    Tells p.Told (hasType s v >>= fun typed =>
      if typed = true then c else p.wrongType w >>= fun _ : Unit => c) := by
  refine (tells_hasType s v).bind fun typed => ?_
  cases typed with
  | true => exact h
  | false => exact (tells_wrongType w).bind fun _ => h

theorem tells_checkScalar (s : Scalar) (v : Value) : Tells p.Told (p.checkScalar s v) := by
  refine (tells_hasType s v).bind fun typed => ?_
  cases typed with
  | true => exact tells_checkRestrictions fun _ => .value _ _
  | false => exact tells_wrongType v

theorem tells_checkArray (s : Scalar) (v : Value) : Tells p.Told (p.checkArray s v) := by
  unfold checkArray
  cases v.elements? with
  | none => exact tells_wrongType v
  | some items =>
    cases items with
    | nil => exact tells_checkItems s []
    | cons first items => exact tells_typed (tells_checkItems s (first :: items))

theorem tells_checkMap (key value : Scalar) (v : Value) :
    Tells p.Told (p.checkMap key value v) := by
  unfold checkMap
  cases v.entries? with
  | none => exact tells_wrongType v
  | some entries =>
    cases entries with
    | nil => exact tells_checkEntries key value []
    | cons e es => exact tells_typed (tells_typed (tells_checkEntries key value (e :: es)))

theorem tells_check (h : p.descriptor ≠ .undefined) (v : Value) : Tells p.Told (p.check v) := by
  unfold check
  split
  · next hd => exact absurd hd h
  · exact tells_checkScalar _ v
  · exact tells_checkArray _ v
  · exact tells_checkMap _ _ v

end Property

namespace EntityType

open Check

inductive Told (type : EntityType) : Violation.Cause → Prop where
  | keys (extra missing : List String) : Told type (.keys extra missing)
  | property {name : String} {p : Property} {cause : Violation.Cause}
      (hp : type.properties.get? name = some p) (h : p.Told cause) : Told type cause

variable {type : EntityType}

theorem tells_checkPairs
    (h : ∀ name p, type.properties.get? name = some p → p.descriptor ≠ .undefined)
    (entries : List (Value × Value)) (pairs : List (Value × String)) :
    Tells type.Told (type.checkPairs entries pairs) := by
  induction pairs with
  | nil => exact tells_ok ()
  | cons e pairs ih =>
    unfold checkPairs
    cases hp : type.properties.get? e.2 with
    | none => exact ih
    | some p =>
      cases entries.find? (·.1.sameKey e.1) with
      | none => exact ih
      | some x =>
        have hx : Tells type.Told (p.check x.2) :=
          fun v hv => .property hp (Property.tells_check (h _ _ hp) x.2 v hv)
        exact hx.bind fun _ => ih

theorem tells_pairing (names : List String) (keys : List Value) :
    Tells type.Told (PropertyKeys.pairing names keys) := by
  refine (tells_lift _).bind fun s => ?_
  dsimp only
  split
  · exact tells_ok _
  · exact tells_violated (.keys _ _)

theorem tells_check (h : ∀ name p, type.properties.get? name = some p → p.descriptor ≠ .undefined)
    (entries : List (Value × Value)) : Tells type.Told (type.check entries) :=
  (tells_pairing _ _).bind fun pairs => tells_checkPairs h entries pairs

end EntityType

inductive Template.Told (t : Template) (kind : EntityKind) (e : Entity) :
    Violation.Cause → Prop where
  | unknownType : Told t kind e (.unknownType kind e.typeName)
  | entity {type : EntityType} {cause : Violation.Cause}
      (ht : (t.typesOf kind).get? e.typeName = some type) (h : type.Told cause) :
      Told t kind e cause

end GraphTemplate
