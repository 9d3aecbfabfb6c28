import GraphTemplate.Proofs.Value.Unhashable

/-! Values that data is loaded with: scalars, lists, pairs, sets and mappings, nested in any way.
Every one of them can be looked up by. -/
namespace GraphTemplate.Value

inductive Simple : Value → Prop
  | null : Simple .null
  | bool (b : Bool) : Simple (.bool b)
  | int (n : Int) : Simple (.int n)
  | float (x : Binary64) (i : Nat) : Simple (.float x i)
  | text (s : String) : Simple (.text s)
  | bytes (octets : List Nat) : Simple (.bytes false octets)
  | date (d : Date) : Simple (.date d)
  | moment (m : Moment) : Simple (.moment m)

/-- Data: keys and elements of sets have no parts. -/
inductive Plain : Value → Prop
  | simple {v : Value} (h : v.Simple) : Plain v
  | list {items : List Value} (h : ∀ v ∈ items, Plain v) : Plain (.sequence .list items)
  | pair {items : List Value} (h : ∀ v ∈ items, Plain v) : Plain (.sequence .tuple items)
  | set {items : List Value} (h : ∀ v ∈ items, Simple v) : Plain (.set false items)
  | mapping {entries : List (Value × Value)} (hk : ∀ e ∈ entries, Simple e.1)
      (hv : ∀ e ∈ entries, Plain e.2) : Plain (.mapping .plain entries)

/-- No collection is inside itself. -/
def Finite (v : Value) : Prop := ∀ isMapping, ¬Occurs (.special (.endless isMapping)) v

variable {v : Value}

theorem Finite.of_item {k : SequenceKind} {items : List Value} (h : Finite (.sequence k items))
    (hv : v ∈ items) : v.Finite :=
  fun isMapping ho => h isMapping (.item hv ho)

theorem Finite.of_entry {k : MappingKind} {entries : List (Value × Value)}
    (h : Finite (.mapping k entries)) {e : Value × Value} (he : e ∈ entries) : e.2.Finite :=
  fun isMapping ho => h isMapping (.under he ho)

theorem finite_of_hashFault? (h : v.hashFault? = none) : v.Finite :=
  fun isMapping ho => hashFault?_ne_none_of_occurs ho (.endless isMapping) h

theorem Simple.hashFault? (h : v.Simple) : v.hashFault? = none := by
  cases h <;> rfl

theorem Plain.hashFault? (h : v.Plain) : v.hashFault? = none := by
  induction h with
  | simple h => exact h.hashFault?
  | list _ ih | pair _ ih => exact itemsFault?_eq_none_iff.mpr ih
  | set h => exact itemsFault?_eq_none_iff.mpr fun v hv => (h v hv).hashFault?
  | mapping hk _ ih =>
    exact entriesFault?_eq_none_iff.mpr fun e he => ⟨(hk e he).hashFault?, ih e he⟩

theorem Plain.eq_mapping {entries : List (Value × Value)} (h : v.Plain)
    (hv : v.entries? = some entries) : v = .mapping .plain entries := by
  cases h with
  | simple h => cases h <;> exact nomatch hv
  | list | pair | set => exact nomatch hv
  | mapping =>
    obtain rfl := Option.some.inj hv
    rfl

theorem Plain.of_entries {entries : List (Value × Value)} (h : v.Plain)
    (hv : v.entries? = some entries) {e : Value × Value} (he : e ∈ entries) : e.2.Plain := by
  obtain rfl := h.eq_mapping hv
  cases h with
  | simple h => exact nomatch h
  | mapping _ h => exact h e he

end GraphTemplate.Value
