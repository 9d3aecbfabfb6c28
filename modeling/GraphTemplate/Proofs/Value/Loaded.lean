import GraphTemplate.Document.Shape
import GraphTemplate.Proofs.NameTable
import Mathlib.Data.List.Basic

/-! Values as they are loaded: lists, mappings from texts, and anything else, nested in any way. -/
namespace GraphTemplate.Value

def ofTable (t : NameTable Value) : Value :=
  .mapping .plain (t.entries.map fun e => (.text e.1, e.2))

def isComposite : Value → Bool
  | .sequence .. => true
  | .mapping .. => true
  | _ => false

inductive Loaded : Value → Prop
  | scalar {v : Value} (h : v.isComposite = false) : Loaded v
  | list {items : List Value} (h : ∀ v ∈ items, Loaded v) : Loaded (.sequence .list items)
  | table {t : NameTable Value} (h : ∀ e ∈ t.entries, Loaded e.2) : Loaded (ofTable t)

theorem ofTable_inj {s t : NameTable Value} (h : ofTable s = ofTable t) : s = t := by
  have hf : Function.Injective fun e : String × Value => (Value.text e.1, e.2) := by
    intro e e' he
    obtain ⟨hk, hv⟩ := Prod.mk.inj he
    exact Prod.ext (Value.text.inj hk) hv
  obtain ⟨es, hs⟩ := s
  obtain ⟨es', ht⟩ := t
  obtain rfl : es = es' := List.map_injective_iff.mpr hf (Value.mapping.inj h).2
  rfl

theorem loaded_text (s : String) : Loaded (.text s) := .scalar rfl

theorem Loaded.of_mem {items : List Value} (h : Loaded (.sequence .list items)) {v : Value}
    (hv : v ∈ items) : Loaded v := by
  cases h with
  | scalar h => exact nomatch h
  | list h => exact h v hv

theorem Loaded.exists_table {kind : MappingKind} {entries : List (Value × Value)}
    (h : Loaded (.mapping kind entries)) :
    ∃ t, Value.mapping kind entries = ofTable t ∧ ∀ e ∈ t.entries, Loaded e.2 := by
  generalize hm : Value.mapping kind entries = v at h
  cases h with
  | scalar h =>
    subst hm
    exact nomatch h
  | list h => exact nomatch hm
  | table h => exact ⟨_, rfl, h⟩

theorem Loaded.of_mem_table {t : NameTable Value} (h : Loaded (ofTable t)) {e : String × Value}
    (he : e ∈ t.entries) : Loaded e.2 := by
  obtain ⟨s, hs, hl⟩ := h.exists_table
  obtain rfl := ofTable_inj hs
  exact hl e he

def Has (v : Value) (key : String) (u : Value) : Prop :=
  ∃ t, v = ofTable t ∧ t.get? key = some u

theorem has_ofTable {t : NameTable Value} {key : String} {u : Value} :
    (ofTable t).Has key u ↔ t.get? key = some u := by
  constructor
  · rintro ⟨s, hs, h⟩
    rwa [ofTable_inj hs]
  · exact fun h => ⟨t, rfl, h⟩

theorem Loaded.of_has {v u : Value} {key : String} (h : Loaded v) (hu : v.Has key u) :
    Loaded u := by
  obtain ⟨t, rfl, hk⟩ := hu
  exact h.of_mem_table (NameTable.get?_eq_some_iff.mp hk)

theorem field?_table (t : NameTable Value) (key : String) :
    Shape.field? key (t.entries.map fun e => (.text e.1, e.2)) = t.get? key := by
  unfold NameTable.get?
  induction t.entries with
  | nil => rfl
  | cons e es ih =>
    rw [List.map_cons, Shape.field?, List.lookup_cons]
    by_cases he : e.1 = key
    · rw [if_pos he, he, beq_self_eq_true]
    · rw [if_neg he, beq_eq_false_iff_ne.mpr (Ne.symm he), ih]

end GraphTemplate.Value
