import GraphTemplate.Proofs.Document.Conversion

/-! Places in data. A shape asks something of a value itself, and has shapes for the items of a list
and for what a mapping has under known keys. A value conforms to a shape if this holds at every
place that can be reached in it; there is no complaint about just the values that conform. -/
namespace GraphTemplate.Shape

inductive Part : Shape → Value → Step → Shape → Value → Prop
  | item {item : Shape} {items : List Value} {n : Nat} {u : Value} (h : items[n]? = some u) :
      Part (list item) (.sequence .list items) (.index n) item u
  | field {fields : List (String × Shape)} {k : String} {s : Shape} {v u : Value}
      (hf : (k, s) ∈ fields) (hu : v.Has k u) : Part (closed fields) v (.key k) s u
  | entry {entry : Shape} {k : String} {v u : Value} (hu : v.Has k u) :
      Part (table entry) v (.key k) entry u

/-- The value that a path leads to, and the shape of its place. -/
inductive At : Shape → Value → List Step → Shape → Value → Prop
  | here {shape : Shape} {v : Value} : At shape v [] shape v
  | under {shape s r : Shape} {v u w : Value} {step : Step} {path : List Step}
      (part : Part shape v step s u) (rest : At s u path r w) : At shape v (step :: path) r w

def Suits : Shape → Value → Prop
  | text, v => ∃ s, v = .text s
  | integer, v => ∃ p : Spelling, v = .text (String.ofList p.chars)
  | list _, v => v = .text "" ∨ ∃ items, v = .sequence .list items
  | closed fields, v => Grammar.Keyed (fields.map Prod.fst) v
  | table _, v => v = .text "" ∨ ∃ t, v = .ofTable t

inductive Conforms : Shape → Value → Prop
  | of {shape : Shape} {v : Value} (self : shape.Suits v)
      (parts : ∀ step s u, shape.Part v step s u → Conforms s u) : Conforms shape v

/-- No mapping has two shapes for one key, at any depth. -/
inductive Unambiguous : Shape → Prop
  | text : Unambiguous text
  | integer : Unambiguous integer
  | list {item : Shape} (h : Unambiguous item) : Unambiguous (list item)
  | closed {fields : List (String × Shape)} (hd : (fields.map Prod.fst).Nodup)
      (h : ∀ f ∈ fields, Unambiguous f.2) : Unambiguous (closed fields)
  | table {entry : Shape} (h : Unambiguous entry) : Unambiguous (table entry)

variable {shape s s' : Shape} {v u u' : Value} {step : Step} {path : List Step}

theorem Part.loaded (h : shape.Part v step s u) (hv : v.Loaded) : u.Loaded := by
  cases h with
  | item hu => exact hv.of_mem (List.mem_of_getElem? hu)
  | field _ hu => exact hv.of_has hu
  | entry hu => exact hv.of_has hu

theorem Part.unambiguous (h : shape.Part v step s u) (hs : shape.Unambiguous) :
    s.Unambiguous := by
  cases h with
  | item =>
    cases hs with
    | list h => exact h
  | field hf =>
    cases hs with
    | closed _ h => exact h _ hf
  | entry =>
    cases hs with
    | table h => exact h

/-- A step leads to one part only. -/
theorem Part.unique (hs : shape.Unambiguous) (h : shape.Part v step s u)
    (h' : shape.Part v step s' u') : s = s' ∧ u = u' := by
  have hhas {k : String} (hu : v.Has k u) (hu' : v.Has k u') : u = u' := by
    obtain ⟨t, rfl, ht⟩ := hu
    rw [Value.has_ofTable, ht] at hu'
    exact Option.some.inj hu'
  cases h with
  | item hu =>
    cases h' with
    | item hu' => exact ⟨rfl, Option.some.inj (hu.symm.trans hu')⟩
  | field hf hu =>
    cases h' with
    | field hf' hu' =>
      cases hs with
      | closed hd =>
        have hl := NameTable.lookup_of_mem hd hf
        rw [NameTable.lookup_of_mem hd hf'] at hl
        exact ⟨(Option.some.inj hl).symm, hhas hu hu'⟩
  | entry hu =>
    cases h' with
    | entry hu' => exact ⟨rfl, hhas hu hu'⟩

theorem not_part_scalar (hv : v.isComposite = false) : ¬shape.Part v step s u := by
  rintro (_ | ⟨-, t, rfl, -⟩ | ⟨t, rfl, -⟩)
  all_goals exact nomatch hv

/-- What holds of a value as soon as it holds of its parts holds of all loaded values. -/
theorem parts_induction {P : Value → Prop}
    (ih : ∀ v, v.Loaded → (∀ shape step s u, Part shape v step s u → P u) → P v) {v : Value}
    (hv : v.Loaded) : P v := by
  induction hv with
  | scalar h => exact ih _ (.scalar h) fun shape step s u hpart => (not_part_scalar h hpart).elim
  | list h hitems =>
    refine ih _ (.list h) fun shape step s u hpart => ?_
    cases hpart with
    | item hu => exact hitems u (List.mem_of_getElem? hu)
    | field _ hu | entry hu =>
      obtain ⟨t, ht, -⟩ := hu
      exact nomatch ht
  | @table t h hentries =>
    refine ih _ (.table h) fun shape step s u hpart => ?_
    generalize hm : Value.ofTable t = v at hpart
    cases hpart with
    | item => exact nomatch hm
    | field _ hu | entry hu =>
      rw [← hm, Value.has_ofTable, NameTable.get?_eq_some_iff] at hu
      exact hentries _ hu

theorem forall_part_list {item : Shape} {items : List Value} {P : Shape → Value → Prop} :
    (∀ step s u, Part (list item) (.sequence .list items) step s u → P s u) ↔
      ∀ u ∈ items, P item u := by
  constructor
  · intro h u hu
    obtain ⟨n, hn⟩ := List.mem_iff_getElem?.mp hu
    exact h _ _ u (.item hn)
  · rintro h step s u ⟨hu⟩
    exact h u (List.mem_of_getElem? hu)

theorem forall_part_closed {fields : List (String × Shape)} {P : Shape → Value → Prop} :
    (∀ step s u, Part (closed fields) v step s u → P s u) ↔
      ∀ f ∈ fields, ∀ u, v.Has f.1 u → P f.2 u := by
  constructor
  · exact fun h f hf u hu => h _ _ u (.field hf hu)
  · rintro h step s u (_ | ⟨hf, hu⟩)
    exact h _ hf u hu

theorem forall_part_table {entry : Shape} {t : NameTable Value} {P : Shape → Value → Prop} :
    (∀ step s u, Part (table entry) (.ofTable t) step s u → P s u) ↔
      ∀ e ∈ t.entries, P entry e.2 := by
  constructor
  · intro h e he
    exact h _ _ e.2 (.entry (Value.has_ofTable.mpr (NameTable.get?_eq_some_iff.mpr he)))
  · rintro h step s u (_ | _ | ⟨hu⟩)
    exact h _ (NameTable.get?_eq_some_iff.mp (Value.has_ofTable.mp hu))

theorem fits_iff_parts (hv : v.Loaded) :
    shape.Fits v ↔ shape.Suits v ∧ ∀ step s u, shape.Part v step s u → s.Fits u := by
  cases shape with
  | text =>
    rw [fits_text_iff]
    refine (and_iff_left ?_).symm
    rintro step s u ⟨⟩
  | integer =>
    rw [fits_integer_iff, Suits]
    simp only [Grammar.isIntegerText_iff]
    constructor
    · rintro ⟨t, rfl, p, rfl⟩
      refine ⟨⟨p, rfl⟩, ?_⟩
      rintro step s u ⟨⟩
    · rintro ⟨⟨p, rfl⟩, -⟩
      exact ⟨_, rfl, p, rfl⟩
  | list item =>
    rw [fits_list_iff hv]
    constructor
    · rintro (rfl | ⟨items, rfl, h⟩)
      · exact ⟨Or.inl rfl, fun step s u h => (not_part_scalar rfl h).elim⟩
      · exact ⟨Or.inr ⟨items, rfl⟩, forall_part_list.mpr h⟩
    · rintro ⟨rfl | ⟨items, rfl⟩, h⟩
      · exact Or.inl rfl
      · exact Or.inr ⟨items, rfl, forall_part_list.mp h⟩
  | closed fields =>
    rw [fits_closed_iff hv, forall_part_closed]
    rfl
  | table entry =>
    rw [fits_table_iff hv]
    constructor
    · rintro (rfl | ⟨t, rfl, h⟩)
      · exact ⟨Or.inl rfl, fun step s u h => (not_part_scalar rfl h).elim⟩
      · exact ⟨Or.inr ⟨t, rfl⟩, forall_part_table.mpr h⟩
    · rintro ⟨rfl | ⟨t, rfl⟩, h⟩
      · exact Or.inl rfl
      · exact Or.inr ⟨t, rfl, forall_part_table.mp h⟩

theorem conforms_iff_parts :
    shape.Conforms v ↔ shape.Suits v ∧ ∀ step s u, shape.Part v step s u → s.Conforms u :=
  ⟨fun ⟨self, parts⟩ => ⟨self, parts⟩, fun ⟨self, parts⟩ => ⟨self, parts⟩⟩

theorem conforms_iff_fits (hv : v.Loaded) : shape.Conforms v ↔ shape.Fits v := by
  refine parts_induction (P := fun v => ∀ shape : Shape, shape.Conforms v ↔ shape.Fits v)
    ?_ hv shape
  intro v hv ih shape
  rw [conforms_iff_parts, fits_iff_parts hv]
  refine and_congr_right fun _ => ?_
  refine forall₄_congr fun step s u hpart => ih shape step s u hpart s

/-- A value does not conform if what is at one of its places does not. -/
theorem At.not_conforms (h : shape.At v path s u) (hu : ¬s.Conforms u) : ¬shape.Conforms v := by
  induction h with
  | here => exact hu
  | under part _ ih => exact fun hv => ih hu ((conforms_iff_parts.mp hv).2 _ _ _ part)

theorem unambiguous_properties : properties.Unambiguous := by
  have hrestrictions : restrictions.Unambiguous := by
    refine .closed (by decide) ?_
    simp only [List.forall_mem_cons]
    exact ⟨.list .text, .list .text, .list .text, .list .text, List.forall_mem_nil _⟩
  refine .table (.closed (by decide) ?_)
  simp only [List.forall_mem_cons]
  exact ⟨.text, hrestrictions, List.forall_mem_nil _⟩

theorem unambiguous_connections : connections.Unambiguous := by
  have hratio : ratio.Unambiguous := by
    refine .closed (by decide) ?_
    simp only [List.forall_mem_cons]
    exact ⟨.integer, .integer, List.forall_mem_nil _⟩
  refine .table (.list (.closed (by decide) ?_))
  simp only [List.forall_mem_cons]
  exact ⟨.text, hratio, List.forall_mem_nil _⟩

theorem unambiguous_document : document.Unambiguous := by
  have hlabel : label.Unambiguous := by
    refine .closed (by decide) ?_
    simp only [List.forall_mem_cons]
    exact ⟨unambiguous_properties, unambiguous_connections, List.forall_mem_nil _⟩
  have hnode : node.Unambiguous := by
    refine .closed (by decide) ?_
    simp only [List.forall_mem_cons]
    exact ⟨.list .text, unambiguous_properties, unambiguous_connections, List.forall_mem_nil _⟩
  have hedge : edge.Unambiguous :=
    .closed (by decide) (List.forall_mem_singleton.mpr unambiguous_properties)
  refine .closed (by decide) ?_
  simp only [List.forall_mem_cons]
  exact ⟨.table hlabel, .table hnode, .table hedge, List.forall_mem_nil _⟩

end GraphTemplate.Shape
