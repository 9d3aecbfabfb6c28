import GraphTemplate.Proofs.Document.Grammar

/-! Values of a shape: those that there is no complaint about. -/
namespace GraphTemplate.Shape

def Fits (shape : Shape) (v : Value) : Prop := shape.complaint? v = none

def FieldsFit (fields : List (String × Shape)) (v : Value) : Prop :=
  ∀ f ∈ fields, ∀ u, v.Has f.1 u → f.2.Fits u

theorem fieldsFit_cons {f : String × Shape} {fs : List (String × Shape)} {v : Value} :
    FieldsFit (f :: fs) v ↔ FieldsFit [f] v ∧ FieldsFit fs v := by
  simp [FieldsFit]

attribute [local simp] complaint? firstItem

theorem isEmptyText_iff {v : Value} : isEmptyText v = true ↔ v = .text "" := by
  cases v with
  | text s => simp [isEmptyText]
  | _ => simp [isEmptyText]

theorem least_eq_none_iff {cs : List (String × Complaint)} : least cs = none ↔ cs = [] := by
  constructor
  · intro h
    induction cs with
    | nil => rfl
    | cons c cs ih =>
      rw [least] at h
      split at h
      · exact nomatch h
      · next hrest =>
        obtain rfl := ih h
        exact absurd rfl hrest
  · rintro rfl
    rfl

theorem mem_sorted {names : List String} {name : String} :
    name ∈ PropertyKeys.sorted names ↔ name ∈ names := by
  simp [PropertyKeys.sorted]

theorem unknownKeys?_eq_none_iff {known : List String} {v : Value}
    {entries : List (Value × Value)} :
    unknownKeys? known v entries = none ↔ ∀ k ∈ textKeys entries, k ∈ known := by
  have hempty : (PropertyKeys.sorted
      ((textKeys entries).filter fun k => !known.contains k)).isEmpty = true ↔
        ∀ k ∈ textKeys entries, k ∈ known := by
    rw [List.isEmpty_iff, List.eq_nil_iff_forall_not_mem]
    simp [mem_sorted]
  simp only [unknownKeys?]
  rw [← hempty]
  split <;> simp_all

theorem textKeys_table (t : NameTable Value) :
    textKeys (t.entries.map fun e => (.text e.1, e.2)) = t.names := by
  simp [textKeys, NameTable.names, List.filterMap_map]

theorem firstItem_eq_none_iff {item : Shape} {n : Nat} {vs : List Value} :
    firstItem item n vs = none ↔ ∀ v ∈ vs, item.Fits v := by
  induction vs generalizing n with
  | nil => simp
  | cons v vs ih =>
    rw [firstItem, List.forall_mem_cons, Fits]
    cases hv : item.complaint? v with
    | none => simp [ih]
    | some c => simp

theorem entryComplaints_table (entry : Shape) (es : List (String × Value)) :
    entryComplaints entry (es.map fun e => (.text e.1, e.2)) =
      es.filterMap fun e => (entry.complaint? e.2).map fun c => (e.1, c) := by
  induction es with
  | nil => rw [List.map_nil, entryComplaints, List.filterMap_nil]
  | cons e es ih =>
    rw [List.map_cons, entryComplaints, List.filterMap_cons, ih]
    cases entry.complaint? e.2 <;> rfl

theorem fieldComplaints_table (fields : List (String × Shape)) (t : NameTable Value) :
    fieldComplaints fields (t.entries.map fun e => (.text e.1, e.2)) =
      fields.filterMap fun f => ((t.get? f.1).bind f.2.complaint?).map fun c => (f.1, c) := by
  induction fields with
  | nil => rw [fieldComplaints, List.filterMap_nil]
  | cons f fields ih =>
    rw [fieldComplaints, Value.field?_table, List.filterMap_cons, ih]
    cases (t.get? f.1).bind f.2.complaint? <;> rfl

theorem entryComplaints_eq_nil_iff {entry : Shape} {es : List (String × Value)} :
    entryComplaints entry (es.map fun e => (.text e.1, e.2)) = [] ↔ ∀ e ∈ es, entry.Fits e.2 := by
  rw [entryComplaints_table, List.filterMap_eq_nil_iff]
  exact forall₂_congr fun e _ => Option.map_eq_none_iff

theorem fieldComplaints_eq_nil_iff {fields : List (String × Shape)} {t : NameTable Value} :
    fieldComplaints fields (t.entries.map fun e => (.text e.1, e.2)) = [] ↔
      FieldsFit fields (.ofTable t) := by
  rw [fieldComplaints_table, List.filterMap_eq_nil_iff]
  refine forall₂_congr fun f _ => ?_
  simp only [Option.map_eq_none_iff, Option.bind_eq_none_iff, Value.has_ofTable, Fits]

theorem fits_text_iff {v : Value} : text.Fits v ↔ ∃ s, v = .text s := by
  cases v <;> simp [Fits]

theorem fits_integer_iff {v : Value} :
    integer.Fits v ↔ ∃ s, v = .text s ∧ isIntegerText s = true := by
  cases v <;> simp [Fits]

def isSection : Shape → Bool
  | text | integer => false
  | list _ | closed _ | table _ => true

theorem fits_scalar_iff {shape : Shape} {v : Value} (hs : shape.isSection = true)
    (hv : v.isComposite = false) : shape.Fits v ↔ v = .text "" := by
  rw [← isEmptyText_iff]
  cases shape with
  | text | integer => exact nomatch hs
  | list | closed | table =>
    cases v with
    | sequence | mapping => exact nomatch hv
    | _ => simp [Fits]

theorem fits_list_sequence {item : Shape} {items : List Value} :
    (list item).Fits (.sequence .list items) ↔ ∀ u ∈ items, item.Fits u := by
  rw [Fits, complaint?, firstItem_eq_none_iff]

theorem fits_table_ofTable {entry : Shape} {t : NameTable Value} :
    (table entry).Fits (.ofTable t) ↔ ∀ e ∈ t.entries, entry.Fits e.2 := by
  rw [Fits, Value.ofTable, complaint?, least_eq_none_iff, entryComplaints_eq_nil_iff]

theorem fits_closed_ofTable {fields : List (String × Shape)} {t : NameTable Value} :
    (closed fields).Fits (.ofTable t) ↔
      (∀ k ∈ t.names, k ∈ fields.map Prod.fst) ∧ FieldsFit fields (.ofTable t) := by
  rw [Fits, Value.ofTable, complaint?, Option.or_eq_none_iff, least_eq_none_iff,
    fieldComplaints_eq_nil_iff, unknownKeys?_eq_none_iff, textKeys_table, and_comm]
  rfl

theorem fits_list_iff {item : Shape} {v : Value} (hv : v.Loaded) :
    (list item).Fits v ↔
      v = .text "" ∨ ∃ items, v = .sequence .list items ∧ ∀ u ∈ items, item.Fits u := by
  cases hv with
  | scalar hv =>
    rw [fits_scalar_iff rfl hv]
    refine (or_iff_left ?_).symm
    rintro ⟨items, rfl, -⟩
    exact nomatch hv
  | list => simp [fits_list_sequence]
  | table => simp [Fits, Value.ofTable, isEmptyText]

theorem fits_table_iff {entry : Shape} {v : Value} (hv : v.Loaded) :
    (table entry).Fits v ↔
      v = .text "" ∨ ∃ t, v = .ofTable t ∧ ∀ e ∈ t.entries, entry.Fits e.2 := by
  cases hv with
  | scalar hv =>
    rw [fits_scalar_iff rfl hv]
    refine (or_iff_left ?_).symm
    rintro ⟨t, rfl, -⟩
    exact nomatch hv
  | list => simp [Fits, Value.ofTable, isEmptyText]
  | @table t =>
    rw [fits_table_ofTable]
    constructor
    · exact fun h => Or.inr ⟨t, rfl, h⟩
    · rintro (h | ⟨s, hs, h⟩)
      · exact nomatch h
      · rwa [Value.ofTable_inj hs]

theorem fits_closed_iff {fields : List (String × Shape)} {v : Value} (hv : v.Loaded) :
    (closed fields).Fits v ↔ Grammar.Keyed (fields.map Prod.fst) v ∧ FieldsFit fields v := by
  cases hv with
  | scalar hv =>
    rw [fits_scalar_iff rfl hv]
    constructor
    · rintro rfl
      refine ⟨Or.inl rfl, ?_⟩
      rintro f - u ⟨t, ht, -⟩
      exact nomatch ht
    · rintro ⟨h | ⟨t, rfl, -⟩, -⟩
      · exact h
      · exact nomatch hv
  | list => simp [Fits, Value.ofTable, isEmptyText, Grammar.Keyed]
  | @table t =>
    rw [fits_closed_ofTable]
    refine and_congr_left fun _ => ⟨fun h => Or.inr ⟨t, rfl, h⟩, ?_⟩
    rintro (h | ⟨s, hs, h⟩)
    · exact nomatch h
    · rwa [Value.ofTable_inj hs]

end GraphTemplate.Shape
