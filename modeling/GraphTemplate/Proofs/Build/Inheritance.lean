import GraphTemplate.Proofs.Build.Properties
import GraphTemplate.Proofs.Template.WellFormed

/-! The properties of node types. A node has its own properties and then, label after label, those
that no earlier declaration has a key for; each is built from the declaration that it comes from. -/
namespace GraphTemplate

namespace Document

variable {d : Document} {e : String × PropertyEntry}

def declaredBy (d : Document) (label : String) : List (String × PropertyEntry) :=
  ((d.labels.get? label).map fun entry => entry.properties.entries).getD []

/-- What labels add to properties under some keys: each label in turn those of its properties whose
key is not there yet. -/
def inherited (d : Document) : List String → List String → List (String × PropertyEntry)
  | _, [] => []
  | present, label :: labels =>
    let added := (d.declaredBy label).filter fun e => e.1 ∉ present
    added ++ d.inherited (present ++ added.map Prod.fst) labels

def declarations (d : Document) (node : NodeEntry) : List (String × PropertyEntry) :=
  node.properties.entries ++ d.inherited node.properties.names node.labels

theorem mem_inherited {present labels : List String} (h : e ∈ d.inherited present labels) :
    ∃ label ∈ labels, e ∈ d.declaredBy label := by
  induction labels generalizing present with
  | nil => simp [inherited] at h
  | cons label labels ih =>
    rw [inherited, List.mem_append] at h
    rcases h with h | h
    · exact ⟨label, List.mem_cons_self, (List.mem_filter.mp h).1⟩
    · obtain ⟨l, hl, he⟩ := ih h
      exact ⟨l, List.mem_cons_of_mem label hl, he⟩

end Document

namespace Build

variable {d : Document} {own label : NameTable Property}

theorem entries_inherit (own label : NameTable Property) :
    (inherit own label).entries =
      own.entries ++ label.entries.filter fun e => e.1 ∉ own.names := by
  unfold inherit
  obtain ⟨es, hd⟩ := label
  dsimp only
  induction es generalizing own with
  | nil => simp
  | cons e es ih =>
    rw [List.map_cons, List.nodup_cons] at hd
    rw [List.foldl_cons, ih _ hd.2, List.filter_cons]
    by_cases hp : e.1 ∈ own.names
    · have hc : own.contains e.1 = true := by
        simpa [NameTable.contains, Option.isSome_iff_exists] using NameTable.mem_names_iff.mp hp
      simp [hc, hp]
    · have hc : own.contains e.1 = false := by
        rw [Bool.eq_false_iff]
        intro hc
        exact hp (NameTable.mem_names_iff.mpr (Option.isSome_iff_exists.mp hc))
      have hentries : (own.insert e.1 e.2).entries = own.entries ++ [e] :=
        NameTable.put_of_not_mem hp
      have hnames : (own.insert e.1 e.2).names = own.names ++ [e.1] := by
        rw [NameTable.names_insert, if_neg hp]
      -- the keys of a label differ, so a key that has come in leaves out no later one
      have hrest : es.filter (fun x => x.1 ∉ own.names ++ [e.1]) =
          es.filter fun x => x.1 ∉ own.names := by
        apply List.filter_congr
        intro x hx
        have hne : x.1 ≠ e.1 := fun he => hd.1 (he ▸ List.mem_map_of_mem hx)
        simp [hne]
      rw [hc, if_neg Bool.false_ne_true, hentries, hnames, hrest]
      simp [hp]

def declared (e : String × PropertyEntry) : String × Property := (e.1, e.2.property e.1)

theorem entries_table (entries : PropertyEntries) :
    entries.table.entries = entries.entries.map declared :=
  NameTable.entries_ofList_map entries _

theorem entries_nodeProperties {es : List (String × PropertyEntry)} (labels : List String)
    (h : own.entries = es.map declared) :
    (nodeProperties d.labelProperties ⟨own, labels⟩).entries =
      (es ++ d.inherited (es.map Prod.fst) labels).map declared := by
  unfold nodeProperties
  dsimp only
  induction labels generalizing own es with
  | nil => simp [Document.inherited, h]
  | cons label labels ih =>
    have hnames : own.names = es.map Prod.fst := by
      rw [NameTable.names, h, List.map_map]
      rfl
    rw [List.foldl_cons, Document.inherited, ← List.append_assoc, ← List.map_append]
    apply ih
    rw [Document.labelProperties, NameTable.get?_ofList_map, Document.declaredBy]
    cases d.labels.get? label with
    | none => simp [h]
    | some entry =>
      simp only [Option.map_some, Option.getD_some]
      rw [entries_inherit, entries_table, h, hnames, List.map_append, List.filter_map]
      rfl

def Declares (es : List (String × PropertyEntry)) (t : NameTable Property) : Prop :=
  List.Forall₂ (fun e x => x.1 = e.1 ∧ e.2.Yields e.1 x.2) es t.entries

theorem declares_of_entries {es : List (String × PropertyEntry)} {t : NameTable Property}
    (h : t.entries = es.map declared) (hes : ∀ e ∈ es, e.2.Yields e.1 (e.2.property e.1)) :
    Declares es t := by
  rw [Declares, h, List.forall₂_map_right_iff, List.forall₂_same]
  intro e he
  exact ⟨rfl, hes e he⟩

end Build

namespace Document

variable {d : Document}

theorem propertyFaults_eq_none (h : d.fault? = none) :
    (∀ e ∈ d.edges.entries, e.2.properties.fault? = none) ∧
      (∀ e ∈ d.labels.entries, e.2.properties.fault? = none) ∧
      ∀ e ∈ d.nodes.entries, e.2.properties.fault? = none := by
  simp only [fault?, Option.or_eq_none_iff, List.findSome?_eq_none_iff] at h
  exact ⟨h.1.1, h.1.2, h.2⟩

end Document

theorem PropertyEntries.yields {entries : PropertyEntries} {owner : List String}
    (hd : entries.defects owner = []) (hf : entries.fault? = none) :
    ∀ e ∈ entries.entries, e.2.Yields e.1 (e.2.property e.1) := by
  intro e he
  apply PropertyEntry.yields_property
  · exact List.flatMap_eq_nil_iff.mp hd e he
  · exact List.findSome?_eq_none_iff.mp hf e he

namespace Build

variable {d : Document} {t : Template}

theorem fault?_of_result (h : (ofDocument d).result = .ok t) : d.fault? = none := by
  rw [result_ofDocument] at h
  cases hf : d.fault? with
  | none => rfl
  | some f => simp [hf] at h

/-- The types of a template have the names and the properties that its document declares. -/
theorem properties_of_document (h : (ofDocument d).result = .ok t) :
    (t.nodes.names = d.nodes.names ∧ t.edges.names = d.edges.names) ∧
      (∀ name entry, d.nodes.get? name = some entry →
        (∀ label ∈ entry.labels, label ∈ d.labels.names) ∧
          ∃ type, t.nodes.get? name = some type ∧ type.name = name ∧
            Declares (d.declarations entry) type.properties) ∧
      ∀ name entry, d.edges.get? name = some entry →
        ∃ type, t.edges.get? name = some type ∧ type.name = name ∧
          Declares entry.properties.entries type.properties := by
  obtain ⟨hedges', hlabels', hnodes'⟩ := Document.propertyFaults_eq_none (fault?_of_result h)
  obtain ⟨hd, rfl⟩ := defects_of_result h
  have hclean := Document.clean_of_defects hd
  obtain ⟨hedges, hlabels, hnodes⟩ := Document.propertyDefects_eq_nil hd
  refine ⟨⟨d.names_nodes, d.names_edges⟩, ?_, ?_⟩
  · intro name entry hentry
    have hmem := NameTable.get?_eq_some_iff.mp hentry
    refine ⟨hclean.labels _ hmem, _, by rw [Document.get?_nodes, hentry]; rfl, rfl, ?_⟩
    dsimp only
    rw [hclean.wornLabels_eq hmem]
    apply declares_of_entries
    · exact entries_nodeProperties entry.labels (entries_table entry.properties)
    · intro e he
      rcases List.mem_append.mp he with he | he
      · exact PropertyEntries.yields (hnodes _ hmem) (hnodes' _ hmem) e he
      · obtain ⟨label, -, he⟩ := Document.mem_inherited he
        rw [Document.declaredBy] at he
        cases hl : d.labels.get? label with
        | none => simp [hl] at he
        | some l =>
          have hmem := NameTable.get?_eq_some_iff.mp hl
          rw [hl] at he
          exact PropertyEntries.yields (hlabels _ hmem) (hlabels' _ hmem) e he
  · intro name entry hentry
    have hmem := NameTable.get?_eq_some_iff.mp hentry
    refine ⟨_, by rw [Document.get?_edges, hentry]; rfl, rfl, ?_⟩
    apply declares_of_entries (entries_table entry.properties)
    exact PropertyEntries.yields (hedges _ hmem) (hedges' _ hmem)

def plain (type : String) : PropertyEntry := ⟨type, ⟨[], [], [], []⟩⟩

/-- A node with a property of its own and two labels, one of them listed twice, that declare the
same keys. -/
def layered : Document where
  labels := .ofList [
    ("a", ⟨.ofList [("owner", plain "string"), ("size", plain "int"), ("name", plain "bool")],
      .empty⟩),
    ("b", ⟨.ofList [("size", plain "float"), ("name", plain "int"), ("at", plain "datetime")],
      .empty⟩)]
  nodes := .ofList [("n", ⟨["b", "a", "b"],
    .ofList [("name", ⟨"string", ⟨["xy", "x"], ["^x"], [], []⟩⟩)], .empty⟩)]
  edges := .ofList [("e", ⟨.empty⟩)]

theorem properties_of_layered :
    (ofDocument layered).result = .ok layered.template ∧
      ∃ type, layered.template.nodes.get? "n" = some type ∧
        Declares [("name", ⟨"string", ⟨["xy", "x"], ["^x"], [], []⟩⟩), ("size", plain "float"),
          ("at", plain "datetime"), ("owner", plain "string")] type.properties := by
  have ht : (ofDocument layered).result = .ok layered.template :=
    result_of_no_defects (by decide) (by decide)
  obtain ⟨-, hnodes, -⟩ := properties_of_document ht
  obtain ⟨-, type, htype, -, hdeclares⟩ := hnodes "n" _ rfl
  exact ⟨ht, type, htype, hdeclares⟩

end Build

end GraphTemplate
