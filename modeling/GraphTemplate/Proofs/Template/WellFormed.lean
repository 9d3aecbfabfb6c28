import GraphTemplate.Proofs.Build.Properties
import GraphTemplate.Proofs.Build.Rules
import GraphTemplate.Proofs.Template.Causes

/-! Templates of accepted documents are well formed: a text that was no data type or no
restriction, or a connection that was left out, leaves a defect behind, so none of them is in a
template. -/
namespace GraphTemplate

namespace Datum

def value : Datum → Value
  | int n => .int n
  | float x => .float x 0
  | string s => .text s
  | bool b => .bool b
  | datetime m => .moment m

theorem ofValue?_value (d : Datum) : ofValue? d.scalar d.value = .ok (some d) := by
  cases d <;> rfl

end Datum

namespace Restriction

variable {d : Descriptor} {kind : RestrictionKind} {raw : String} {r : Restriction}

theorem isKey_kind (r : Restriction) : r.kind.isKey = r.onKeys := by
  unfold kind
  cases r.onKeys <;> cases r.demand <;> rfl

def WantsOwnType (r : Restriction) : Prop :=
  ∀ datum, r.demand = .equals datum → Datum.ofValue? r.scalar datum.value = .ok (some datum)

theorem wantsOwnType_of_build (h : build d kind raw = .ok r) : r.WantsOwnType := by
  intro datum hd
  obtain ⟨scalar, -, ⟨-, p, rfl⟩ | ⟨-, datum', hv, rfl⟩⟩ := cases_of_build h
  · exact nomatch hd
  · obtain rfl := Demand.equals.inj hd
    show Datum.ofValue? scalar _ = _
    rw [← (readDatum_eq_ok_iff.mp hv).2]
    exact Datum.ofValue?_value _

theorem restrictedType_of_build (h : build d kind raw = .ok r) :
    restrictedType d kind raw = .ok r.scalar ∧ r.onKeys = kind.isKey := by
  obtain ⟨scalar, ht, ⟨-, p, rfl⟩ | ⟨-, datum, -, rfl⟩⟩ := cases_of_build h
  · exact ⟨ht, rfl⟩
  · exact ⟨ht, rfl⟩

theorem valueType?_of_build (h : build d kind raw = .ok r) (hk : r.onKeys = false) :
    d.valueType? = some r.scalar := by
  obtain ⟨ht, hkind⟩ := restrictedType_of_build h
  rw [hkind] at hk
  unfold restrictedType at ht
  cases hv : d.valueType? with
  | none =>
    rw [hv] at ht
    exact nomatch ht
  | some value =>
    simp only [hv, hk, Bool.false_eq_true, if_false, Except.ok.injEq] at ht
    rw [ht]

theorem descriptor_of_build (h : build d kind raw = .ok r) (hk : r.onKeys = true) :
    ∃ value, d = .map r.scalar value := by
  obtain ⟨ht, hkind⟩ := restrictedType_of_build h
  rw [hkind] at hk
  unfold restrictedType at ht
  simp only [hk, if_true] at ht
  cases d with
  | map key value =>
    obtain rfl := Except.ok.inj ht
    exact ⟨value, rfl⟩
  | _ => exact nomatch ht

end Restriction

/-- A property with a data type, and restrictions for just what there is to restrict. -/
structure Property.WellFormed (p : Property) : Prop where
  typed : p.descriptor ≠ .undefined
  readable : Descriptor.read p.descriptor.text = .ok p.descriptor
  values : ∀ r ∈ p.values, r.kind.isKey = false ∧ p.descriptor.valueType? = some r.scalar
  keys : ∀ r ∈ p.keys, r.kind.isKey = true ∧ ∃ value, p.descriptor = .map r.scalar value
  wanted : ∀ r ∈ p.values ++ p.keys, r.WantsOwnType

namespace PropertyEntry

variable {p : PropertyEntry}

theorem wellFormed_property {place : List String} (h : p.typeDefects place = []) (key : String) :
    (p.property key).WellFormed := by
  have htyped : p.descriptor ≠ .undefined :=
    Descriptor.ne_undefined_of_read (descriptor_of_typeDefects h)
  refine ⟨htyped, Descriptor.read_text htyped, ?_, ?_, ?_⟩
  · intro r hr
    obtain ⟨hr, hk⟩ := List.mem_filter.mp hr
    obtain ⟨kind, raw, hb⟩ := exists_of_mem_allBuilt hr
    have hk : r.onKeys = false := by simpa using hk
    exact ⟨r.isKey_kind.trans hk, Restriction.valueType?_of_build hb hk⟩
  · intro r hr
    obtain ⟨hr, hk⟩ := List.mem_filter.mp hr
    obtain ⟨kind, raw, hb⟩ := exists_of_mem_allBuilt hr
    exact ⟨r.isKey_kind.trans hk, Restriction.descriptor_of_build hb hk⟩
  · intro r hr
    have hr : r ∈ p.allBuilt :=
      (List.mem_append.mp hr).elim List.mem_of_mem_filter List.mem_of_mem_filter
    obtain ⟨kind, raw, hb⟩ := exists_of_mem_allBuilt hr
    exact Restriction.wantsOwnType_of_build hb

end PropertyEntry

def PropertiesWellFormed (t : NameTable Property) : Prop :=
  ∀ ⦃key p⦄, t.get? key = some p → p.key = key ∧ p.WellFormed

theorem PropertyEntries.wellFormed_table {entries : PropertyEntries} {owner : List String}
    (h : entries.defects owner = []) : PropertiesWellFormed entries.table := by
  intro key p hp
  rw [table, NameTable.get?_ofList_map] at hp
  obtain ⟨entry, he, rfl⟩ := Option.map_eq_some_iff.mp hp
  have hd := List.flatMap_eq_nil_iff.mp h _ (NameTable.get?_eq_some_iff.mp he)
  exact ⟨rfl, PropertyEntry.wellFormed_property (List.append_eq_nil_iff.mp hd).1 key⟩

namespace Build

variable {own label : NameTable Property} {labels : NameTable (NameTable Property)} {key : String}

theorem get?_inherit :
    (inherit own label).get? key = (own.get? key).or (label.get? key) := by
  unfold inherit
  rw [NameTable.get?.eq_def label]
  induction label.entries generalizing own with
  | nil => exact Option.or_none.symm
  | cons e es ih =>
    rw [List.foldl_cons, ih, List.lookup_cons]
    by_cases hk : key = e.1
    · subst hk
      cases ho : own.get? e.1 <;> simp [NameTable.contains, ho]
    · have hne : (key == e.1) = false := beq_eq_false_iff_ne.mpr hk
      cases ho : own.get? e.1 <;> simp [NameTable.contains, ho, hk, hne]

theorem get?_nodeProperties (node : BareNode) :
    (nodeProperties labels node).get? key =
      (node.properties.get? key).or
        (node.labels.findSome? fun label => (labels.get? label).bind (·.get? key)) := by
  unfold nodeProperties
  obtain ⟨own, worn⟩ := node
  dsimp only
  induction worn generalizing own with
  | nil => exact Option.or_none.symm
  | cons label worn ih =>
    rw [List.foldl_cons, ih, List.findSome?_cons]
    cases labels.get? label with
    | none => rfl
    | some properties =>
      simp only [get?_inherit, Option.bind_some, Option.or_assoc]
      cases properties.get? key <;> rfl

theorem wellFormed_nodeProperties {node : BareNode} (hown : PropertiesWellFormed node.properties)
    (hlabels : ∀ label properties, labels.get? label = some properties →
      PropertiesWellFormed properties) :
    PropertiesWellFormed (nodeProperties labels node) := by
  intro key p hp
  rw [get?_nodeProperties, Option.or_eq_some_iff] at hp
  rcases hp with hp | ⟨-, hp⟩
  · exact hown hp
  · obtain ⟨label, -, hl⟩ := List.exists_of_findSome?_eq_some hp
    obtain ⟨properties, hproperties, hp⟩ := Option.bind_eq_some_iff.mp hl
    exact hlabels label properties hproperties hp

end Build

/-- A rule in its place, between types that there are, with bounds that some numbers meet. -/
structure Rule.WellFormed (t : Template) (main subject edge : String) (r : Rule) : Prop where
  names : r.main = main ∧ r.subject = subject ∧ r.edge = edge
  types : main ∈ t.nodes.names ∧ subject ∈ t.nodes.names ∧ edge ∈ t.edges.names
  min : 0 ≤ r.min
  max : r.max = -1 ∨ 1 ≤ r.max

namespace Document

variable {d : Document} {main subject edge label : String}

theorem names_nodes (d : Document) : d.template.nodes.names = d.nodes.names := by
  show (NameTable.ofList (d.bareNodes.map _)).names = _
  rw [bareNodes, List.map_map]
  exact NameTable.names_ofList_map d.nodes _

theorem names_edges (d : Document) : d.template.edges.names = d.edges.names :=
  NameTable.names_ofList_map d.edges _

theorem Fits.bounds {owner : Owner} {c : ConnectionEntry} (h : d.Fits owner subject c) :
    0 ≤ c.min ∧ (c.max = -1 ∨ 1 ≤ c.max) := by
  obtain ⟨-, -, hmin, hmax⟩ := h
  omega

theorem Clean.wellFormed_declared? (h : d.Clean) {c : ConnectionEntry}
    (hc : d.declared? main subject edge = some c) (label : Option String) :
    Rule.WellFormed d.template main subject edge ⟨main, subject, edge, c.min, c.max, label⟩ := by
  obtain ⟨cs, hcs, hfind⟩ := Option.bind_eq_some_iff.mp hc
  obtain ⟨entry, hn, hs⟩ := Option.bind_eq_some_iff.mp hcs
  have hlist :=
    h.nodeLinks _ (NameTable.get?_eq_some_iff.mp hn) _ (NameTable.get?_eq_some_iff.mp hs)
  have hfits := fits_of_listDefects hlist c (List.mem_of_find?_eq_some hfind)
  have hedge : c.edge = edge := by simpa using List.find?_some hfind
  refine ⟨⟨rfl, rfl, rfl⟩, ?_, hfits.bounds.1, hfits.bounds.2⟩
  rw [names_nodes, names_edges]
  exact ⟨NameTable.mem_names_iff.mpr ⟨entry, hn⟩, hfits.1, hedge ▸ hfits.2.1⟩

theorem Clean.wellFormed_ruleOfLabel? (h : d.Clean) {r : Rule} (hmain : main ∈ d.nodes.names)
    (hr : d.ruleOfLabel? main subject edge label = some r) :
    Rule.WellFormed d.template main subject edge r := by
  obtain ⟨entry, hl, hs⟩ := Option.bind_eq_some_iff.mp hr
  obtain ⟨s, hs, hc⟩ := List.exists_of_findSome?_eq_some hs
  obtain ⟨c, hc, hr⟩ := List.exists_of_findSome?_eq_some hc
  have hlist := h.labelLinks _ (NameTable.get?_eq_some_iff.mp hl) s hs
  have hfits := fits_of_listDefects hlist c hc
  split at hr
  · next hw =>
    obtain ⟨hedge, node, hnode, -⟩ := hw
    obtain rfl := Option.some.inj hr
    refine ⟨⟨rfl, rfl, rfl⟩, ?_, hfits.bounds.1, hfits.bounds.2⟩
    rw [names_nodes, names_edges]
    exact ⟨hmain, NameTable.mem_names_iff.mpr ⟨node, hnode⟩, hedge ▸ hfits.2.1⟩
  · exact nomatch hr

theorem Clean.wellFormed_rule? (h : d.Clean) {r : Rule}
    (hr : d.template.rule? main subject edge = some r) :
    Rule.WellFormed d.template main subject edge r := by
  rw [h.rule?_template, resolved?] at hr
  split at hr
  · next c hc =>
    obtain rfl := Option.some.inj hr
    exact h.wellFormed_declared? hc none
  · obtain ⟨entry, hn, hl⟩ := Option.bind_eq_some_iff.mp hr
    obtain ⟨label, -, hr⟩ := List.exists_of_findSome?_eq_some hl
    exact h.wellFormed_ruleOfLabel? (NameTable.mem_names_iff.mpr ⟨entry, hn⟩) hr

theorem propertyDefects_eq_nil (h : d.defects = []) :
    (∀ e ∈ d.edges.entries, e.2.properties.defects ["edges", e.1] = []) ∧
      (∀ e ∈ d.labels.entries, e.2.properties.defects ["labels", e.1] = []) ∧
      ∀ e ∈ d.nodes.entries, e.2.properties.defects ["nodes", e.1] = [] := by
  unfold defects at h
  simp only [List.append_eq_nil_iff, List.flatMap_eq_nil_iff] at h
  obtain ⟨⟨⟨⟨hedges, hlabels⟩, -⟩, hnodes⟩, -⟩ := h
  exact ⟨hedges, hlabels, fun e he => (hnodes e he).1⟩

def labelProperties (d : Document) : NameTable (NameTable Property) :=
  .ofList (d.labels.entries.map fun e => (e.1, e.2.properties.table))

theorem get?_nodes (d : Document) (name : String) :
    d.template.nodes.get? name = (d.nodes.get? name).map fun entry =>
      ⟨name, Build.nodeProperties d.labelProperties
        ⟨entry.properties.table, d.wornLabels entry⟩⟩ := by
  show (NameTable.ofList (d.bareNodes.map _)).get? name = _
  rw [bareNodes, List.map_map]
  exact NameTable.get?_ofList_map d.nodes _ name

theorem get?_edges (d : Document) (name : String) :
    d.template.edges.get? name =
      (d.edges.get? name).map fun entry => ⟨name, entry.properties.table⟩ :=
  NameTable.get?_ofList_map d.edges _ name

theorem wellFormed_types (h : d.defects = []) {kind : EntityKind} {name : String}
    {type : EntityType} (ht : (d.template.typesOf kind).get? name = some type) :
    type.name = name ∧ PropertiesWellFormed type.properties := by
  obtain ⟨hedges, hlabels, hnodes⟩ := propertyDefects_eq_nil h
  cases kind with
  | edge =>
    rw [Template.typesOf, get?_edges] at ht
    obtain ⟨entry, he, rfl⟩ := Option.map_eq_some_iff.mp ht
    exact ⟨rfl, PropertyEntries.wellFormed_table (hedges _ (NameTable.get?_eq_some_iff.mp he))⟩
  | node =>
    rw [Template.typesOf, get?_nodes] at ht
    obtain ⟨entry, he, rfl⟩ := Option.map_eq_some_iff.mp ht
    refine ⟨rfl, Build.wellFormed_nodeProperties ?_ ?_⟩
    · exact PropertyEntries.wellFormed_table (hnodes _ (NameTable.get?_eq_some_iff.mp he))
    · intro label properties hl
      rw [labelProperties, NameTable.get?_ofList_map] at hl
      obtain ⟨entry, he, rfl⟩ := Option.map_eq_some_iff.mp hl
      exact PropertyEntries.wellFormed_table (hlabels _ (NameTable.get?_eq_some_iff.mp he))

end Document

structure Template.WellFormed (t : Template) : Prop where
  rules : ∀ ⦃main subject edge r⦄, t.rule? main subject edge = some r →
    Rule.WellFormed t main subject edge r
  types : ∀ ⦃kind name type⦄, (t.typesOf kind).get? name = some type → type.name = name
  properties : ∀ ⦃kind name type⦄, (t.typesOf kind).get? name = some type →
    PropertiesWellFormed type.properties

theorem Property.Told.ne_untypedProperty {p : Property} {cause : Violation.Cause}
    (h : p.Told cause) (key : String) : cause ≠ .untypedProperty key := by
  cases h <;> exact nofun

theorem EntityType.Told.ne_untypedProperty {type : EntityType} {cause : Violation.Cause}
    (h : type.Told cause) (key : String) : cause ≠ .untypedProperty key := by
  cases h with
  | keys extra missing => exact nofun
  | property hp h => exact h.ne_untypedProperty key

theorem Property.WellFormed.tells_check {p : Property} (h : p.WellFormed) (v : Value)
    (key : String) : Check.Tells (· ≠ .untypedProperty key) (p.check v) :=
  fun violation hv => (Property.tells_check h.typed v violation hv).ne_untypedProperty key

theorem Template.WellFormed.told_checkEntity {t : Template} (h : t.WellFormed) (kind : EntityKind)
    (e : Entity) : Check.Tells (t.Told kind e) (t.checkEntity kind e) := by
  unfold checkEntity
  cases ht : (t.typesOf kind).get? e.typeName with
  | none => exact Check.tells_violated .unknownType
  | some type =>
    have htyped : ∀ name p, type.properties.get? name = some p → p.descriptor ≠ .undefined :=
      fun name p hp => (h.properties ht hp).2.typed
    apply Check.Tells.within
    exact (EntityType.tells_check htyped e.properties).mono fun _ => .entity ht

theorem Template.WellFormed.tells_checkEntity {t : Template} (h : t.WellFormed) (kind : EntityKind)
    (e : Entity) (key : String) :
    Check.Tells (· ≠ .untypedProperty key) (t.checkEntity kind e) := by
  refine (h.told_checkEntity kind e).mono fun cause htold => ?_
  cases htold with
  | unknownType => exact nofun
  | entity ht htold => exact htold.ne_untypedProperty key

namespace Build

variable {d : Document} {t : Template}

/-- Templates of documents are well formed, so no check finds a property without a type. -/
theorem wellFormed_of_result (h : (ofDocument d).result = .ok t) :
    t.WellFormed ∧
      (∀ kind name type, (t.typesOf kind).get? name = some type →
        ∀ key p, type.properties.get? key = some p → ∀ v k,
          Check.Tells (· ≠ .untypedProperty k) (p.check v)) ∧
      ∀ kind e k, Check.Tells (· ≠ .untypedProperty k) (t.checkEntity kind e) := by
  obtain ⟨hd, rfl⟩ := defects_of_result h
  have hclean := Document.clean_of_defects hd
  have hw : d.template.WellFormed := by
    refine ⟨?_, ?_, ?_⟩
    · intro main subject edge r hr
      exact hclean.wellFormed_rule? hr
    · intro kind name type ht
      exact (Document.wellFormed_types hd ht).1
    · intro kind name type ht
      exact (Document.wellFormed_types hd ht).2
  refine ⟨hw, ?_, fun kind e k => hw.tells_checkEntity kind e k⟩
  intro kind name type ht key p hp v k
  exact (hw.properties ht hp).2.tells_check v k

def catalogue : Document where
  labels := .ofList [("l", ⟨.ofList [("sizes", ⟨"map-string-int", ⟨["7"], [], ["a"], ["b"]⟩⟩)],
    .ofList [("l", [⟨"e", 0, -1⟩])]⟩)]
  nodes := .ofList [("n", ⟨["l"], .ofList [("name", ⟨"string", ⟨[], ["x"], [], []⟩⟩)],
    .ofList [("n", [⟨"f", 1, 2⟩])]⟩)]
  edges := .ofList [("e", ⟨.empty⟩), ("f", ⟨.ofList [("at", ⟨"datetime", ⟨[], [], [], []⟩⟩)]⟩)]

theorem wellFormed_catalogue :
    (ofDocument catalogue).result = .ok catalogue.template ∧ catalogue.template.WellFormed ∧
      (catalogue.template.rule? "n" "n" "e").isSome = true ∧
      (catalogue.template.rule? "n" "n" "f").isSome = true ∧
      ∃ type p, catalogue.template.nodes.get? "n" = some type ∧
        type.properties.get? "sizes" = some p ∧ p.values.length = 1 ∧ p.keys.length = 2 := by
  have hr : (ofDocument catalogue).result = .ok catalogue.template := by
    have hf : catalogue.fault? = none := by decide +kernel
    have hd : catalogue.defects = [] := by decide +kernel
    rw [result_ofDocument, hf]
    exact if_pos hd
  refine ⟨hr, (wellFormed_of_result hr).1, by decide, by decide, _, _, rfl, rfl, ?_, ?_⟩
  · decide +kernel
  · decide +kernel

end Build

end GraphTemplate
