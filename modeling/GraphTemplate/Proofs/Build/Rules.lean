import GraphTemplate.Proofs.Build.Outcome
import GraphTemplate.Proofs.Template.RuleTable

/-! The rules of a document that is accepted: those that nodes declare, and for the links that a
node does not declare those of the first of its labels with a connection for them. -/
namespace GraphTemplate

namespace Document

variable (d : Document) (main subject edge : String)

def declared? : Option ConnectionEntry :=
  ((d.nodes.get? main).bind (·.connections.get? subject)).bind (·.find? (·.edge = edge))

def Wears (node label : String) : Prop :=
  ∃ entry, d.nodes.get? node = some entry ∧ label ∈ entry.labels

instance (node label : String) : Decidable (d.Wears node label) :=
  decidable_of_iff ((d.nodes.get? node).any (label ∈ ·.labels) = true) <| by
    simp [Wears, Option.any_eq_true]

/-- The rule that a node has from a label: of the label's connections by edges of a type the first
to a label that the subject wears. -/
def ruleOfLabel? (label : String) : Option Rule :=
  (d.labels.get? label).bind fun entry => entry.connections.entries.findSome? fun s =>
    s.2.findSome? fun c =>
      if c.edge = edge ∧ d.Wears subject s.1 then
        some ⟨main, subject, edge, c.min, c.max, some label⟩
      else none

def inherited? : Option Rule :=
  (d.nodes.get? main).bind fun entry => entry.labels.findSome? (d.ruleOfLabel? main subject edge)

def resolved? : Option Rule :=
  match d.declared? main subject edge with
  | some c => some ⟨main, subject, edge, c.min, c.max, none⟩
  | none => d.inherited? main subject edge

end Document

namespace Document

variable {d : Document} {owner : Owner} {main subject edge label : String}

theorem labelDefects_eq_nil {node : String} {labels : List String} {index : Nat}
    (h : d.labelDefects node labels index = []) : ∀ label ∈ labels, label ∈ d.labels.names := by
  induction labels generalizing index with
  | nil => exact fun label hl => absurd hl List.not_mem_nil
  | cons label labels ih =>
    rw [labelDefects_cons] at h
    by_cases hl : label ∈ d.labels.names
    · rw [if_pos hl] at h
      exact List.forall_mem_cons.mpr ⟨hl, ih h⟩
    · rw [if_neg hl] at h
      exact nomatch h

structure Clean (d : Document) : Prop where
  labelLinks : ∀ e ∈ d.labels.entries, ∀ s ∈ e.2.connections.entries,
    d.listDefects .label e.1 s.1 [] s.2 = []
  labels : ∀ e ∈ d.nodes.entries, ∀ label ∈ e.2.labels, label ∈ d.labels.names
  nodeLinks : ∀ e ∈ d.nodes.entries, ∀ s ∈ e.2.connections.entries,
    d.listDefects .node e.1 s.1 [] s.2 = []

theorem clean_of_defects (h : d.defects = []) : d.Clean := by
  unfold defects at h
  simp only [List.append_eq_nil_iff, List.flatMap_eq_nil_iff] at h
  obtain ⟨⟨⟨-, hlinks⟩, hnodes⟩, hrules⟩ := h
  refine ⟨?_, fun e he => labelDefects_eq_nil (hnodes e he).2, ?_⟩
  · intro e he
    exact List.flatMap_eq_nil_iff.mp (hlinks e he)
  · intro e he
    exact List.flatMap_eq_nil_iff.mp (hrules e he)

namespace Clean

theorem wornLabels_eq (h : d.Clean) {e : String × NodeEntry} (he : e ∈ d.nodes.entries) :
    d.wornLabels e.2 = e.2.labels := by
  unfold wornLabels
  rw [List.filter_eq_self]
  intro label hl
  rw [List.contains_eq_mem, decide_eq_true_eq]
  exact h.labels e he label hl

theorem mem_wearers_iff (h : d.Clean) {node : String} :
    node ∈ d.scope.wearers label ↔ d.Wears node label := by
  show node ∈ Build.wearers d.bareNodes label ↔ _
  unfold Build.wearers bareNodes Wears
  simp only [List.mem_flatMap, List.mem_map, List.mem_filter, beq_iff_eq]
  constructor
  · rintro ⟨_, ⟨e, he, rfl⟩, _, ⟨hl, rfl⟩, rfl⟩
    rw [h.wornLabels_eq he] at hl
    exact ⟨e.2, NameTable.get?_eq_some_iff.mpr he, hl⟩
  · rintro ⟨entry, hn, hl⟩
    have he := NameTable.get?_eq_some_iff.mp hn
    refine ⟨_, ⟨(node, entry), he, rfl⟩, label, ⟨?_, rfl⟩, rfl⟩
    rwa [h.wornLabels_eq he]

theorem get?_labelTable (h : d.Clean) {e : String × LabelEntry} (he : e ∈ d.labels.entries) :
    (d.labelTable e).get? subject edge =
      ((e.2.connections.get? subject).bind (·.find? (·.edge = edge))).map
        fun c => ⟨c.min, c.max⟩ := by
  unfold labelTable
  rw [Build.Linking.get?_enterAll e.2.connections.distinct
    (fun s hs => accepted_of_listDefects (h.labelLinks e he s hs))
    (fun s hs => (edges_of_listDefects (h.labelLinks e he s hs)).2)]
  exact Option.or_none

theorem get?_nodeTable (h : d.Clean) {e : String × NodeEntry} (he : e ∈ d.nodes.entries) :
    (d.nodeTable e).get? subject edge =
      (((e.2.connections.get? subject).bind (·.find? (·.edge = edge))).map
        fun c => ⟨e.1, subject, c.edge, c.min, c.max, none⟩).or
          (e.2.labels.findSome? (d.scope.linked? e.1 subject edge)) := by
  unfold nodeTable
  rw [Build.Linking.get?_enterAll e.2.connections.distinct
    (fun s hs => accepted_of_listDefects (h.nodeLinks e he s hs))
    (fun s hs => (edges_of_listDefects (h.nodeLinks e he s hs)).2),
    Build.Scope.get?_expand, h.wornLabels_eq he]
  rfl

theorem findSome?_find? {β : Type} (cs : List ConnectionEntry) (p : Prop) [Decidable p]
    (f : ConnectionEntry → β) :
    (cs.findSome? fun c => if c.edge = edge ∧ p then some (f c) else none) =
      (cs.find? (·.edge = edge)).bind fun c => if p then some (f c) else none := by
  induction cs with
  | nil => rfl
  | cons c cs ih =>
    rw [List.findSome?_cons, List.find?_cons, ih]
    by_cases he : c.edge = edge
    · by_cases hp : p
      · simp [he, hp]
      · simp [he, hp]
    · simp [he]

theorem linked?_scope (h : d.Clean) :
    d.scope.linked? main subject edge label = d.ruleOfLabel? main subject edge label := by
  unfold Build.Scope.linked? ruleOfLabel?
  have hlinks : d.scope.labelLinks.get? label = (d.labels.get? label).map fun entry =>
      d.labelTable (label, entry) :=
    NameTable.get?_ofList_map d.labels _ label
  rw [hlinks]
  cases hl : d.labels.get? label with
  | none => rfl
  | some entry =>
    have he := NameTable.get?_eq_some_iff.mp hl
    let links := d.labelTable (label, entry)
    let ruleTo? := d.scope.ruleTo? main subject edge label
    have hget (target : String) : links.get? target edge = _ := h.get?_labelTable he
    have hnone (s : String × List ConnectionEntry) (hs : s ∈ entry.connections.entries)
        (hc : s.2 = []) : (links.get? s.1 edge).bind (ruleTo? s.1) = none := by
      rw [hget, NameTable.get?_eq_some_iff.mpr hs, hc]
      rfl
    calc links.entries.findSome? (fun link => (link.2.get? edge).bind (ruleTo? link.1))
      _ = (NameTable.names links).findSome? fun n => (links.get? n edge).bind (ruleTo? n) := by
        rw [NameTable.findSome?_names links fun n edges => (edges.get? edge).bind (ruleTo? n)]
        exact NameTable.findSome?_congr fun n _ => (Option.bind_assoc _ _ _).symm
      _ = entry.connections.entries.findSome? fun s => (links.get? s.1 edge).bind (ruleTo? s.1) :=
        (@Build.Linking.findSome?_names_enterAll _ (d.labelLinking label) d _ _ _ .empty
          entry.connections.distinct
          (fun s hs => accepted_of_listDefects (h.labelLinks _ he s hs)) hnone).trans
          Option.none_or
      _ = _ := by
        refine NameTable.findSome?_congr fun s hs => ?_
        rw [hget, NameTable.get?_eq_some_iff.mpr hs, findSome?_find?]
        simp only [Option.bind_some, Option.bind_map, Function.comp_def, ruleTo?,
          Build.Scope.ruleTo?, h.mem_wearers_iff]

theorem get?_rules (d : Document) (main : String) :
    NameTable.get? d.template.rules main =
      (d.nodes.get? main).map fun entry => d.nodeTable (main, entry) :=
  NameTable.get?_ofList_map d.nodes _ main

theorem rule?_template (h : d.Clean) (main subject edge : String) :
    d.template.rule? main subject edge = d.resolved? main subject edge := by
  unfold Template.rule? RuleTable.get? resolved? declared? inherited?
  rw [get?_rules]
  cases hn : d.nodes.get? main with
  | none => rfl
  | some entry =>
    have he := NameTable.get?_eq_some_iff.mp hn
    simp only [Option.map_some, Option.bind_some]
    have hlinked : d.scope.linked? main subject edge = d.ruleOfLabel? main subject edge :=
      funext fun label => h.linked?_scope
    rw [h.get?_nodeTable he, hlinked]
    cases hc : (entry.connections.get? subject).bind (·.find? (·.edge = edge)) with
    | none => rfl
    | some c =>
      obtain ⟨cs, -, hfind⟩ := Option.bind_eq_some_iff.mp hc
      have hedge : c.edge = edge := by
        have hdecide := List.find?_some hfind
        exact of_decide_eq_true hdecide
      rw [Option.map_some, Option.some_or, hedge]

end Clean

theorem names_of_ruleOfLabel? {r : Rule} (h : d.ruleOfLabel? main subject edge label = some r) :
    r.main = main ∧ r.subject = subject ∧ r.edge = edge := by
  obtain ⟨entry, -, hs⟩ := Option.bind_eq_some_iff.mp h
  obtain ⟨s, -, hc⟩ := List.exists_of_findSome?_eq_some hs
  obtain ⟨c, -, hr⟩ := List.exists_of_findSome?_eq_some hc
  split at hr
  · obtain rfl := Option.some.inj hr
    exact ⟨rfl, rfl, rfl⟩
  · exact nomatch hr

theorem names_of_resolved? {r : Rule} (h : d.resolved? main subject edge = some r) :
    r.main = main ∧ r.subject = subject ∧ r.edge = edge := by
  unfold resolved? at h
  split at h
  · obtain rfl := Option.some.inj h
    exact ⟨rfl, rfl, rfl⟩
  · obtain ⟨entry, -, hl⟩ := Option.bind_eq_some_iff.mp h
    obtain ⟨label, -, hr⟩ := List.exists_of_findSome?_eq_some hl
    exact names_of_ruleOfLabel? hr

theorem Clean.placed (h : d.Clean) : d.template.rules.Placed := by
  intro main subject edge r hr
  exact names_of_resolved? ((h.rule?_template main subject edge).symm.trans hr)

end Document

namespace Build

variable {d : Document} {t : Template}

theorem defects_of_result (h : (ofDocument d).result = .ok t) :
    d.defects = [] ∧ t = d.template := by
  rw [result_ofDocument] at h
  split at h
  · exact nomatch h
  · split at h
    · next hd => exact ⟨hd, (Except.ok.inj h).symm⟩
    · exact nomatch h

theorem clean_of_result (h : (ofDocument d).result = .ok t) : d.Clean ∧ t = d.template :=
  (defects_of_result h).imp_left Document.clean_of_defects

/-- The rules of a template are those that its document resolves to, and each is listed once. -/
theorem rules_of_document (h : (ofDocument d).result = .ok t) :
    (∀ main subject edge, t.rule? main subject edge = d.resolved? main subject edge) ∧
      t.allRules.Nodup ∧
      ∀ r, r ∈ t.allRules ↔ d.resolved? r.main r.subject r.edge = some r := by
  obtain ⟨hd, rfl⟩ := clean_of_result h
  refine ⟨hd.rule?_template, hd.placed.nodup_toList, fun r => ?_⟩
  rw [← hd.rule?_template]
  exact hd.placed.mem_toList_iff

/-- Two labels that compete for the links of the node `m`, and a connection of its own. -/
def competing : Document where
  labels := .ofList [("a", ⟨.empty, .ofList [("b", [⟨"e", 0, 1⟩])]⟩),
    ("b", ⟨.empty, .ofList [("b", [⟨"e", 2, -1⟩, ⟨"f", 0, 5⟩])]⟩)]
  nodes := .ofList [("m", ⟨["a", "b"], .empty, .ofList [("s", [⟨"f", 1, 1⟩])]⟩),
    ("s", ⟨["b"], .empty, .empty⟩)]
  edges := .ofList [("e", ⟨.empty⟩), ("f", ⟨.empty⟩)]

theorem rules_of_competing :
    (ofDocument competing).result = .ok competing.template ∧
      competing.template.rule? "m" "s" "e" = some ⟨"m", "s", "e", 0, 1, some "a"⟩ ∧
      competing.template.rule? "m" "s" "f" = some ⟨"m", "s", "f", 1, 1, none⟩ ∧
      competing.template.rule? "m" "m" "f" = some ⟨"m", "m", "f", 0, 5, some "b"⟩ ∧
      ⟨"s", "m", "e", 2, -1, some "b"⟩ ∈ competing.template.allRules := by
  have hr : (ofDocument competing).result = .ok competing.template := by
    have hf : competing.fault? = none := by decide
    have hd : competing.defects = [] := by decide
    rw [result_ofDocument, hf]
    exact if_pos hd
  obtain ⟨hrule, -, hmem⟩ := rules_of_document hr
  refine ⟨hr, ?_, ?_, ?_, (hmem _).mpr ?_⟩
  · exact (hrule "m" "s" "e").trans (by decide)
  · exact (hrule "m" "s" "f").trans (by decide)
  · exact (hrule "m" "m" "f").trans (by decide)
  · decide

end Build

end GraphTemplate
