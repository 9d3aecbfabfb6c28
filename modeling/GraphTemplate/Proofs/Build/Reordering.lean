import GraphTemplate.Proofs.Template.WellFormed
import Mathlib.Data.List.Perm.Basic

/-! The order of entries. A build asks of a table only what its names stand for, so documents that
list the same edges, labels, nodes and properties in different orders have equal templates or the
same defects. -/
namespace GraphTemplate

namespace NameTable

variable {α β : Type} {R : α → α → Prop} {S : β → β → Prop} {t t' : NameTable α}

/-- Tables of the same names, in any order, that stand for related things. -/
def Reordered (R : α → α → Prop) (t t' : NameTable α) : Prop :=
  ∀ name, Option.Rel R (t.get? name) (t'.get? name)

theorem rel_of_eq {o o' : Option α} (hR : ∀ a, R a a) (h : o = o') : Option.Rel R o o' := by
  subst h
  cases o with
  | none => exact .none
  | some a => exact .some (hR a)

theorem eq_of_rel {o o' : Option α} (h : Option.Rel Eq o o') : o = o' := by
  cases h with
  | none => rfl
  | some h => rw [h]

theorem rel_map {o o' : Option α} {f g : α → β} (h : Option.Rel R o o')
    (hf : ∀ a a', R a a' → S (f a) (g a')) : Option.Rel S (o.map f) (o'.map g) := by
  cases h with
  | none => exact .none
  | some h => exact .some (hf _ _ h)

namespace Reordered

theorem get?_eq (h : Reordered Eq t t') (name : String) : t.get? name = t'.get? name :=
  eq_of_rel (h name)

theorem mem_names (h : Reordered R t t') {name : String} : name ∈ t.names ↔ name ∈ t'.names := by
  rw [mem_names_iff, mem_names_iff]
  have hn := h name
  generalize t.get? name = o, t'.get? name = o' at hn
  cases hn <;> simp

/-- What holds of all entries of one table holds of those of the other. -/
theorem forall_iff (h : Reordered R t t') {P P' : String × α → Prop}
    (hP : ∀ name a a', R a a' → (P (name, a) ↔ P' (name, a'))) :
    (∀ e ∈ t.entries, P e) ↔ ∀ e ∈ t'.entries, P' e := by
  have hforall (t : NameTable α) (Q : String × α → Prop) :
      (∀ e ∈ t.entries, Q e) ↔ ∀ name a, t.get? name = some a → Q (name, a) := by
    simp only [get?_eq_some_iff, Prod.forall]
  rw [hforall, hforall]
  refine forall_congr' fun name => ?_
  have hn := h name
  generalize t.get? name = o, t'.get? name = o' at hn
  cases hn with
  | none => simp
  | some ha => simpa using hP name _ _ ha

theorem perm_names (h : Reordered R t t') : t.names.Perm t'.names :=
  (List.perm_ext_iff_of_nodup t.names_nodup t'.names_nodup).mpr fun _ => h.mem_names

end Reordered

/-- Parts gathered from all entries, looked up under their names. -/
theorem flatMap_entries (t : NameTable α) (f : String × α → List β) :
    t.entries.flatMap f =
      t.names.flatMap fun name => (t.get? name).elim [] fun a => f (name, a) := by
  rw [names, List.flatMap_map]
  refine List.flatMap_congr fun e he => ?_
  rw [get?_eq_some_iff.mpr he]
  rfl

theorem Reordered.perm_flatMap (h : Reordered R t t') {f f' : String × α → List β}
    (hf : ∀ name a a', R a a' → (f (name, a)).Perm (f' (name, a'))) :
    (t.entries.flatMap f).Perm (t'.entries.flatMap f') := by
  rw [flatMap_entries, flatMap_entries]
  refine (h.perm_names.flatMap_right _).trans (List.Perm.flatMap_left _ fun name _ => ?_)
  have hn := h name
  generalize t.get? name = o, t'.get? name = o' at hn
  cases hn with
  | none => exact List.Perm.refl _
  | some ha => exact hf name _ _ ha

theorem reordered_of_perm (hR : ∀ a, R a a) (h : t.entries.Perm t'.entries) : Reordered R t t' := by
  refine fun name => rel_of_eq hR (Option.ext fun a => ?_)
  rw [get?_eq_some_iff, get?_eq_some_iff, h.mem_iff]

theorem reordered_refl (t : NameTable α) : Reordered Eq t t :=
  reordered_of_perm (fun _ => rfl) (List.Perm.refl _)

/-- To stand for the same things is to have the same entries. -/
theorem reordered_eq_iff : Reordered Eq t t' ↔ t.entries.Perm t'.entries := by
  constructor
  · intro h
    have hperm : (t.entries.flatMap fun e => [e]).Perm (t'.entries.flatMap fun e => [e]) :=
      h.perm_flatMap fun name a a' ha => by rw [ha]
    rwa [List.flatMap_singleton', List.flatMap_singleton'] at hperm
  · exact reordered_of_perm fun _ => rfl

end NameTable

namespace LinkTable

variable {α β : Type} {t t' : LinkTable α} {subject edge : String}

def Filled (t : LinkTable α) : Prop :=
  ∀ ⦃subject edges⦄, NameTable.get? t subject = some edges → ∃ edge a, edges.get? edge = some a

theorem filled_empty : Filled (NameTable.empty : LinkTable α) := nofun

theorem Filled.insert (h : t.Filled) (subject edge : String) (a : α) :
    (t.insert subject edge a).Filled := by
  intro s edges hs
  rw [LinkTable.insert, NameTable.get?_insert] at hs
  split at hs
  · obtain rfl := Option.some.inj hs
    exact ⟨edge, a, by rw [NameTable.get?_insert, if_pos rfl]⟩
  · exact h hs

theorem Filled.insertMissing (h : t.Filled) (subject edge : String) (a : α) :
    (t.insertMissing subject edge a).Filled := by
  unfold LinkTable.insertMissing
  split
  · exact h
  · exact h.insert subject edge a

theorem Filled.foldl {f : LinkTable α → β → LinkTable α} (hf : ∀ t b, t.Filled → (f t b).Filled)
    (h : t.Filled) (bs : List β) : (bs.foldl f t).Filled := by
  induction bs generalizing t with
  | nil => exact h
  | cons b bs ih => exact ih (hf t b h)

/-- Filled tables with the same links have the same subjects and, under each, the same edges. -/
theorem Filled.reordered (h : t.Filled) (h' : t'.Filled)
    (heq : ∀ subject edge, t.get? subject edge = t'.get? subject edge) :
    NameTable.Reordered (NameTable.Reordered Eq) t t' := by
  intro subject
  have hs (edge : String) : (NameTable.get? t subject).bind (·.get? edge) =
      (NameTable.get? t' subject).bind (·.get? edge) := heq subject edge
  cases ht : NameTable.get? t subject with
  | none =>
    cases ht' : NameTable.get? t' subject with
    | none => exact .none
    | some edges' =>
      obtain ⟨edge, a, ha⟩ := h' ht'
      have hn := hs edge
      rw [ht, ht', Option.bind_some, ha] at hn
      exact nomatch hn
  | some edges =>
    cases ht' : NameTable.get? t' subject with
    | none =>
      obtain ⟨edge, a, ha⟩ := h ht
      have hn := hs edge
      rw [ht, ht', Option.bind_some, ha] at hn
      exact nomatch hn
    | some edges' =>
      refine .some fun edge => NameTable.rel_of_eq (fun _ => rfl) ?_
      have hn := hs edge
      rwa [ht, ht'] at hn

end LinkTable

namespace Build

variable {α : Type} {t : LinkTable α}

theorem Linking.filled_enterAll (l : Linking α) (d : Document) (h : t.Filled)
    (subjects : List (String × List ConnectionEntry)) : (l.enterAll d t subjects).Filled :=
  h.foldl (fun _ s ht => ht.foldl (fun _ c ht => ht.insert s.1 c.edge _) _) subjects

theorem Scope.filled_expand (s : Scope) (main : String) (labels : List String) :
    (s.expand main labels).Filled := by
  refine LinkTable.filled_empty.foldl (fun t label ht => ?_) labels
  unfold Scope.expandLabel
  split
  · exact ht
  · next links _ =>
    exact ht.foldl (fun _ link ht => ht.foldl (fun _ edge ht =>
      ht.foldl (fun _ subject ht => ht.insertMissing subject edge.1 _) _) _) _

end Build

def EdgeEntry.Reordered (e e' : EdgeEntry) : Prop :=
  NameTable.Reordered Eq e.properties e'.properties

/-- The order of connections counts: of two for one link the first stays. -/
structure LabelEntry.Reordered (e e' : LabelEntry) : Prop where
  properties : NameTable.Reordered Eq e.properties e'.properties
  connections : e.connections = e'.connections

structure NodeEntry.Reordered (e e' : NodeEntry) : Prop where
  labels : e.labels = e'.labels
  properties : NameTable.Reordered Eq e.properties e'.properties
  connections : e.connections = e'.connections

/-- Documents that list the same edges, labels, nodes and properties, in any order. -/
structure Document.Reordered (d d' : Document) : Prop where
  labels : NameTable.Reordered LabelEntry.Reordered d.labels d'.labels
  nodes : NameTable.Reordered NodeEntry.Reordered d.nodes d'.nodes
  edges : NameTable.Reordered EdgeEntry.Reordered d.edges d'.edges

namespace PropertyEntries

variable {entries entries' : PropertyEntries}

theorem perm_defects (h : NameTable.Reordered Eq entries entries') (owner : List String) :
    (defects owner entries).Perm (defects owner entries') := by
  refine h.perm_flatMap fun key p p' hp => ?_
  rw [hp]

theorem fault?_eq_none_of_reordered (h : NameTable.Reordered Eq entries entries') :
    fault? entries = none ↔ fault? entries' = none := by
  unfold fault?
  rw [List.findSome?_eq_none_iff, List.findSome?_eq_none_iff]
  exact h.forall_iff fun key p p' hp => by rw [hp]

theorem get?_table (entries : PropertyEntries) (key : String) :
    entries.table.get? key = (NameTable.get? entries key).map (·.property key) :=
  NameTable.get?_ofList_map entries _ key

theorem reordered_table (h : NameTable.Reordered Eq entries entries') :
    NameTable.Reordered Eq entries.table entries'.table := by
  intro key
  rw [get?_table, get?_table]
  exact NameTable.rel_map (h key) fun p p' hp => by rw [hp]

end PropertyEntries

namespace Document.Reordered

variable {d d' : Document} {owner : Owner} {main subject edge label : String}

theorem mem_subjects (h : d.Reordered d') :
    subject ∈ d.subjects owner ↔ subject ∈ d'.subjects owner := by
  cases owner with
  | node => exact h.nodes.mem_names
  | label => exact h.labels.mem_names

theorem fits (h : d.Reordered d') (c : ConnectionEntry) :
    d.Fits owner subject c ↔ d'.Fits owner subject c := by
  unfold Fits
  rw [h.mem_subjects, h.edges.mem_names]

theorem isTaken (h : d.Reordered d') (edge : String) (earlier : List ConnectionEntry) :
    d.isTaken owner subject edge earlier = d'.isTaken owner subject edge earlier := by
  induction earlier generalizing edge with
  | nil => rfl
  | cons c earlier ih =>
    rw [Document.isTaken, Document.isTaken, ih, ih, decide_eq_decide.mpr (h.fits c)]

theorem entryDefects (h : d.Reordered d') (place : List String) (earlier : List ConnectionEntry)
    (c : ConnectionEntry) :
    d.entryDefects owner main subject place earlier c =
      d'.entryDefects owner main subject place earlier c := by
  unfold Document.entryDefects
  simp only [h.mem_subjects, h.edges.mem_names, h.isTaken]

theorem listDefects (h : d.Reordered d') (earlier cs : List ConnectionEntry) :
    d.listDefects owner main subject earlier cs = d'.listDefects owner main subject earlier cs := by
  induction cs generalizing earlier with
  | nil => rfl
  | cons c cs ih => rw [Document.listDefects, Document.listDefects, h.entryDefects, ih]

theorem connectionDefects (h : d.Reordered d') (owner : Owner) (main : String)
    (connections : List (String × List ConnectionEntry)) :
    d.connectionDefects owner main connections = d'.connectionDefects owner main connections :=
  List.flatMap_congr fun _ _ => h.listDefects [] _

theorem labelDefects (h : d.Reordered d') (node : String) (labels : List String) (index : Nat) :
    d.labelDefects node labels index = d'.labelDefects node labels index := by
  unfold Document.labelDefects
  simp only [h.labels.mem_names]

/-- No defect depends on the order, only the place that it has among the others. -/
theorem perm_defects (h : d.Reordered d') : d.defects.Perm d'.defects := by
  unfold Document.defects
  refine .append (.append (.append (.append ?_ ?_) ?_) ?_) ?_
  · exact h.edges.perm_flatMap fun name e e' he => PropertyEntries.perm_defects he _
  · exact h.labels.perm_flatMap fun name e e' he => PropertyEntries.perm_defects he.properties _
  · refine h.labels.perm_flatMap fun name e e' he => ?_
    rw [h.connectionDefects, he.connections]
  · refine h.nodes.perm_flatMap fun name e e' he => ?_
    rw [h.labelDefects, he.labels]
    exact (PropertyEntries.perm_defects he.properties _).append_right _
  · refine h.nodes.perm_flatMap fun name e e' he => ?_
    rw [h.connectionDefects, he.connections]

theorem fault?_eq_none (h : d.Reordered d') : d.fault? = none ↔ d'.fault? = none := by
  unfold fault?
  simp only [Option.or_eq_none_iff, List.findSome?_eq_none_iff]
  refine and_congr (and_congr ?_ ?_) ?_
  · exact h.edges.forall_iff fun name e e' he => PropertyEntries.fault?_eq_none_of_reordered he
  · exact h.labels.forall_iff fun name e e' he =>
      PropertyEntries.fault?_eq_none_of_reordered he.properties
  · exact h.nodes.forall_iff fun name e e' he =>
      PropertyEntries.fault?_eq_none_of_reordered he.properties

theorem wears (h : d.Reordered d') (node label : String) :
    d.Wears node label ↔ d'.Wears node label := by
  unfold Wears
  have hn := h.nodes node
  generalize d.nodes.get? node = o, d'.nodes.get? node = o' at hn
  cases hn with
  | none => simp
  | some he => simp [he.labels]

theorem ruleOfLabel? (h : d.Reordered d') :
    d.ruleOfLabel? main subject edge = d'.ruleOfLabel? main subject edge := by
  funext label
  unfold Document.ruleOfLabel?
  simp only [h.wears]
  have hl := h.labels label
  generalize d.labels.get? label = o, d'.labels.get? label = o' at hl
  cases hl with
  | none => rfl
  | some he => simp only [Option.bind_some, he.connections]

/-- Of the labels with a connection for a link the one that a node lists first counts, wherever the
document has its entry. -/
theorem resolved? (h : d.Reordered d') :
    d.resolved? main subject edge = d'.resolved? main subject edge := by
  unfold Document.resolved? declared? inherited?
  rw [h.ruleOfLabel?]
  have hn := h.nodes main
  generalize d.nodes.get? main = o, d'.nodes.get? main = o' at hn
  cases hn with
  | none => rfl
  | some he => simp only [Option.bind_some, he.labels, he.connections]

end Document.Reordered

structure EntityType.Same (t t' : EntityType) : Prop where
  name : t.name = t'.name
  properties : NameTable.Reordered Eq t.properties t'.properties

structure Template.Same (t t' : Template) : Prop where
  nodes : NameTable.Reordered EntityType.Same t.nodes t'.nodes
  edges : NameTable.Reordered EntityType.Same t.edges t'.edges
  rules : NameTable.Reordered (NameTable.Reordered (NameTable.Reordered Eq)) t.rules t'.rules

namespace Document.Reordered

variable {d d' : Document}

theorem wornLabels (h : d.Reordered d') (e : NodeEntry) : d.wornLabels e = d'.wornLabels e := by
  unfold Document.wornLabels
  simp only [List.contains_eq_mem, h.labels.mem_names]

theorem get?_labelProperties (h : d.Reordered d') (label key : String) :
    (d.labelProperties.get? label).bind (·.get? key) =
      (d'.labelProperties.get? label).bind (·.get? key) := by
  unfold labelProperties
  rw [NameTable.get?_ofList_map, NameTable.get?_ofList_map]
  have hl := h.labels label
  generalize d.labels.get? label = o, d'.labels.get? label = o' at hl
  cases hl with
  | none => rfl
  | some he => exact (PropertyEntries.reordered_table he.properties).get?_eq key

theorem same_nodes (h : d.Reordered d') :
    NameTable.Reordered EntityType.Same d.template.nodes d'.template.nodes := by
  intro name
  rw [get?_nodes, get?_nodes]
  refine NameTable.rel_map (h.nodes name) fun e e' he => ⟨rfl, fun key => ?_⟩
  have hworn : d.wornLabels e = d'.wornLabels e' := by
    rw [h.wornLabels]
    unfold Document.wornLabels
    rw [he.labels]
  refine NameTable.rel_of_eq (fun _ => rfl) ?_
  rw [Build.get?_nodeProperties, Build.get?_nodeProperties]
  simp only [hworn, h.get?_labelProperties,
    (PropertyEntries.reordered_table he.properties).get?_eq]

theorem same_edges (h : d.Reordered d') :
    NameTable.Reordered EntityType.Same d.template.edges d'.template.edges := by
  intro name
  rw [get?_edges, get?_edges]
  exact NameTable.rel_map (h.edges name) fun e e' he =>
    ⟨rfl, PropertyEntries.reordered_table he⟩

theorem same_rules (h : d.Reordered d') (hd : d.Clean) (hd' : d'.Clean) :
    NameTable.Reordered (NameTable.Reordered (NameTable.Reordered Eq)) d.template.rules
      d'.template.rules := by
  have hrule (main subject edge : String) : d.template.rule? main subject edge =
      d'.template.rule? main subject edge := by
    rw [hd.rule?_template, hd'.rule?_template, h.resolved?]
  intro main
  have hmain := hrule main
  unfold Template.rule? RuleTable.get? at hmain
  simp only [Clean.get?_rules] at hmain ⊢
  have hn := h.nodes main
  generalize d.nodes.get? main = o, d'.nodes.get? main = o' at hn hmain
  cases hn with
  | none => exact .none
  | some he =>
    refine .some (LinkTable.Filled.reordered ?_ ?_ hmain)
    · exact Build.Linking.filled_enterAll _ d (Build.Scope.filled_expand _ _ _) _
    · exact Build.Linking.filled_enterAll _ d' (Build.Scope.filled_expand _ _ _) _

theorem same_template (h : d.Reordered d') (hd : d.Clean) (hd' : d'.Clean) :
    d.template.Same d'.template :=
  ⟨h.same_nodes, h.same_edges, h.same_rules hd hd'⟩

end Document.Reordered

namespace Build

variable {d d' : Document}

/-- Documents that list the same entries in different orders have equal templates, or the same lines
of defects, or a fault each. -/
theorem result_of_reordered (h : d.Reordered d') :
    (∃ t t', (ofDocument d).result = .ok t ∧ (ofDocument d').result = .ok t' ∧ t.Same t') ∨
      (∃ ls, (ofDocument d).result = .error (.defective ls) ∧
        (ofDocument d').result = .error (.defective ls)) ∨
      ∃ f f', (ofDocument d).result = .error (.fault f) ∧
        (ofDocument d').result = .error (.fault f') := by
  rw [result_ofDocument, result_ofDocument]
  have hperm := h.perm_defects
  cases hf : d.fault? with
  | some f =>
    obtain ⟨f', hf'⟩ : ∃ f', d'.fault? = some f' := by
      rw [← Option.ne_none_iff_exists', Ne, ← h.fault?_eq_none, hf]
      exact nofun
    rw [hf']
    exact .inr (.inr ⟨f, f', rfl, rfl⟩)
  | none =>
    rw [h.fault?_eq_none.mp hf]
    dsimp only
    by_cases hd : d.defects = []
    · have hd' : d'.defects = [] := (hd ▸ hperm).nil_eq.symm
      rw [if_pos hd, if_pos hd']
      exact .inl ⟨_, _, rfl, rfl, h.same_template (Document.clean_of_defects hd)
        (Document.clean_of_defects hd')⟩
    · have hd' : d'.defects ≠ [] := fun he => hd (he ▸ hperm).eq_nil
      rw [if_neg hd, if_neg hd', lines_congr hperm]
      exact .inr (.inl ⟨_, rfl, rfl⟩)

def dated : Document :=
  { competing with
    edges := .ofList [("e", ⟨.empty⟩), ("f", ⟨.ofList [("since", ⟨"datetime", ⟨[], [], [], []⟩⟩),
      ("note", ⟨"string", ⟨[], [], [], []⟩⟩)]⟩)] }

def datedBackwards : Document where
  labels := .ofList competing.labels.entries.reverse
  nodes := .ofList competing.nodes.entries.reverse
  edges := .ofList [("f", ⟨.ofList [("note", ⟨"string", ⟨[], [], [], []⟩⟩),
    ("since", ⟨"datetime", ⟨[], [], [], []⟩⟩)]⟩), ("e", ⟨.empty⟩)]

theorem reordered_dated : dated.Reordered datedBackwards where
  labels := NameTable.reordered_of_perm (fun _ => ⟨NameTable.reordered_refl _, rfl⟩)
    (List.Perm.swap _ _ [])
  nodes := NameTable.reordered_of_perm (fun _ => ⟨rfl, NameTable.reordered_refl _, rfl⟩)
    (List.Perm.swap _ _ [])
  edges := by
    intro name
    by_cases he : name = "e"
    · subst he
      exact .some fun _ => .none
    · by_cases hf : name = "f"
      · subst hf
        exact .some (NameTable.reordered_eq_iff.mpr (List.Perm.swap _ _ []))
      · simp [dated, datedBackwards, NameTable.ofList, he, hf]

theorem result_of_dated :
    ∃ t t', (ofDocument dated).result = .ok t ∧ (ofDocument datedBackwards).result = .ok t' ∧
      t.Same t' ∧ t.edges.names = ["e", "f"] ∧ t'.edges.names = ["f", "e"] := by
  have hr : (ofDocument dated).result = .ok dated.template :=
    result_of_no_defects (by decide) (by decide)
  obtain ⟨t, t', ht, ht', hsame⟩ | ⟨ls, hls, -⟩ | ⟨f, -, hf, -⟩ :=
    result_of_reordered reordered_dated
  · refine ⟨t, t', ht, ht', hsame, ?_, ?_⟩
    · rw [(defects_of_result ht).2, Document.names_edges]
      rfl
    · rw [(defects_of_result ht').2, Document.names_edges]
      rfl
  · exact nomatch hr.symm.trans hls
  · exact nomatch hr.symm.trans hf

end Build

end GraphTemplate
