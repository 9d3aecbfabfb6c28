import GraphTemplate.Proofs.Build.Pool
import GraphTemplate.Proofs.Restriction.Contradiction

/-! The warnings of a build. They are those of the properties that are built, in the order of the
document, and each tells of one pattern and the first value that it rejects. Defects take none of
them away; a fault leaves the properties after it unbuilt. -/
namespace GraphTemplate

namespace Findings

def warnings (f : Findings) : List LogLine := f.log.filter (·.level = .warning)

theorem warnings_append (f f' : Findings) : (f ++ f').warnings = f.warnings ++ f'.warnings :=
  List.filter_append _ _

theorem warnings_all (fs : List Findings) : (all fs).warnings = (fs.map warnings).flatten := by
  induction fs with
  | nil => rfl
  | cons f fs ih => rw [all, warnings_append, ih, List.map_cons, List.flatten_cons]

end Findings

structure Gathering.TellsBy (gather : Gathering)
    (R : List (List LogLine) → List LogLine → Prop) : Prop where
  nothing : R [] []
  perm : ∀ {parts all}, R parts all → all.Perm parts.flatten
  told : ∀ name found, R (found.map Findings.warnings) (gather name found).warnings

theorem Gathering.tellsBy_all : TellsBy (fun _ => .all) fun parts all => all = parts.flatten where
  nothing := rfl
  perm h := .of_eq h
  told _ := Findings.warnings_all

theorem Schedule.tellsBy {workers : Nat} (s : Schedule workers) : s.gather.TellsBy Interleaved where
  nothing := .nil
  perm h := h.perm
  told name found := by
    have h := (s.interleaved name found).2.filter fun line => line.level = .warning
    rwa [List.map_map] at h

namespace Assembly

variable {α β γ : Type} {m : Assembly α} {a : α} {δ : Findings} {ws ws' : List LogLine}

def Warns (m : Assembly α) (ws : List LogLine) : Prop :=
  ∀ f : Findings, (m.run.run f).2.warnings = f.warnings ++ ws

theorem Comes.warns (h : Comes m none a δ) : Warns m δ.warnings := by
  intro f
  have hf : m.run.run f = (.ok a, f ++ δ) := h f
  rw [hf, Findings.warnings_append]

theorem warns_throw (e : Fault) : Warns (throw e : Assembly α) [] :=
  fun f => (List.append_nil f.warnings).symm

theorem Comes.warns_bind_of_fault {e : Fault} {k : α → Assembly β} (h : Comes m (some e) a δ)
    (hm : Warns m ws) : Warns (m >>= k) ws := by
  intro f
  obtain ⟨f', hf'⟩ := h f
  have hws := hm f
  rw [hf'] at hws
  rw [run_bind, hf']
  exact hws

/-- What follows a part is heard of only if the part meets no fault. -/
theorem Warns.bind {o : Option Fault} {k : α → Assembly β} {all : List LogLine} (hm : Warns m ws)
    (h : Comes m o a δ) (hk : Warns (k a) ws') (hall : (ws ++ if o.isSome then [] else ws') = all) :
    Warns (m >>= k) all := by
  subst hall
  cases o with
  | some e =>
    rw [Option.isSome_some, if_pos rfl, List.append_nil]
    exact h.warns_bind_of_fault hm
  | none =>
    intro f
    have hf : m.run.run f = (.ok a, f ++ δ) := h f
    have hws := hm f
    rw [hf] at hws
    rw [run_bind, hf, Option.isSome_none, if_neg Bool.false_ne_true, ← List.append_assoc, ← hws]
    exact hk _

theorem Comes.warns_bind {k : α → Assembly β} (h : Comes m none a δ) (hk : Warns (k a) ws) :
    Warns (m >>= k) (δ.warnings ++ ws) :=
  h.warns.bind h hk rfl

/-- What follows a part without a word of its own. -/
theorem Warns.bind_silent {k : α → Assembly β} (hm : Warns m ws) (hk : ∀ a, Warns (k a) []) :
    Warns (m >>= k) ws := by
  intro f
  have hws := hm f
  rw [run_bind]
  rcases hrun : m.run.run f with ⟨e | a, f'⟩
  · rw [hrun] at hws
    exact hws
  · rw [hrun] at hws
    rw [hk a f', List.append_nil]
    exact hws

theorem warns_pure (a : α) : Warns (pure a : Assembly α) [] := (comes_pure a).warns

theorem Warns.map {g : α → β} (h : Warns m ws) : Warns (m >>= fun a => pure (g a)) ws :=
  h.bind_silent fun a => warns_pure (g a)

theorem warns_add (found : Findings) : Warns (add found) found.warnings := (comes_add found).warns

theorem warns_lift (r : Except Fault α) : Warns (lift r) [] :=
  fun f => (List.append_nil f.warnings).symm

/-- What each task of a stage says is said by the stage, also if the task ends with a fault. -/
theorem warns_stage {gather : Gathering} {R : List (List LogLine) → List LogLine → Prop}
    (hR : gather.TellsBy R) {task : String → α → Assembly β} {said : String × α → List LogLine}
    {entries : List (String × α)} (name : String)
    (h : ∀ e ∈ entries, Warns (task e.1 e.2) (said e)) :
    ∃ ws, Warns (stage gather name task entries) ws ∧ R (entries.map said) ws := by
  have hsaid : (entries.map fun e => (e.1, (task e.1 e.2).alone)).map
      (fun r => r.2.2.warnings) = entries.map said := by
    rw [List.map_map]
    exact List.map_congr_left fun e he => h e he .none
  have htold := hR.told name
    ((entries.map fun e => (e.1, (task e.1 e.2).alone)).map fun r => r.2.2)
  rw [List.map_map, Function.comp_def, hsaid] at htold
  exact ⟨_, (comes_say _ _).warns_bind ((warns_add _).bind (comes_add _) (warns_lift _)
    (List.append_nil _)), htold⟩

/-- A stage in which no task says anything. -/
theorem warns_stage_silent {gather : Gathering} {R : List (List LogLine) → List LogLine → Prop}
    (hR : gather.TellsBy R) {task : String → α → Assembly β} {entries : List (String × α)}
    (name : String) (h : ∀ e ∈ entries, Warns (task e.1 e.2) []) :
    Warns (stage gather name task entries) [] := by
  obtain ⟨ws, hws, htold⟩ := warns_stage hR name h
  have hperm := hR.perm htold
  rw [List.flatten_eq_nil_iff.mpr fun part hpart => by
    obtain ⟨-, -, rfl⟩ := List.mem_map.mp hpart
    rfl] at hperm
  rwa [hperm.eq_nil] at hws

end Assembly

def Build.contradictions (place : List String) (rs : List Restriction) : List LogLine :=
  (rs.filter Restriction.isRegexp).filterMap fun r => (r.rejected? rs).map fun found =>
    ⟨.warning, contradictionMessage place r found⟩

/-- The warnings of a property, on its values before those on its keys. -/
def Property.contradictions (place : List String) (p : Property) : List LogLine :=
  Build.contradictions place p.values ++ Build.contradictions place p.keys

/-- The properties of an owner that are built, with their places: those before the first fault. -/
def Build.builtProperties (owner : List String) :
    List (String × PropertyEntry) → List (List String × Property)
  | [] => []
  | (key, entry) :: rest =>
    match ((Build.property owner key entry).run.run .none).1 with
    | .ok p => (owner ++ ["properties", key], p) :: Build.builtProperties owner rest
    | .error _ => []

theorem PropertyEntry.warnings_eq (place : List String) (rs : List Restriction) :
    warnings place rs rs = Build.contradictions place rs := by
  rw [warnings, Build.contradictions, List.filterMap_filter]
  apply List.filterMap_congr
  intro r _
  cases hr : r.isRegexp with
  | true => rfl
  | false => rw [Restriction.rejected?_of_not_isRegexp hr]; rfl

theorem PropertyEntry.warnings_findings (p : PropertyEntry) (key : String) (place : List String) :
    (p.findings place).warnings = (p.property key).contradictions place := by
  have hlog : (p.findings place).log = (p.property key).contradictions place := by
    rw [Property.contradictions, ← warnings_eq, ← warnings_eq]
    rfl
  rw [Findings.warnings, hlog, List.filter_eq_self]
  intro line hline
  have hlevel {rs : List Restriction} (h : line ∈ Build.contradictions place rs) :
      line.level = .warning := by
    obtain ⟨r, -, hr⟩ := List.mem_filterMap.mp h
    obtain ⟨found, -, rfl⟩ := Option.map_eq_some_iff.mp hr
    rfl
  exact decide_eq_true ((List.mem_append.mp hline).elim hlevel hlevel)

namespace Build

open Assembly

theorem warns_restrictionsOfKind (place : List String) (d : Descriptor) (kind : RestrictionKind)
    (index : Nat) (raws : List String) : Warns (restrictionsOfKind place d kind index raws) [] := by
  induction raws generalizing index with
  | nil => exact warns_pure []
  | cons raw raws ih =>
    unfold restrictionsOfKind
    cases Restriction.build d kind raw with
    | ok r => exact (ih (index + 1)).map
    | error e =>
      cases e with
      | fault f => exact warns_throw f
      | invalid e => exact (comes_report _ _).warns_bind (ih (index + 1))

theorem warns_restrictions (place : List String) (d : Descriptor) (texts : RestrictionTexts)
    (kinds : List RestrictionKind) : Warns (restrictions place d texts kinds) [] := by
  induction kinds with
  | nil => exact warns_pure []
  | cons kind kinds ih =>
    unfold restrictions
    exact (warns_restrictionsOfKind place d kind 1 _).bind_silent fun _ => ih.map

/-- Restrictions are read before any of them is compared with others. -/
theorem warns_property_of_fault {owner : List String} {key : String} {p : PropertyEntry} {e : Fault}
    (h : p.fault? = some e) : Warns (property owner key p) [] := by
  have hr := comes_restrictions (owner ++ ["properties", key]) p RestrictionKind.all
  rw [← PropertyEntry.fault?, h] at hr
  exact (comes_descriptor _ p).warns_bind (hr.warns_bind_of_fault (warns_restrictions _ _ _ _))

theorem builtProperties_cons (owner : List String) (e : String × PropertyEntry)
    (es : List (String × PropertyEntry)) :
    builtProperties owner (e :: es) = match e.2.fault? with
      | none => (owner ++ ["properties", e.1], e.2.property e.1) :: builtProperties owner es
      | some _ => [] := by
  have h := comes_property owner e.1 e.2 .none
  rw [builtProperties]
  cases hf : e.2.fault? with
  | none =>
    rw [hf] at h
    dsimp only at h
    rw [h]
  | some f =>
    rw [hf] at h
    obtain ⟨f', hf'⟩ := h
    rw [hf']

theorem builtProperties_eq {owner : List String} {es : List (String × PropertyEntry)}
    (h : ∀ e ∈ es, e.2.fault? = none) :
    builtProperties owner es =
      es.map fun e => (owner ++ ["properties", e.1], e.2.property e.1) := by
  induction es with
  | nil => rfl
  | cons e es ih =>
    obtain ⟨he, hes⟩ := List.forall_mem_cons.mp h
    rw [builtProperties_cons, he, List.map_cons, ih hes]

theorem warns_propertyList (owner : List String) (entries : List (String × PropertyEntry)) :
    Warns (propertyList owner entries)
      ((builtProperties owner entries).flatMap fun b => b.2.contradictions b.1) := by
  induction entries with
  | nil => exact warns_pure []
  | cons e es ih =>
    have hc := comes_property owner e.1 e.2
    rw [builtProperties_cons]
    unfold propertyList
    cases hf : e.2.fault? with
    | none =>
      rw [hf] at hc
      rw [List.flatMap_cons, ← PropertyEntry.warnings_findings]
      exact hc.warns_bind ih.map
    | some f =>
      rw [hf] at hc
      exact hc.warns_bind_of_fault (warns_property_of_fault hf)

theorem warns_properties (owner : List String) (entries : PropertyEntries) :
    Warns (properties owner entries)
      ((builtProperties owner entries.entries).flatMap fun b => b.2.contradictions b.1) :=
  (warns_propertyList owner entries.entries).map

end Build

structure PlacedProperties where
  edges : List (List (List String × Property))
  labels : List (List (List String × Property))
  nodes : List (List (List String × Property))

def PlacedProperties.all (p : PlacedProperties) : List (List String × Property) :=
  (p.edges ++ p.labels ++ p.nodes).flatten

def Build.warned (placed : List (List String × Property)) : List LogLine :=
  placed.flatMap fun b => b.2.contradictions b.1

namespace Document

def sectionBuilt {α : Type} (name : String) (properties : α → PropertyEntries)
    (entries : List (String × α)) : List (List (List String × Property)) :=
  entries.map fun e => Build.builtProperties [name, e.1] (properties e.2).entries

/-- The properties of a document that are built. A fault in one entry keeps no other entry of the
section from its own, but no section is built after one with a fault. -/
def built (d : Document) : PlacedProperties where
  edges := sectionBuilt "edges" EdgeEntry.properties d.edges.entries
  labels :=
    if (d.edges.entries.findSome? fun e => e.2.properties.fault?).isSome then [] else
      sectionBuilt "labels" LabelEntry.properties d.labels.entries
  nodes :=
    if (d.edges.entries.findSome? fun e => e.2.properties.fault?).isSome ||
      (d.labels.entries.findSome? fun e => e.2.properties.fault?).isSome then [] else
      sectionBuilt "nodes" NodeEntry.properties d.nodes.entries

def sectionDeclared {α : Type} (name : String) (properties : α → PropertyEntries)
    (entries : List (String × α)) : List (List (List String × Property)) :=
  entries.map fun e => (properties e.2).entries.map fun p =>
    ([name, e.1, "properties", p.1], p.2.property p.1)

/-- All properties of a document, each as it is built if no fault comes before. -/
def declared (d : Document) : PlacedProperties where
  edges := sectionDeclared "edges" EdgeEntry.properties d.edges.entries
  labels := sectionDeclared "labels" LabelEntry.properties d.labels.entries
  nodes := sectionDeclared "nodes" NodeEntry.properties d.nodes.entries

theorem sectionBuilt_eq {α : Type} {name : String} {properties : α → PropertyEntries}
    {entries : List (String × α)}
    (h : (entries.findSome? fun e => (properties e.2).fault?) = none) :
    sectionBuilt name properties entries = sectionDeclared name properties entries := by
  apply List.map_congr_left
  intro e he
  have hp := List.findSome?_eq_none_iff.mp h e he
  exact Build.builtProperties_eq (List.findSome?_eq_none_iff.mp hp)

theorem built_eq {d : Document} (h : d.fault? = none) : d.built = d.declared := by
  unfold fault? at h
  rw [Option.or_eq_none_iff, Option.or_eq_none_iff] at h
  obtain ⟨⟨hedges, hlabels⟩, hnodes⟩ := h
  rw [built, hedges, hlabels, sectionBuilt_eq hedges, sectionBuilt_eq hlabels,
    sectionBuilt_eq hnodes]
  rfl

end Document

namespace Build

open Assembly

theorem warns_section {gather : Gathering} {R : List (List LogLine) → List LogLine → Prop}
    (hR : gather.TellsBy R) {α β : Type} {task : String → α → Assembly β} {name : String}
    {properties : α → PropertyEntries} {entries : List (String × α)}
    (h : ∀ e ∈ entries, Warns (task e.1 e.2)
      (warned (builtProperties [name, e.1] (properties e.2).entries))) :
    ∃ ws, Warns (stage gather name task entries) ws ∧
      R ((Document.sectionBuilt name properties entries).map warned) ws := by
  rw [Document.sectionBuilt, List.map_map]
  exact warns_stage hR name h

/-- The warnings of a build are those of its sections one after the other. -/
theorem warns_assemble {gather : Gathering} {R : List (List LogLine) → List LogLine → Prop}
    (hR : gather.TellsBy R) (d : Document) :
    ∃ edges labels nodes, Warns (assemble gather d) (edges ++ labels ++ nodes) ∧
      R (d.built.edges.map warned) edges ∧ R (d.built.labels.map warned) labels ∧
      R (d.built.nodes.map warned) nodes := by
  obtain ⟨edges, hedges, hre⟩ :
      ∃ ws, Warns (stage gather "edges" edgeType d.edges.entries) ws ∧ _ :=
    warns_section hR fun e _ => (warns_properties ["edges", e.1] e.2.properties).map
  obtain ⟨labels, hlabels, hrl⟩ :
      ∃ ws, Warns (stage gather "labels" labelProperties d.labels.entries) ws ∧ _ :=
    warns_section hR fun e _ => warns_properties ["labels", e.1] e.2.properties
  obtain ⟨nodes, hnodes, hrn⟩ :
      ∃ ws, Warns (stage gather "nodes" (bareNode d.labels.names) d.nodes.entries) ws ∧ _ :=
    warns_section hR fun e _ => (warns_properties ["nodes", e.1] e.2.properties).bind_silent
      fun _ => (comes_nodeLabels d e.1 e.2.labels 1).warns.map
  have hlinks : Warns (stage gather "label connections" (labelLinks d.edges.names d.labels.names)
      d.labels.entries) [] :=
    warns_stage_silent hR _ fun e _ => (comes_labelLinks d e).warns
  have hrules : Warns (stage gather "node connections" (fun name entry => d.scope.nodeLinks name
      (((NameTable.ofList d.bareNodes).get? name).map BareNode.labels |>.getD [])
      entry.connections) d.nodes.entries) [] := by
    apply warns_stage_silent hR
    intro e he
    rw [get?_nodeTable he]
    exact (comes_nodeLinks d e).warns
  refine ⟨edges, if (d.edges.entries.findSome? fun e => e.2.properties.fault?).isSome then [] else
    labels, if (d.edges.entries.findSome? fun e => e.2.properties.fault?).isSome ||
      (d.labels.entries.findSome? fun e => e.2.properties.fault?).isSome then [] else nodes,
    ?_, hre, ?_, ?_⟩
  · unfold assemble
    refine hedges.bind (comes_stage "edges" fun e _ => comes_edgeType e.1 e.2)
      (hlabels.bind (comes_stage "labels" fun e _ => comes_labelProperties e.1 e.2)
        (hlinks.bind (comes_stage_of_none "label connections" fun e _ => comes_labelLinks d e)
          (hnodes.bind (comes_stage "nodes" fun e _ => comes_bareNode d e.1 e.2) hrules.map rfl)
          rfl) rfl) ?_
    cases d.edges.entries.findSome? fun e => e.2.properties.fault? <;>
      cases d.labels.entries.findSome? fun e => e.2.properties.fault? <;> simp
  · dsimp only [Document.built]
    split
    · exact hR.nothing
    · exact hrl
  · dsimp only [Document.built]
    split
    · exact hR.nothing
    · exact hrn

theorem warnings_ofDocumentBy (gather : Gathering) {ws : List LogLine} {d : Document}
    (h : Warns (assemble gather d) ws) :
    (ofDocumentBy gather d).log.filter (·.level = .warning) = ws := by
  have hws : (assemble gather d).alone.2.warnings = ws := h .none
  rw [Findings.warnings] at hws
  unfold ofDocumentBy
  rcases hrun : (assemble gather d).alone with ⟨e | t, found⟩
  · rw [hrun] at hws
    exact hws
  · rw [hrun] at hws
    dsimp only
    split
    · rw [List.filter_append]
      exact (List.append_nil _).trans hws
    · rw [List.filter_append]
      exact (List.append_nil _).trans hws

theorem warned_flatten (placed : List (List (List String × Property))) :
    warned placed.flatten = (placed.map warned).flatten := by
  unfold warned
  simp only [List.flatMap_def]
  rw [List.map_flatten, List.flatten_flatten, List.map_map]
  rfl

theorem warnings_ofDocument (d : Document) :
    (ofDocument d).log.filter (·.level = .warning) = warned d.built.all := by
  obtain ⟨edges, labels, nodes, hws, rfl, rfl, rfl⟩ := warns_assemble Gathering.tellsBy_all d
  rw [ofDocument, warnings_ofDocumentBy _ hws, PlacedProperties.all, warned_flatten,
    List.map_append, List.map_append, List.flatten_append, List.flatten_append]

theorem eq_of_property {owner : List String} {key : String} {entry : PropertyEntry}
    {found found' : Findings} {p : Property}
    (h : (property owner key entry).run.run found = (.ok p, found')) : p = entry.property key := by
  have hp := comes_property owner key entry found
  cases hf : entry.fault? with
  | none =>
    rw [hf] at hp
    exact Except.ok.inj (congrArg Prod.fst (h.symm.trans hp))
  | some f =>
    rw [hf] at hp
    obtain ⟨f', hf'⟩ := hp
    exact nomatch h.symm.trans hf'

/-- The check of a build finds for each pattern of a property the first value that the pattern
rejects when it judges values. Of all it finds a build warns, whether it fails or not: of what the
properties of edges hold first, then of what those of labels and nodes hold, and of what one edge,
label or node holds in its order. Only a single worker keeps to the order of the edges, labels or
nodes themselves, and only a fault that is no defect keeps properties from being built. -/
theorem contradictions_told (d : Document) {workers : Nat} (s : Schedule workers) :
    (∀ owner key entry found p found',
      (property owner key entry).run.run found = (.ok p, found') →
      ∀ rs ∈ [p.values, p.keys], ∀ r ∈ rs, r.isRegexp = true →
        ∃ first, r.contradiction? rs = .ok first ∧ r.FirstRejected rs first) ∧
    (∃ edges labels nodes,
      (ofDocumentBy s.gather d).log.filter (·.level = .warning) = edges ++ labels ++ nodes ∧
      Interleaved (d.built.edges.map warned) edges ∧
      Interleaved (d.built.labels.map warned) labels ∧
      Interleaved (d.built.nodes.map warned) nodes) ∧
    (workers = 1 →
      (ofDocumentBy s.gather d).log.filter (·.level = .warning) = warned d.built.all) ∧
    ((∀ f, (ofDocumentBy s.gather d).result ≠ .error (.fault f)) → d.built = d.declared) := by
  refine ⟨?_, ?_, ?_, ?_⟩
  · intro owner key entry found p found' h rs hrs r hr hregexp
    obtain rfl := eq_of_property h
    exact PropertyEntry.contradiction?_of_mem hrs hr hregexp
  · obtain ⟨edges, labels, nodes, hws, hmerged⟩ := warns_assemble s.tellsBy d
    exact ⟨edges, labels, nodes, warnings_ofDocumentBy _ hws, hmerged⟩
  · intro h
    subst h
    rw [build_of_one, warnings_ofDocument]
  · intro h
    apply Document.built_eq
    rw [result_of_schedule, result_ofDocument] at h
    cases hf : d.fault? with
    | none => rfl
    | some f =>
      rw [hf] at h
      exact absurd rfl (h f)

def contradictory : Document := sample ⟨"int", ⟨["10", "20"], ["^1"], [], []⟩⟩ []

theorem contradictory_told :
    (∃ ls, (ofDocument contradictory).result = .error (.defective ls)) ∧
    (ofDocument contradictory).log.filter (·.level = .warning) =
      [⟨.warning, "template | nodes | n | properties | p | restrictions >> value restriction " ++
        "\"20\" can never match regexp restriction \"^1\""⟩] := by
  constructor
  · have hf : contradictory.fault? = none := by decide +kernel
    have hd : contradictory.defects ≠ [] := by decide +kernel
    rw [result_ofDocument, hf]
    exact ⟨_, if_neg hd⟩
  · rw [← build_of_one (.inOrder 1 Nat.one_pos),
      (contradictions_told contradictory (.inOrder 1 Nat.one_pos)).2.2.1 rfl]
    decide +kernel

def contradictoryNode : NodeEntry :=
  ⟨[], .ofList [("p", ⟨"int", ⟨["20"], ["^1"], [], []⟩⟩)], .empty⟩

def contradictoryLine (node : String) : LogLine :=
  ⟨.warning, "template | nodes | " ++ node ++ " | properties | p | restrictions >> " ++
    "value restriction \"20\" can never match regexp restriction \"^1\""⟩

def rivals : Document where
  labels := .empty
  nodes := .ofList [("m", contradictoryNode), ("n", contradictoryNode)]
  edges := .ofList [("e", ⟨.empty⟩)]

/-- A pattern that clashes, on an edge beside a node with a value that its pattern rejects. -/
def severed : Document where
  labels := .empty
  nodes := .ofList [("n", contradictoryNode)]
  edges := .ofList [("e", ⟨.ofList [("q", ⟨"string", ⟨[], ["(?a)(?u)"], [], []⟩⟩)]⟩)]

/-- Of two nodes the second can be told of first, and a fault of an edge keeps a node untold of. -/
theorem contradictions_disordered :
    (ofDocumentBy Schedule.overtaking.gather rivals).log.filter (·.level = .warning) ≠
      warned rivals.declared.all ∧
    (ofDocument severed).log.filter (·.level = .warning) ≠ warned severed.declared.all := by
  have hdeclared : warned rivals.declared.all =
      [contradictoryLine "m", contradictoryLine "n"] := by decide +kernel
  have htold : (ofDocumentBy Schedule.overtaking.gather rivals).log.filter (·.level = .warning) =
      [contradictoryLine "n", contradictoryLine "m"] := by decide +kernel
  have hsevered : warned severed.declared.all = [contradictoryLine "n"] := by decide +kernel
  have huntold : (ofDocument severed).log.filter (·.level = .warning) = [] := by decide +kernel
  rw [hdeclared, htold, hsevered, huntold]
  decide

end Build

end GraphTemplate
