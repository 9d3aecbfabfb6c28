import GraphTemplate.Proofs.Build.Expansion
import GraphTemplate.Proofs.Build.Limits
import Mathlib.Data.String.Basic

/-! What the build of a document comes to: its first fault, or else the lines of all its defects, or
else its template. -/
namespace GraphTemplate.Build

open Assembly

variable {d : Document}

theorem get?_nodeTable {e : String × NodeEntry} (he : e ∈ d.nodes.entries) :
    (((NameTable.ofList d.bareNodes).get? e.1).map BareNode.labels).getD [] = d.wornLabels e.2 := by
  rw [Document.bareNodes, NameTable.get?_ofList_map, NameTable.get?_eq_some_iff.mpr he]
  rfl

theorem comes_nodeLinks (d : Document) (e : String × NodeEntry) :
    Comes (d.scope.nodeLinks e.1 (d.wornLabels e.2) e.2.connections) none (d.nodeTable e)
      ⟨d.connectionDefects .node e.1 e.2.connections.entries, []⟩ := by
  refine Linking.comes_addSubjects (Document.follows_nodeLinking e.1) e.2.connections.distinct ?_
  intro s _ edge
  -- what a label gives may be declared again
  unfold Linking.isRepeated
  rw [Option.any_eq_false_iff_get]
  intro h
  have := Scope.isSome_label_of_expand (Option.some_get h).symm
  simp [Document.nodeLinking, this]

theorem comes_assemble (gather : Gathering) (d : Document) :
    Comes (assemble gather d) d.fault? d.template (d.findings gather) := by
  have hedges : Comes (stage gather _ _ _) _ _ _ :=
    comes_stage "edges" fun e (_ : e ∈ d.edges.entries) => comes_edgeType e.1 e.2
  have hlabels : Comes (stage gather _ _ _) _ _ _ :=
    comes_stage "labels" fun e (_ : e ∈ d.labels.entries) => comes_labelProperties e.1 e.2
  have hlinks : Comes (stage gather _ _ _) _ _ _ :=
    comes_stage_of_none "label connections" fun e (_ : e ∈ d.labels.entries) => comes_labelLinks d e
  have hnodes : Comes (stage gather _ _ _) _ _ _ :=
    comes_stage "nodes" fun e (_ : e ∈ d.nodes.entries) => comes_bareNode d e.1 e.2
  have hrules : Comes (stage gather "node connections" (fun name entry => d.scope.nodeLinks name
      (((NameTable.ofList d.bareNodes).get? name).map BareNode.labels |>.getD [])
      entry.connections) d.nodes.entries) none (d.nodes.entries.map fun e => (e.1, d.nodeTable e))
      (stageFindings gather "node connections"
        (fun e => ⟨d.connectionDefects .node e.1 e.2.connections.entries, []⟩)
        d.nodes.entries) := by
    refine comes_stage_of_none _ fun e he => ?_
    rw [get?_nodeTable he]
    exact comes_nodeLinks d e
  unfold assemble
  refine hedges.bind (hlabels.bind (hlinks.bind (hnodes.bind (hrules.map rfl) Option.or_none rfl)
    Option.none_or rfl) rfl rfl) ?_ rfl
  exact Option.or_assoc.symm

theorem perm_lines (defects : List Defect) : (lines defects).Perm (defects.map Defect.line) :=
  PropertyKeys.perm_sorted _

theorem pairwise_lines (defects : List Defect) : (lines defects).Pairwise (· ≤ ·) :=
  PropertyKeys.pairwise_sorted _

/-- Sorted lines tell only what is told. -/
theorem lines_congr {defects defects' : List Defect} (h : defects.Perm defects') :
    lines defects = lines defects' := by
  have hlines : (lines defects).Perm (lines defects') :=
    (perm_lines _).trans ((h.map _).trans (perm_lines _).symm)
  exact hlines.eq_of_pairwise (fun _ _ _ _ => le_antisymm) (pairwise_lines _) (pairwise_lines _)

/-- What a build comes to does not depend on the order in which its defects come to light. -/
theorem result_ofDocumentBy {gather : Gathering} (hg : gather.KeepsDefects) (d : Document) :
    (ofDocumentBy gather d).result = match d.fault? with
      | some f => .error (.fault f)
      | none =>
        if d.defects = [] then .ok d.template else .error (.defective (lines d.defects)) := by
  have h := comes_assemble gather d
  unfold ofDocumentBy
  cases hf : d.fault? with
  | some f =>
    rw [hf] at h
    have hfst := h.fst_alone
    rcases hrun : (assemble gather d).alone with ⟨result, found⟩
    rw [hrun] at hfst
    obtain rfl : result = .error f := hfst
    rfl
  | none =>
    rw [hf] at h
    have hperm := d.perm_defects_findings hg
    rw [h.alone_eq]
    dsimp only
    by_cases hd : d.defects = []
    · rw [hd] at hperm
      rw [if_pos hd, hperm.eq_nil]
      rfl
    · have hne : (d.findings gather).defects ≠ [] := fun he => hd (he ▸ hperm).nil_eq.symm
      rw [if_neg hd, if_neg (by rwa [List.isEmpty_iff]), lines_congr hperm]

theorem result_ofDocument (d : Document) :
    (ofDocument d).result = match d.fault? with
      | some f => .error (.fault f)
      | none =>
        if d.defects = [] then .ok d.template else .error (.defective (lines d.defects)) :=
  result_ofDocumentBy Gathering.keepsDefects_all d

theorem result_of_no_defects {d : Document} (hf : d.fault? = none) (hd : d.defects = []) :
    (ofDocument d).result = .ok d.template := by
  rw [result_ofDocument, hf]
  exact if_pos hd

/-- Templates of sources are templates of the documents that the sources hold. -/
theorem exists_document {compose : Yaml.Composer} {source : Yaml.Source} {t : Template}
    (h : (ofSourceBy compose source).result = .ok t) : ∃ d, (ofDocument d).result = .ok t := by
  unfold ofSourceBy at h
  split at h
  · exact nomatch h
  · exact nomatch h
  · split at h
    · exact nomatch h
    · exact nomatch h
    · next d _ =>
      split at h
      · exact nomatch h
      · split at h
        · exact nomatch h
        · exact ⟨d, h⟩

def sample (p : PropertyEntry) (cs : List ConnectionEntry) : Document where
  labels := .empty
  nodes := .ofList [("n", ⟨["l"], .ofList [("p", p)], .ofList [("n", cs)]⟩)]
  edges := .ofList [("e", ⟨.empty⟩)]

end GraphTemplate.Build
