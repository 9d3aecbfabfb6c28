import GraphTemplate.Proofs.Template.Verdicts
import GraphTemplate.Proofs.Template.WellFormed

/-! Nodes with an edge whose other end is not known. Such a pair passes just if a node at the other
end could complete it, and so does either half of a triplet in a graph that passes. -/
namespace GraphTemplate.Template

open GraphTemplate.Graph

variable {t : Template} {w : Contents} {g : Graph}

/-- There is a rule for an edge between nodes of two types, in one direction or the other. -/
def Joinable (t : Template) (node other edge : String) : Prop :=
  (t.rule? node other edge).isSome = true ∨ (t.rule? other node edge).isSome = true

theorem joins_iff {node edge : String} {r : Rule} :
    joins node edge r = true ↔ r.edge = edge ∧ (r.main = node ∨ r.subject = node) := by
  rw [joins, Bool.and_eq_true, Bool.or_eq_true, beq_iff_eq, beq_iff_eq, beq_iff_eq]

theorem WellFormed.placed (ht : t.WellFormed) : t.rules.Placed :=
  fun _ _ _ _ hr => (ht.rules hr).names

/-- Rules are found by the names in them where the table has them under the same names. -/
theorem WellFormed.any_joins_iff (ht : t.WellFormed) {node edge : String} :
    t.allRules.any (joins node edge) = true ↔
      ∃ other ∈ t.nodes.names, t.Joinable node other edge := by
  have hmem {r : Rule} : r ∈ t.allRules ↔ t.rule? r.main r.subject r.edge = some r :=
    ht.placed.mem_toList_iff
  rw [List.any_eq_true]
  constructor
  · rintro ⟨r, hr, hj⟩
    have hrule := hmem.mp hr
    obtain ⟨hmain, hsubject, -⟩ := (ht.rules hrule).types
    obtain ⟨rfl, rfl | rfl⟩ := joins_iff.mp hj
    · exact ⟨r.subject, hsubject, .inl (Option.isSome_of_eq_some hrule)⟩
    · exact ⟨r.main, hmain, .inr (Option.isSome_of_eq_some hrule)⟩
  · rintro ⟨other, -, hrule | hrule⟩
    · obtain ⟨r, hr⟩ := Option.isSome_iff_exists.mp hrule
      obtain ⟨rfl, rfl, rfl⟩ := (ht.rules hr).names
      exact ⟨r, hmem.mpr hr, joins_iff.mpr ⟨rfl, .inl rfl⟩⟩
    · obtain ⟨r, hr⟩ := Option.isSome_iff_exists.mp hrule
      obtain ⟨rfl, rfl, rfl⟩ := (ht.rules hr).names
      exact ⟨r, hmem.mpr hr, joins_iff.mpr ⟨rfl, .inr rfl⟩⟩

theorem checkDuplet_eq_ok_iff {node edge : Entity} :
    t.checkDuplet (some node) (some edge) = .ok () ↔
      t.allRules.any (joins node.typeName edge.typeName) = true ∧
        t.checkNode node = .ok () ∧ t.checkEdge edge = .ok () := by
  have hrun : t.checkDuplet (some node) (some edge) =
      if t.allRules.any (joins node.typeName edge.typeName) = true then
        Check.within "Node of duplet" (t.checkNode node) >>= fun _ =>
          Check.within "Edge of duplet" (t.checkEdge edge)
      else Check.violated (.noConnection node.typeName edge.typeName) := by
    unfold checkDuplet
    simp only [present, bind, Except.bind]
    split <;> rfl
  rw [hrun]
  split
  · next hany =>
    rw [Check.seq_eq_ok_iff, Check.within_eq_ok, Check.within_eq_ok]
    exact ⟨fun h => ⟨hany, h⟩, fun h => h.2⟩
  · next hany =>
    constructor
    · intro h
      cases h
    · intro h
      exact absurd h.1 hany

theorem WellFormed.checkDuplet_iff (ht : t.WellFormed) {node edge : Entity} :
    t.checkDuplet (some node) (some edge) = .ok () ↔
      t.checkNode node = .ok () ∧ t.checkEdge edge = .ok () ∧
        ∃ other ∈ t.nodes.names, t.Joinable node.typeName other edge.typeName := by
  rw [checkDuplet_eq_ok_iff, ht.any_joins_iff]
  constructor
  · rintro ⟨hother, hnode, hedge⟩
    exact ⟨hnode, hedge, hother⟩
  · rintro ⟨hnode, hedge, hother⟩
    exact ⟨hother, hnode, hedge⟩

/-- A node type that is declared is one of the template's. -/
theorem mem_names_of_checkNode {e : Entity} (h : t.checkNode e = .ok ()) :
    e.typeName ∈ t.nodes.names := by
  rw [NameTable.mem_names_iff]
  unfold checkNode checkEntity at h
  cases htype : (t.typesOf .node).get? e.typeName with
  | some type => exact ⟨type, htype⟩
  | none =>
    rw [htype] at h
    exact nomatch h

/-- Both halves of a triplet pass with it. -/
theorem WellFormed.halves_of_triplet (ht : t.WellFormed) {main subject edge : Entity}
    (h : t.checkTriplet ⟨some main, some subject, some edge⟩ = .ok ()) :
    t.checkDuplet (some main) (some edge) = .ok () ∧
      t.checkDuplet (some subject) (some edge) = .ok () := by
  obtain ⟨hrule, hmain, hsubject, hedge⟩ := checkTriplet_eq_ok_iff.mp h
  rw [ht.checkDuplet_iff, ht.checkDuplet_iff]
  exact ⟨⟨hmain, hedge, _, mem_names_of_checkNode hsubject, .inl hrule⟩,
    hsubject, hedge, _, mem_names_of_checkNode hmain, .inr hrule⟩

/-- A stored node that cannot be hashed is not looked up. -/
theorem exists_outcome_find_eq_error {n : NodeId} (hi : g.Indexed) (hn : n ∈ g.nodes)
    (hh : (w.node n).isHashable = false) : ∃ f, outcome (find w n) g = (.error f, g) := by
  obtain ⟨r, hr⟩ : ∃ r, g.rowOf? n = some r := by
    rw [← Option.ne_none_iff_exists']
    exact fun h => rowOf?_eq_none_iff.mp h hn
  obtain ⟨row, hrow, rfl⟩ := row_of_rowOf? hr
  have hhashed : ∃ f, (w.node row.node).hashed = .error f := by
    cases h : (w.node row.node).hashed with
    | error f => exact ⟨f, rfl⟩
    | ok e => exact absurd (Entity.hashed_eq_ok_iff.mp h).1 (Bool.eq_false_iff.mp hh)
  obtain ⟨f, hf⟩ := hhashed
  refine ⟨f, ?_⟩
  obtain ⟨c, hk⟩ := hi.exists_key hrow
  rw [outcome_find_stored hi hr]
  apply outcome_bind_error
  rw [outcome_refresh hrow hk, hf]

theorem isHashable_of_checkMain {g' : Graph} {n : NodeId} (hi : g.Indexed) (hn : n ∈ g.nodes)
    (h : (t.checkMain w n).run.run g = (.ok (), g')) : (w.node n).isHashable = true := by
  by_contra hh
  obtain ⟨f, hf⟩ := exists_outcome_find_eq_error hi hn (Bool.eq_false_iff.mpr hh)
  have hchildren : outcome (children w n) g = (.error f, g) := by
    unfold children
    exact outcome_bind_error hf
  have hasked : (asked (children w n)).run.run g = (.error (.fault f), g) := by
    rw [run_asked_eq, hchildren]
    rfl
  have hjudged : (judged (t.checkNode (w.node n))).run.run g = (t.checkNode (w.node n), g) := rfl
  rw [checkMain, run_bind, hjudged] at h
  cases hnode : t.checkNode (w.node n) with
  | error e =>
    rw [hnode] at h
    exact nomatch (Prod.mk.inj h).1
  | ok _ =>
    rw [hnode] at h
    dsimp only at h
    rw [run_bind, hasked] at h
    exact nomatch (Prod.mk.inj h).1

theorem isHashable_of_checkMains (hg : g.Sound) {g' : Graph} {ns : List NodeId}
    (hn : ∀ n ∈ ns, n ∈ g.nodes) (h : (t.checkMains w ns).run.run g = (.ok (), g')) :
    ∀ n ∈ ns, (w.node n).isHashable = true := by
  induction ns generalizing g with
  | nil => exact fun _ hn => absurd hn List.not_mem_nil
  | cons n ns ih =>
    rw [List.forall_mem_cons] at hn ⊢
    rw [checkMains, run_bind] at h
    rcases hmain : (t.checkMain w n).run.run g with ⟨e | _, g₁⟩
    · rw [hmain] at h
      exact nomatch (Prod.mk.inj h).1
    · have hh := isHashable_of_checkMain hg.indexed hn.1 hmain
      obtain ⟨g₂, hrun, hs, hf⟩ := comesTo_checkMain (t := t) hg hn.1 hh
      obtain rfl : g₂ = g₁ := (Prod.mk.inj (hrun.symm.trans hmain)).2
      rw [hmain] at h
      refine ⟨hh, ih hs ?_ h⟩
      rw [nodes_of_rows hf]
      exact hn.2

/-- In a graph that passes, every node could be looked up. -/
theorem isHashable_of_judgeGraph (hg : g.Sound) (h : (t.judgeGraph w g).1 = .ok .valid) :
    ∀ n ∈ g.nodes, (w.node n).isHashable = true := by
  rcases hrun : (t.checkMains w g.nodes).run.run g with ⟨e | _, g'⟩
  · have hgraph : (t.checkGraph w).run.run g = (.error e, g') := by
      rw [checkGraph, run_bind]
      exact hrun
    rw [judgeGraph, hgraph] at h
    cases e <;> simp [Verdict.ofCheck] at h
  · exact isHashable_of_checkMains hg (fun _ hn => hn) hrun

/-- A node and an edge pass just if both do and a node type could be at the other end; in a graph
that passes, both ends of every edge pass with it. -/
theorem checkDuplet_completable {d : Document} (ht : (Build.ofDocument d).result = .ok t) :
    (∀ node edge : Entity, t.checkDuplet (some node) (some edge) = .ok () ↔
      t.checkNode node = .ok () ∧ t.checkEdge edge = .ok () ∧
        ∃ other ∈ t.nodes.names,
          (t.rule? node.typeName other edge.typeName).isSome = true ∨
            (t.rule? other node.typeName edge.typeName).isSome = true) ∧
    ∀ s : World, Reachable s → (t.judgeGraph s.contents s.graph).1 = .ok .valid →
      ∀ u ∈ s.graph.triplets,
        t.checkDuplet (some (s.contents.node u.main)) (some (s.contents.edge u.edge)) = .ok () ∧
        t.checkDuplet (some (s.contents.node u.subject)) (some (s.contents.edge u.edge)) =
          .ok () := by
  have hw := (Build.wellFormed_of_result ht).1
  refine ⟨fun node edge => hw.checkDuplet_iff, fun s hs hv u hu => ?_⟩
  have hg := reachable_sound hs
  have hconforms := (judgeGraph_iff_conforms hg (isHashable_of_judgeGraph hg hv)).mp hv
  exact hw.halves_of_triplet ((satisfies_of_conforms hw.placed hg.linked hconforms).triplets u hu)

def oneWay : Document where
  labels := .empty
  nodes := .ofList
    [("m", ⟨[], .empty, .ofList [("n", [⟨"e", 1, -1⟩])]⟩), ("n", ⟨[], .empty, .empty⟩)]
  edges := .ofList [("e", ⟨.ofList [("p", ⟨"array-int", ⟨[], [], [], []⟩⟩)]⟩)]

/-- An edge that is stored although it could not be looked up. -/
def octetEdge : World :=
  World.next
    ⟨⟨fun n => if n = 0 then ⟨"m", []⟩ else ⟨"n", []⟩,
      fun _ => ⟨"e", [(.text "p", .bytes true [7])]⟩⟩, Graph.empty⟩
    (.change (.addTriplet ⟨some 0, some 1, some 0⟩))

theorem checkDuplet_octetEdge :
    (Build.ofDocument oneWay).result = .ok oneWay.template ∧ Reachable octetEdge ∧
      (oneWay.template.judgeGraph octetEdge.contents octetEdge.graph).1 = .ok .valid ∧
      (octetEdge.contents.edge 0).isHashable = false ∧
      oneWay.template.checkDuplet (some (octetEdge.contents.node 1))
        (some (octetEdge.contents.edge 0)) = .ok () := by
  have ht : (Build.ofDocument oneWay).result = .ok oneWay.template :=
    Build.result_of_no_defects (by decide) (by decide)
  have hs : Reachable octetEdge := .step _ (.init _)
  have hv : (oneWay.template.judgeGraph octetEdge.contents octetEdge.graph).1 = .ok .valid := by
    decide +kernel
  have htriplets : octetEdge.graph.triplets = [⟨0, 1, 0⟩] := by decide +kernel
  have hu : (⟨0, 1, 0⟩ : Triplet NodeId EdgeId) ∈ octetEdge.graph.triplets := by
    rw [htriplets]
    exact List.mem_singleton_self _
  exact ⟨ht, hs, hv, rfl, ((checkDuplet_completable ht).2 octetEdge hs hv _ hu).2⟩

end GraphTemplate.Template
