import GraphTemplate.Verdict
import GraphTemplate.Proofs.Graph.Lookups
import GraphTemplate.Proofs.Template.Checks

/-! The check of a graph without its lookups. A lookup of a stored node changes nothing that a later
one finds, so a graph is checked node after node, each by what the graph lists in the beginning. -/
namespace GraphTemplate.Template

open GraphTemplate.Graph

variable {t : Template} {w : Contents} {g g' : Graph} {n : NodeId}

def survey (t : Template) (w : Contents) (g : Graph) (n : NodeId) : Check Unit := do
  let links := (g.outgoing n).map fun u => linkOf w u.subject u.edge
  t.checkNode (w.node n)
  t.checkChildren w ((g.outgoing n).map fun u => (u.subject, u.edge))
  t.checkLinks (w.node n).typeName links [] links
  checkUnused links (t.rules.ofMain (w.node n).typeName)

theorem survey_of_rows (h : g'.rows = g.rows) : t.survey w g' = t.survey w g := by
  funext n
  simp only [survey, outgoing_of_rows h]

section

variable {m m' : GraphCheck Unit} {c c' : Check Unit}

def ComesTo (m : GraphCheck Unit) (g : Graph) (c : Check Unit) : Prop :=
  ∃ g', m.run.run g = (c, g') ∧ g'.Sound ∧ g'.rows = g.rows

theorem comesTo_judged (hg : g.Sound) (c : Check Unit) : ComesTo (judged c) g c :=
  ⟨g, rfl, hg, rfl⟩

theorem ComesTo.seq (h : ComesTo m g c)
    (h' : ∀ g', g'.Sound → g'.rows = g.rows → ComesTo m' g' c') :
    ComesTo (m >>= fun _ => m') g (c >>= fun _ => c') := by
  obtain ⟨g₁, hm, hs, hf⟩ := h
  cases c with
  | error e =>
    refine ⟨g₁, ?_, hs, hf⟩
    rw [run_bind, hm]
    rfl
  | ok =>
    obtain ⟨g₂, hm', hs', hf'⟩ := h' g₁ hs hf
    refine ⟨g₂, ?_, hs', hf'.trans hf⟩
    rw [run_bind, hm]
    exact hm'

/-- A check without lookups leaves the very graph to what comes after it. -/
theorem ComesTo.judged_seq (hg : g.Sound) (c : Check Unit) (h : ComesTo m g c') :
    ComesTo (judged c >>= fun _ => m) g (c >>= fun _ => c') := by
  cases c with
  | error e => exact ⟨g, rfl, hg, rfl⟩
  | ok =>
    obtain ⟨g', hm, hs, hf⟩ := h
    refine ⟨g', ?_, hs, hf⟩
    rw [run_bind]
    exact hm

theorem run_asked_eq {α : Type} (a : Action α) (g : Graph) : (asked a).run.run g =
    ((outcome a g).1.mapError Failure.fault, (outcome a g).2) := rfl

theorem run_asked {α : Type} {a : Action α} {b : α} (h : outcome a g = (.ok b, g')) :
    (asked a).run.run g = (.ok b, g') := by
  rw [run_asked_eq, h]
  rfl

theorem comesTo_asked {α : Type} {a : Action α} {b : α} {k : α → GraphCheck Unit}
    (h : outcome a g = (.ok b, g')) (hf : g'.rows = g.rows) (hk : ComesTo (k b) g' c) :
    ComesTo (asked a >>= k) g c := by
  obtain ⟨g₂, hm, hs, hf'⟩ := hk
  refine ⟨g₂, ?_, hs, hf'.trans hf⟩
  rw [run_bind, run_asked h]
  exact hm

end

theorem comesTo_checkMain (hg : g.Sound) (hn : n ∈ g.nodes) (hh : (w.node n).isHashable = true) :
    ComesTo (t.checkMain w n) g (t.survey w g n) := by
  obtain ⟨g₁, -, hcs, hs₁, hf₁⟩ := listings_stored hg hn hh
  have hn₁ : n ∈ g₁.nodes := by rwa [nodes_of_rows hf₁]
  obtain ⟨g₂, hts, -, hs₂, hf₂⟩ := listings_stored hs₁ hn₁ hh
  rw [outgoing_of_rows hf₁] at hts
  have hlinks : ((g.outgoing n).map fun u => (u.subject, u.edge)).map (fun c => linkOf w c.1 c.2) =
      (g.outgoing n).map fun u => linkOf w u.subject u.edge := by
    rw [List.map_map]
    rfl
  apply ComesTo.judged_seq hg
  apply comesTo_asked hcs hf₁
  apply ComesTo.judged_seq hs₁
  apply comesTo_asked hts hf₂
  rw [hlinks]
  apply ComesTo.judged_seq hs₂
  exact comesTo_judged hs₂ _

theorem comesTo_checkMains (hg : g.Sound) {ns : List NodeId} (hn : ∀ n ∈ ns, n ∈ g.nodes)
    (hh : ∀ n ∈ ns, (w.node n).isHashable = true) :
    ComesTo (t.checkMains w ns) g (forM ns (t.survey w g)) := by
  induction ns generalizing g with
  | nil => exact comesTo_judged hg (.ok ())
  | cons n ns ih =>
    rw [List.forall_mem_cons] at hn hh
    apply (comesTo_checkMain hg hn.1 hh.1).seq
    intro g' hs hf
    rw [← survey_of_rows hf]
    apply ih hs _ hh.2
    rw [nodes_of_rows hf]
    exact hn.2

theorem judgeGraph_eq_survey (hg : g.Sound)
    (hh : ∀ n ∈ g.nodes, (w.node n).isHashable = true) :
    (t.judgeGraph w g).1 =
      Verdict.ofCheck (fun _ => .valid) (forM g.nodes (t.survey w g)) := by
  obtain ⟨g', hrun, -⟩ := comesTo_checkMains (t := t) hg (fun _ h => h) hh
  have hgraph : (t.checkGraph w).run.run g = (forM g.nodes (t.survey w g), g') := by
    rw [checkGraph, run_bind]
    exact hrun
  rw [judgeGraph, hgraph]

end GraphTemplate.Template
