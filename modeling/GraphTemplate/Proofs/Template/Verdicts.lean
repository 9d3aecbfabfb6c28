import GraphTemplate.Proofs.Build.Rules
import GraphTemplate.Proofs.Template.Survey

/-! The verdict on a graph. It is good just if the nodes, the triplets and the numbers of edges are
as the template wants them. -/
namespace GraphTemplate.Template

open GraphTemplate.Graph

variable {t : Template} {w : Contents} {g : Graph} {n : NodeId}

def degree (w : Contents) (g : Graph) (n : NodeId) (link : Link) : Nat :=
  (g.outgoing n).countP fun u => linkOf w u.subject u.edge = link

structure Conforms (t : Template) (w : Contents) (g : Graph) (n : NodeId) : Prop where
  node : t.checkNode (w.node n) = .ok ()
  ends : ∀ u ∈ g.outgoing n,
    t.checkEdge (w.edge u.edge) = .ok () ∧ t.checkNode (w.node u.subject) = .ok ()
  used : ∀ u ∈ g.outgoing n, ∃ rule,
    t.rule? (w.node n).typeName (w.node u.subject).typeName (w.edge u.edge).typeName = some rule ∧
      rule.allows (degree w g n (linkOf w u.subject u.edge)) = true
  unused : ∀ rule ∈ t.rules.ofMain (w.node n).typeName,
    degree w g n (rule.subject, rule.edge) = 0 → rule.allows 0 = true

theorem count_links (link : Link) :
    ((g.outgoing n).map fun u => linkOf w u.subject u.edge).count link = degree w g n link := by
  unfold degree
  rw [List.count, List.countP_map]
  refine List.countP_congr fun u _ => ?_
  rw [Function.comp_apply, beq_iff_eq, decide_eq_true_iff]

theorem degree_eq_zero_iff {link : Link} :
    degree w g n link = 0 ↔ ∀ u ∈ g.outgoing n, linkOf w u.subject u.edge ≠ link := by
  unfold degree
  simp only [List.countP_eq_zero, decide_eq_true_eq, ne_eq]

theorem survey_eq_ok_iff : t.survey w g n = .ok () ↔ Conforms t w g n := by
  have hsurvey : t.survey w g n = .ok () ↔
      t.checkNode (w.node n) = .ok () ∧
        t.checkChildren w ((g.outgoing n).map fun u => (u.subject, u.edge)) = .ok () ∧
        t.checkLinks (w.node n).typeName ((g.outgoing n).map fun u => linkOf w u.subject u.edge) []
          ((g.outgoing n).map fun u => linkOf w u.subject u.edge) = .ok () ∧
        checkUnused ((g.outgoing n).map fun u => linkOf w u.subject u.edge)
          (t.rules.ofMain (w.node n).typeName) = .ok () := by
    rw [survey, Check.seq_eq_ok_iff, Check.seq_eq_ok_iff, Check.seq_eq_ok_iff]
  rw [hsurvey, checkChildren_eq_ok_iff, checkLinks_eq_ok_iff, checkUnused_eq_ok_iff]
  simp only [count_links, List.mem_map]
  constructor
  · rintro ⟨hnode, hends, hused, hunused⟩
    refine ⟨hnode, ?_, ?_, ?_⟩
    · intro u hu
      exact hends _ ⟨u, hu, rfl⟩
    · intro u hu
      exact hused _ ⟨u, hu, rfl⟩ List.not_mem_nil
    · intro rule hr hz
      refine hunused rule hr ?_
      rintro ⟨u, hu, he⟩
      exact degree_eq_zero_iff.mp hz u hu he
  · rintro ⟨hnode, hends, hused, hunused⟩
    refine ⟨hnode, ?_, ?_, ?_⟩
    · rintro _ ⟨u, hu, rfl⟩
      exact hends u hu
    · rintro _ ⟨u, hu, rfl⟩ -
      exact hused u hu
    · intro rule hr hn
      exact hunused rule hr (degree_eq_zero_iff.mpr fun u hu he => hn ⟨u, hu, he⟩)

theorem judgeGraph_iff_conforms (hg : g.Sound)
    (hh : ∀ n ∈ g.nodes, (w.node n).isHashable = true) :
    (t.judgeGraph w g).1 = .ok .valid ↔ ∀ n ∈ g.nodes, Conforms t w g n := by
  have hall : forM g.nodes (t.survey w g) = .ok () ↔ ∀ n ∈ g.nodes, Conforms t w g n := by
    rw [Check.forM_eq_ok_iff]
    simp only [survey_eq_ok_iff]
  rw [judgeGraph_eq_survey hg hh, ← hall]
  rcases forM g.nodes (t.survey w g) with (v | f) | _ <;> simp [Verdict.ofCheck]

def count (w : Contents) (g : Graph) (main : NodeId) (subject edge : String) : Nat :=
  g.triplets.countP fun u =>
    u.main = main ∧ (w.node u.subject).typeName = subject ∧ (w.edge u.edge).typeName = edge

theorem degree_eq_count (w : Contents) (g : Graph) (n : NodeId) (subject edge : String) :
    degree w g n (subject, edge) = count w g n subject edge := by
  unfold degree count outgoing
  rw [List.countP_filter]
  refine List.countP_congr fun u _ => ?_
  rw [Bool.and_eq_true, decide_eq_true_iff, decide_eq_true_iff, decide_eq_true_iff, linkOf,
    Prod.mk.injEq, and_comm]

def tripletOf (w : Contents) (u : Triplet NodeId EdgeId) :
    Triplet (Option Entity) (Option Entity) :=
  ⟨some (w.node u.main), some (w.node u.subject), some (w.edge u.edge)⟩

/-- A graph with nothing wrong about its nodes, its triplets or the numbers of its edges. -/
structure Satisfies (t : Template) (w : Contents) (g : Graph) : Prop where
  nodes : ∀ n ∈ g.nodes, t.checkNode (w.node n) = .ok ()
  triplets : ∀ u ∈ g.triplets, t.checkTriplet (tripletOf w u) = .ok ()
  counts : ∀ n ∈ g.nodes, ∀ r ∈ t.allRules, r.main = (w.node n).typeName →
    r.min ≤ count w g n r.subject r.edge ∧ (r.max = -1 ∨ count w g n r.subject r.edge ≤ r.max)

theorem satisfies_of_conforms (hp : t.rules.Placed) (hg : g.Linked)
    (h : ∀ n ∈ g.nodes, Conforms t w g n) : Satisfies t w g where
  nodes n hn := (h n hn).node
  triplets u hu := by
    have hmain := h u.main (hg.ends_mem_nodes hu).1
    have hout : u ∈ g.outgoing u.main := mem_outgoing.mpr ⟨hu, rfl⟩
    obtain ⟨rule, hrule, -⟩ := hmain.used u hout
    obtain ⟨hedge, hsubject⟩ := hmain.ends u hout
    refine checkTriplet_eq_ok_iff.mpr ⟨?_, hmain.node, hsubject, hedge⟩
    rw [hrule]
    rfl
  counts n hn r hr hmain := by
    have hrule : t.rule? r.main r.subject r.edge = some r := hp.mem_toList_iff.mp hr
    rw [← Rule.allows_iff, ← degree_eq_count]
    by_cases hz : degree w g n (r.subject, r.edge) = 0
    · rw [hz]
      exact (h n hn).unused r (hp.mem_ofMain_iff.mpr ⟨hr, hmain⟩) hz
    · rw [degree_eq_zero_iff] at hz
      push Not at hz
      obtain ⟨u, hu, hlink⟩ := hz
      obtain ⟨rule, hrule', ha⟩ := (h n hn).used u hu
      obtain ⟨hsubject, hedge⟩ := Prod.mk.inj hlink
      rw [← hmain, hsubject, hedge, hrule] at hrule'
      obtain rfl := Option.some.inj hrule'
      rwa [hlink] at ha

theorem conforms_of_satisfies (hp : t.rules.Placed) (h : Satisfies t w g) (hn : n ∈ g.nodes) :
    Conforms t w g n where
  node := h.nodes n hn
  ends u hu := by
    obtain ⟨-, -, hsubject, hedge⟩ :=
      checkTriplet_eq_ok_iff.mp (h.triplets u (mem_outgoing.mp hu).1)
    exact ⟨hedge, hsubject⟩
  used u hu := by
    obtain ⟨hu', rfl⟩ := mem_outgoing.mp hu
    obtain ⟨hrule, -⟩ := checkTriplet_eq_ok_iff.mp (h.triplets u hu')
    obtain ⟨rule, hrule⟩ := Option.isSome_iff_exists.mp hrule
    obtain ⟨hmain, hsubject, hedge⟩ := hp hrule
    refine ⟨rule, hrule, ?_⟩
    rw [Rule.allows_iff, linkOf, degree_eq_count, ← hsubject, ← hedge]
    refine h.counts u.main hn rule (hp.mem_toList_iff.mpr ?_) hmain
    rw [hmain, hsubject, hedge]
    exact hrule
  unused r hr hz := by
    obtain ⟨hr, hmain⟩ := hp.mem_ofMain_iff.mp hr
    have hc := h.counts n hn r hr hmain
    rw [← degree_eq_count, hz] at hc
    exact (r.allows_iff 0).mpr hc

/-- The verdict on a graph that histories of changes, lookups and edits lead to. -/
theorem judgeGraph_valid_iff {d : Document} {s : World} (ht : (Build.ofDocument d).result = .ok t)
    (hs : Reachable s) (hh : ∀ n ∈ s.graph.nodes, (s.contents.node n).isHashable = true) :
    (t.judgeGraph s.contents s.graph).1 = .ok .valid ↔
      (∀ n ∈ s.graph.nodes, t.checkNode (s.contents.node n) = .ok ()) ∧
      (∀ u ∈ s.graph.triplets, t.checkTriplet (tripletOf s.contents u) = .ok ()) ∧
      ∀ n ∈ s.graph.nodes, ∀ r ∈ t.allRules, r.main = (s.contents.node n).typeName →
        r.min ≤ count s.contents s.graph n r.subject r.edge ∧
          (r.max = -1 ∨ count s.contents s.graph n r.subject r.edge ≤ r.max) := by
  have hg := reachable_sound hs
  have hp : t.rules.Placed := by
    obtain ⟨hd, rfl⟩ := Build.clean_of_result ht
    exact hd.placed
  rw [judgeGraph_iff_conforms hg hh]
  constructor
  · intro h
    have hsat := satisfies_of_conforms hp hg.linked h
    exact ⟨hsat.nodes, hsat.triplets, hsat.counts⟩
  · rintro ⟨hnodes, htriplets, hcounts⟩ n hn
    exact conforms_of_satisfies hp ⟨hnodes, htriplets, hcounts⟩ hn

def successors : Document where
  labels := .empty
  nodes := .ofList [("n", ⟨[], .empty, .ofList [("n", [⟨"e", 1, 1⟩])]⟩)]
  edges := .ofList [("e", ⟨.empty⟩)]

def loop : World :=
  World.next ⟨⟨fun _ => ⟨"n", []⟩, fun _ => ⟨"e", []⟩⟩, Graph.empty⟩
    (.change (.addTriplet ⟨some 0, some 0, some 0⟩))

theorem judgeGraph_loop :
    (Build.ofDocument successors).result = .ok successors.template ∧ Reachable loop ∧
      (∀ n ∈ loop.graph.nodes, (loop.contents.node n).isHashable = true) ∧
      (successors.template.judgeGraph loop.contents loop.graph).1 = .ok .valid := by
  have ht : (Build.ofDocument successors).result = .ok successors.template := by
    have hf : successors.fault? = none := by decide
    have hd : successors.defects = [] := by decide
    rw [Build.result_ofDocument, hf]
    exact if_pos hd
  have hs : Reachable loop := .step _ (.init _)
  have hh : ∀ n ∈ loop.graph.nodes, (loop.contents.node n).isHashable = true := fun _ _ => rfl
  have hnodes : loop.graph.nodes = [0] := by decide +kernel
  have htriplets : loop.graph.triplets = [⟨0, 0, 0⟩] := by decide +kernel
  have hrules : successors.template.allRules = [⟨"n", "n", "e", 1, 1, none⟩] := by decide
  have hnode : successors.template.checkNode ⟨"n", []⟩ = .ok () := by decide +kernel
  have hedge : successors.template.checkEdge ⟨"e", []⟩ = .ok () := by decide +kernel
  have hrule : (successors.template.rule? "n" "n" "e").isSome = true := by decide
  refine ⟨ht, hs, hh, (judgeGraph_valid_iff ht hs hh).mpr ⟨fun _ _ => hnode, ?_, ?_⟩⟩
  · intro u _
    exact checkTriplet_eq_ok_iff.mpr ⟨hrule, hnode, hnode, hedge⟩
  · intro n hn r hr _
    rw [hnodes, List.mem_singleton] at hn
    rw [hrules, List.mem_singleton] at hr
    subst hn hr
    rw [count, htriplets]
    decide

end GraphTemplate.Template
