import GraphTemplate.Proofs.Graph.Layout
import GraphTemplate.Proofs.Graph.Lookups

/-! A graph that nothing is edited in cannot be told from its layout: every change is answered by
whether it makes a difference to the layout, and every query by what the layout has. -/
namespace GraphTemplate.Layout

open GraphTemplate.Graph (PartialTriplet Change)

variable {w : Contents} {m : Layout}

theorem addNode_ne {n : NodeId} :
    decide (m.addNode w n ≠ m) = !(m.standing w n).isSome := by
  unfold addNode
  cases hs : m.standing w n with
  | some k =>
    rw [Option.isSome_some, if_pos rfl]
    exact decide_eq_false (not_not_intro rfl)
  | none =>
    refine decide_eq_true ?_
    intro he
    have hl := congrArg (List.length ∘ nodes) he
    simp at hl

theorem removeNode_ne {n : NodeId} :
    decide (m.removeNode w n ≠ m) = (m.standing w n).isSome := by
  unfold removeNode
  cases hs : m.standing w n with
  | none => exact decide_eq_false (not_not_intro rfl)
  | some k =>
    refine decide_eq_true ?_
    intro he
    have hmem := (of_standing hs).1
    rw [← congrArg nodes he] at hmem
    simpa using List.of_mem_filter hmem

theorem removeEdge_ne {t : PartialTriplet} :
    decide (m.removeEdge w t ≠ m) = decide (m.matching w t).Nonempty := by
  rw [Bool.eq_iff_iff, decide_eq_true_iff, decide_eq_true_iff]
  constructor
  · intro hne
    rw [Finset.nonempty_iff_ne_empty]
    intro he
    rw [removeEdge, he, Finset.sdiff_empty] at hne
    exact hne rfl
  · rintro ⟨u, hu⟩ he
    have hmem : u ∈ m.arcs := (Finset.mem_filter.mp hu).1
    rw [← congrArg arcs he] at hmem
    exact (Finset.mem_sdiff.mp hmem).2 hu

theorem addPart_of_standing {p : Option NodeId}
    (h : ((m.standingPart w p).isNone && p.isSome) = false) : m.addPart w p = m := by
  cases p with
  | none => rfl
  | some n =>
    have hs : (m.standing w n).isSome = true := by
      simpa [standingPart] using h
    exact if_pos hs

theorem nodes_addPart_of_missing {p : Option NodeId}
    (h : ((m.standingPart w p).isNone && p.isSome) = true) :
    m.nodes.length < (m.addPart w p).nodes.length := by
  cases p with
  | none => simp at h
  | some n =>
    have hs : m.standing w n = none := by
      simpa [standingPart] using h
    simp [addPart, addNode, hs]

theorem nodes_addPart_le (w : Contents) (m : Layout) (p : Option NodeId) :
    m.nodes.length ≤ (m.addPart w p).nodes.length := by
  cases hm : (m.standingPart w p).isNone && p.isSome with
  | true => exact (nodes_addPart_of_missing hm).le
  | false => rw [addPart_of_standing hm]

theorem nodes_addArc (m : Layout) (a b : Option NodeId) (e : Option EdgeId) :
    (m.addArc a b e).nodes = m.nodes := by
  unfold addArc
  split <;> rfl

theorem ne_of_nodes_length {m' : Layout} (h : m.nodes.length < m'.nodes.length) : m' ≠ m := by
  rintro rfl
  exact Nat.lt_irrefl _ h

/-- An arc between nodes that stand already is a new one, as none matches it. -/
theorem addArc_ne {t : PartialTriplet} (hne : ¬(m.matching w t).Nonempty) :
    decide (m.addArc (m.standingPart w t.main) (m.standingPart w t.subject) t.edge ≠ m) =
      ((m.standingPart w t.main).isSome && (m.standingPart w t.subject).isSome &&
        t.edge.isSome) := by
  cases ha : m.standingPart w t.main with
  | none => exact decide_eq_false (not_not_intro rfl)
  | some a =>
    cases hb : m.standingPart w t.subject with
    | none => exact decide_eq_false (not_not_intro rfl)
    | some b =>
      cases hi : t.edge with
      | none => exact decide_eq_false (not_not_intro rfl)
      | some i =>
        refine decide_eq_true ?_
        intro he
        have hmem : (⟨a, b, i⟩ : Triplet NodeId EdgeId) ∈ m.arcs := by
          rw [← congrArg arcs he]
          exact Finset.mem_insert_self _ _
        refine hne ⟨⟨a, b, i⟩, Finset.mem_filter.mpr ⟨hmem, ha, hb, ?_⟩⟩
        rw [hi]
        exact Entity.alike_refl _

theorem addTriplet_ne {t : PartialTriplet} :
    let m' := (m.addPart w t.main).addPart w t.subject
    decide (m.addTriplet w t ≠ m) = (!decide (m.matching w t).Nonempty &&
      ((m.standingPart w t.main).isNone && t.main.isSome ||
        (m.standingPart w t.subject).isNone && t.subject.isSome ||
        (m'.standingPart w t.main).isSome && (m'.standingPart w t.subject).isSome &&
          t.edge.isSome)) := by
  intro m'
  unfold addTriplet
  by_cases hne : (m.matching w t).Nonempty
  · rw [if_pos hne, decide_eq_true hne]
    exact decide_eq_false (not_not_intro rfl)
  rw [if_neg hne, decide_eq_false hne]
  have hmono := nodes_addPart_le w (m.addPart w t.main) t.subject
  cases hmain : (m.standingPart w t.main).isNone && t.main.isSome with
  | true =>
    refine decide_eq_true (ne_of_nodes_length ?_)
    rw [nodes_addArc]
    exact Nat.lt_of_lt_of_le (nodes_addPart_of_missing hmain) hmono
  | false =>
    have hm₁ := addPart_of_standing hmain
    cases hsubject : (m.standingPart w t.subject).isNone && t.subject.isSome with
    | true =>
      refine decide_eq_true (ne_of_nodes_length ?_)
      rw [nodes_addArc, hm₁]
      exact nodes_addPart_of_missing hsubject
    | false =>
      have hm' : m' = m := by
        show (m.addPart w t.main).addPart w t.subject = m
        rw [hm₁, addPart_of_standing hsubject]
      change decide (m'.addArc (m'.standingPart w t.main) (m'.standingPart w t.subject) t.edge ≠ m)
        = _
      rw [hm']
      exact addArc_ne hne

structure Apart (w : Contents) (m : Layout) : Prop where
  nodes : m.nodes.Pairwise fun a b => (w.node a).alike (w.node b) = false
  arcs : ∀ t ∈ m.arcs, ∀ u ∈ m.arcs, t.main = u.main → t.subject = u.subject →
    (w.edge t.edge).alike (w.edge u.edge) = true → t = u
  ends : ∀ t ∈ m.arcs, t.main ∈ m.nodes ∧ t.subject ∈ m.nodes

end GraphTemplate.Layout

namespace GraphTemplate.Graph

variable {w : Contents} {g g' : Graph} {m : Layout}

theorem Mirrors.perform (h : Mirrors w g m) {c : Change} (hc : c.Hashable w) :
    ∃ g', outcome (c.perform w) g = (.ok (decide (m.apply w c ≠ m)), g') ∧
      Mirrors w g' (m.apply w c) := by
  cases c with
  | addNode n =>
    refine ⟨g.place w (some n), ?_, h.placed (p := some n) fun k hk => Option.some.inj hk ▸ hc⟩
    unfold Layout.apply
    rw [Layout.addNode_ne]
    exact h.addNode hc
  | removeNode n =>
    unfold Layout.apply
    rw [Layout.removeNode_ne]
    exact h.removeNode hc
  | addTriplet t =>
    unfold Layout.apply
    rw [Layout.addTriplet_ne]
    exact h.addTriplet hc
  | removeEdge t =>
    unfold Layout.apply
    rw [Layout.removeEdge_ne]
    exact h.removeEdge hc

theorem Mirrors.performAll (h : Mirrors w g m) {cs : List Change}
    (hcs : ∀ c ∈ cs, c.Hashable w) :
    ∃ g', outcome (cs.mapM (Change.perform w)) g = (.ok (m.answers w cs), g') ∧
      Mirrors w g' (m.run w cs) := by
  induction cs generalizing g m with
  | nil => exact ⟨g, rfl, h⟩
  | cons c cs ih =>
    obtain ⟨g₁, hg₁, hm₁⟩ := h.perform (hcs c List.mem_cons_self)
    obtain ⟨g₂, hg₂, hm₂⟩ := ih hm₁ fun d hd => hcs d (List.mem_cons_of_mem c hd)
    refine ⟨g₂, ?_, hm₂⟩
    rw [List.mapM_cons, outcome_bind_ok hg₁, outcome_bind_ok hg₂]
    rfl

/-- All that a graph tells about itself is what the layout has, and it can be asked without a
change. -/
structure Agrees (w : Contents) (g : Graph) (m : Layout) : Prop where
  size : g.size = m.nodes.length
  nodes : g.nodes = m.nodes
  triplets : g.allTriplets w = .ok g.triplets ∧ g.triplets.Nodup ∧
    ∀ t, t ∈ g.triplets ↔ t ∈ m.arcs
  contains : ∀ n, (w.node n).isHashable = true →
    outcome (contains w n) g = (.ok (m.standing w n).isSome, g)
  tripletsOfNode : ∀ n, (w.node n).isHashable = true →
    ∃ ts, outcome (tripletsOfNode w n) g = (.ok ts, g) ∧ ts.Nodup ∧
      ∀ t, t ∈ ts ↔ t ∈ m.arcs ∧ m.standing w n = some t.main
  children : ∀ n, (w.node n).isHashable = true →
    ∃ cs, outcome (children w n) g = (.ok cs, g) ∧ cs.Nodup ∧
      ∀ s i, (s, i) ∈ cs ↔ ∃ k, m.standing w n = some k ∧ ⟨k, s, i⟩ ∈ m.arcs

theorem Mirrors.size (h : Mirrors w g m) : g.size = m.nodes.length := by
  rw [← h.nodes, h.settled.sound.indexed.size_eq]

theorem Mirrors.contains (h : Mirrors w g m) {n : NodeId} (hn : (w.node n).isHashable = true) :
    outcome (contains w n) g = (.ok (m.standing w n).isSome, g) := by
  unfold Graph.contains
  rw [outcome_bind_ok (h.settled.outcome_find hn), outcome_pure]
  cases hd : g.indexed? (w.node n) with
  | none => rw [h.standing_eq_none.mpr hd]
  | some r =>
    obtain ⟨row, -, hs⟩ := h.standing_of_indexed? hd
    rw [hs]
    rfl

theorem Mirrors.foundTriplets (h : Mirrors w g m) (n : NodeId) :
    (g.foundTriplets (g.indexed? (w.node n))).Nodup ∧
      ∀ t, t ∈ g.foundTriplets (g.indexed? (w.node n)) ↔
        t ∈ m.arcs ∧ m.standing w n = some t.main := by
  cases hd : g.indexed? (w.node n) with
  | none =>
    refine ⟨List.nodup_nil, fun t => ?_⟩
    rw [h.standing_eq_none.mpr hd]
    constructor
    · intro ht
      exact absurd ht List.not_mem_nil
    · rintro ⟨-, ht⟩
      exact nomatch ht
  | some r =>
    obtain ⟨row, hr, hs⟩ := h.standing_of_indexed? hd
    have hl := h.settled.sound.linked
    rw [foundTriplets_of_row? hr]
    refine ⟨hl.nodup_tripletsOfRow hr, fun t => ?_⟩
    rw [hl.mem_tripletsOfRow hr, h.arcs, hs, Option.some.injEq, eq_comm]

theorem Mirrors.tripletsOfNode (h : Mirrors w g m) {n : NodeId}
    (hn : (w.node n).isHashable = true) :
    ∃ ts, outcome (tripletsOfNode w n) g = (.ok ts, g) ∧ ts.Nodup ∧
      ∀ t, t ∈ ts ↔ t ∈ m.arcs ∧ m.standing w n = some t.main := by
  obtain ⟨htriplets, -⟩ := listings_of_find h.settled.sound (h.settled.outcome_find hn)
  exact ⟨_, htriplets, h.foundTriplets n⟩

theorem Mirrors.children (h : Mirrors w g m) {n : NodeId} (hn : (w.node n).isHashable = true) :
    ∃ cs, outcome (children w n) g = (.ok cs, g) ∧ cs.Nodup ∧
      ∀ s i, (s, i) ∈ cs ↔ ∃ k, m.standing w n = some k ∧ ⟨k, s, i⟩ ∈ m.arcs := by
  obtain ⟨-, hchildren⟩ := listings_of_find h.settled.sound (h.settled.outcome_find hn)
  obtain ⟨hd, hmem⟩ := h.foundTriplets n
  refine ⟨_, hchildren, ?_, ?_⟩
  · refine List.Nodup.map_on ?_ hd
    intro t ht u hu he
    have hm := ((hmem t).mp ht).2.symm.trans ((hmem u).mp hu).2
    obtain ⟨hs, hi⟩ := Prod.mk.inj he
    calc t = ⟨t.main, t.subject, t.edge⟩ := rfl
      _ = ⟨u.main, u.subject, u.edge⟩ := by rw [Option.some.inj hm, hs, hi]
  · intro s i
    rw [List.mem_map]
    constructor
    · rintro ⟨t, ht, he⟩
      obtain ⟨rfl, rfl⟩ := Prod.mk.inj he
      obtain ⟨hmem, hs⟩ := (hmem t).mp ht
      exact ⟨t.main, hs, hmem⟩
    · rintro ⟨k, hs, hk⟩
      exact ⟨⟨k, s, i⟩, (hmem _).mpr ⟨hk, hs⟩, rfl⟩

theorem Mirrors.agrees (h : Mirrors w g m) : Agrees w g m where
  size := h.size
  nodes := h.nodes
  triplets := by
    have hl := h.settled.sound.linked
    exact ⟨hl.allTriplets_eq w, hl.nodup_triplets, h.arcs⟩
  contains _ hn := h.contains hn
  tripletsOfNode _ hn := h.tripletsOfNode hn
  children _ hn := h.children hn

theorem Mirrors.apart (h : Mirrors w g m) : m.Apart w where
  nodes := by
    rw [← h.nodes, Graph.nodes, List.pairwise_map]
    refine h.settled.sound.linked.pairwise_liveRows.imp_of_mem ?_
    intro a b ha hb hne
    obtain ⟨r, hr⟩ := mem_liveRows.mp ha
    obtain ⟨s, hs⟩ := mem_liveRows.mp hb
    by_contra hal
    rw [Bool.not_eq_false] at hal
    have he := h.settled.entered hr
    rw [indexed?_congr hal, h.settled.entered hs] at he
    obtain rfl := Option.some.inj he
    rw [hr] at hs
    exact hne (congrArg Row.node (Option.some.inj hs))
  arcs := by
    intro t ht u hu hm hs hal
    have hl := h.settled.sound.linked
    obtain ⟨r, row, s, subject, hr, hsub, hrm, hsn, hi⟩ :=
      (mem_triplets hl.keyed).mp ((h.arcs t).mpr ht)
    have hu' := (h.arcs u).mpr hu
    have hue : u = ⟨row.node, subject.node, u.edge⟩ := by rw [hrm, hsn, hm, hs]
    rw [hue, hl.mem_triplets_iff hr hsub] at hu'
    rw [hue, ← h.settled.separate hi hu' hal, hrm, hsn]
  ends := by
    intro t ht
    rw [← h.nodes]
    exact h.settled.sound.linked.ends_mem_nodes ((h.arcs t).mpr ht)

/-- Every history of changes of an empty graph, with nothing edited on the way, is answered as its
layout answers it and leads to a graph that agrees with the layout. -/
theorem history_agrees (w : Contents) (cs : List Change) (h : ∀ c ∈ cs, c.Hashable w) :
    (Layout.empty.run w cs).Apart w ∧
      ∃ g, outcome (cs.mapM (Change.perform w)) empty = (.ok (Layout.empty.answers w cs), g) ∧
        Agrees w g (Layout.empty.run w cs) := by
  obtain ⟨g, hg, hm⟩ := (mirrors_empty w).performAll h
  exact ⟨hm.apart, g, hg, hm.agrees⟩

def parityContents : Contents where
  node n := ⟨if n % 2 = 0 then "even" else "odd", []⟩
  edge _ := ⟨"to", []⟩

def loopHistory : List Change :=
  [.addTriplet ⟨some 0, some 2, some 0⟩, .addTriplet ⟨some 2, some 0, some 1⟩,
    .addTriplet ⟨some 1, some 2, none⟩, .removeEdge ⟨some 2, some 2, some 5⟩, .removeNode 4]

theorem history_agrees_loop :
    (∀ c ∈ loopHistory, c.Hashable parityContents) ∧
      (Layout.empty.run parityContents loopHistory).Apart parityContents ∧
      ∃ g, outcome (loopHistory.mapM (Change.perform parityContents)) empty =
          (.ok (Layout.empty.answers parityContents loopHistory), g) ∧
        Agrees parityContents g (Layout.empty.run parityContents loopHistory) := by
  have h : ∀ c ∈ loopHistory, c.Hashable parityContents := by
    simp [loopHistory, Change.Hashable, parityContents, Entity.isHashable, Value.entriesFault?]
  exact ⟨h, history_agrees parityContents loopHistory h⟩

example : (outcome (loopHistory.mapM (Change.perform parityContents)) empty).1.toOption =
    some [true, false, true, true, true] := by
  decide +kernel

end GraphTemplate.Graph
